import KubeCell.Lib.Text

/-!
# Strings of bytes

A string of Go is any sequence of bytes. Where its characters are looked at, it is decoded as UTF-8, and a byte that
starts no character counts as one of its own, the replacement character.
-/

namespace KubeCell

/-- A string as Go has it: bytes, which need not be UTF-8. -/
abbrev GoString : Type := List UInt8

/-- The bytes of a text. -/
def GoString.ofText (text : String) : GoString := text.toList.flatMap String.utf8EncodeChar

namespace GoString

/-- `utf8.RuneError`. -/
def runeError : Nat := 0xFFFD

/-- How many bytes a character has that starts with a byte outside ASCII, and between which bounds the second one is. -/
def leadByte (b : Nat) : Option (Nat × Nat × Nat) :=
  if 0xC2 ≤ b ∧ b ≤ 0xDF then some (2, 0x80, 0xBF)
  else if b = 0xE0 then some (3, 0xA0, 0xBF)
  else if 0xE1 ≤ b ∧ b ≤ 0xEC ∨ 0xEE ≤ b ∧ b ≤ 0xEF then some (3, 0x80, 0xBF)
  else if b = 0xED then some (3, 0x80, 0x9F)
  else if b = 0xF0 then some (4, 0x90, 0xBF)
  else if 0xF1 ≤ b ∧ b ≤ 0xF3 then some (4, 0x80, 0xBF)
  else if b = 0xF4 then some (4, 0x80, 0x8F)
  else none

/-- A byte that goes on with a character. -/
def continues (b : Nat) : Bool := 0x80 ≤ b && b ≤ 0xBF

/-- `utf8.DecodeRuneInString`: the first character, by its code point, and the number of its bytes. -/
def decodeRune (b : UInt8) (rest : GoString) : Nat × Nat :=
  if b.toNat < 0x80 then (b.toNat, 1)
  else
    match leadByte b.toNat, rest.map UInt8.toNat with
    | some (2, low, high), b1 :: _ =>
      if low ≤ b1 ∧ b1 ≤ high then (b.toNat % 32 * 64 + b1 % 64, 2) else (runeError, 1)
    | some (3, low, high), b1 :: b2 :: _ =>
      if (low ≤ b1 ∧ b1 ≤ high) ∧ continues b2 then (b.toNat % 16 * 4096 + b1 % 64 * 64 + b2 % 64, 3)
        else (runeError, 1)
    | some (4, low, high), b1 :: b2 :: b3 :: _ =>
      if (low ≤ b1 ∧ b1 ≤ high) ∧ continues b2 ∧ continues b3 then
        (b.toNat % 8 * 262144 + b1 % 64 * 4096 + b2 % 64 * 64 + b3 % 64, 4)
      else (runeError, 1)
    | _, _ => (runeError, 1)

/-- The characters a loop over a string meets; `skip` bytes of a character are still to be passed over. -/
def runes (skip : Nat) : GoString → List Nat
  | [] => []
  | b :: rest =>
    match skip with
    | skip + 1 => runes skip rest
    | 0 => (decodeRune b rest).1 :: runes ((decodeRune b rest).2 - 1) rest

/-- `utf8.AppendRune`: the bytes of a character. -/
def encodeRune (r : Nat) : GoString :=
  if h : r.isValidChar then String.utf8EncodeChar (Char.ofNatAux r h) else String.utf8EncodeChar (Char.ofNat runeError)

/-- `strings.TrimSpace` leaves nothing. -/
def isAllSpace (value : GoString) : Bool := (runes 0 value).all fun r => isSpace (Char.ofNat r)

/-- `strings.ToLower`; outside ASCII it is by characters, with `unicode.ToLower`. -/
def toLower (unicodeToLower : Nat → Nat) (value : GoString) : GoString :=
  if value.all fun b => b.toNat < 0x80 then
    value.map fun b => if 0x41 ≤ b.toNat ∧ b.toNat ≤ 0x5A then b + 0x20 else b
  else (runes 0 value).flatMap fun r => encodeRune (unicodeToLower r)

/-! ## ASCII -/

/-- What a first byte says of the character is enough to know that it is outside ASCII. -/
theorem leadByte_bounds {b n low high : Nat} (h : leadByte b = some (n, low, high)) :
    high ≤ 0xBF ∧ (n = 2 → 2 ≤ b % 32) ∧ (n = 3 → 1 ≤ b % 16 ∨ 0xA0 ≤ low) ∧ (n = 4 → 1 ≤ b % 8 ∨ 0x90 ≤ low) := by
  unfold leadByte at h
  split_ifs at h <;> simp only [Option.some.injEq, Prod.mk.injEq] at h <;> omega

/-- A character of ASCII is decoded from its own byte. -/
theorem decodeRune_of_lt {b : UInt8} {rest : GoString} (h : (decodeRune b rest).1 < 0x80) : b.toNat < 0x80 := by
  by_contra hb
  rw [decodeRune, if_neg hb] at h
  split at h
  · rename_i hlead _
    obtain ⟨-, hbounds, -, -⟩ := leadByte_bounds hlead
    split_ifs at h <;> simp only [runeError] at h <;> omega
  · rename_i hlead _
    obtain ⟨hhigh, -, hbounds, -⟩ := leadByte_bounds hlead
    split_ifs at h <;> simp only [runeError] at h <;> omega
  · rename_i hlead _
    obtain ⟨hhigh, -, -, hbounds⟩ := leadByte_bounds hlead
    split_ifs at h <;> simp only [runeError] at h <;> omega
  · exact absurd h (by decide)

theorem decodeRune_ascii {b : UInt8} (hb : b.toNat < 0x80) (rest : GoString) : decodeRune b rest = (b.toNat, 1) := by
  rw [decodeRune, if_pos hb]

/-- The characters of ASCII bytes are the bytes. -/
theorem runes_ascii {value : GoString} (h : ∀ b ∈ value, b.toNat < 0x80) : runes 0 value = value.map UInt8.toNat := by
  induction value with
  | nil => rfl
  | cons b rest ih =>
    rw [runes, decodeRune_ascii (h b List.mem_cons_self), List.map_cons, ← ih fun b' hb' =>
      h b' (List.mem_cons_of_mem _ hb')]
    rfl

/-- When all characters are ASCII, so are the bytes. -/
theorem ascii_of_runes {value : GoString} (h : ∀ r ∈ runes 0 value, r < 0x80) : ∀ b ∈ value, b.toNat < 0x80 := by
  induction value with
  | nil => exact fun b hb => nomatch hb
  | cons b rest ih =>
    rw [runes] at h
    have hb := decodeRune_of_lt (h _ List.mem_cons_self)
    rw [decodeRune_ascii hb] at h
    intro b' hb'
    rcases List.mem_cons.mp hb' with rfl | hb'
    · exact hb
    · exact ih (fun r hr => h r (List.mem_cons_of_mem _ hr)) b' hb'

/-- The characters are all of a set of ASCII characters exactly when the bytes are. -/
theorem runes_forall_iff {P : Nat → Prop} (hP : ∀ r, P r → r < 0x80) (value : GoString) :
    (∀ r ∈ runes 0 value, P r) ↔ ∀ b ∈ value, P b.toNat := by
  constructor
  · intro h b hb
    rw [runes_ascii (ascii_of_runes fun r hr => hP r (h r hr))] at h
    exact h b.toNat (List.mem_map_of_mem hb)
  · intro h
    rw [runes_ascii fun b hb => hP _ (h b hb)]
    intro r hr
    obtain ⟨b, hb, rfl⟩ := List.mem_map.mp hr
    exact h b hb

/-- ASCII without capital letters is its own lower case. -/
theorem toLower_eq_self (unicodeToLower : Nat → Nat) {value : GoString}
    (h : ∀ b ∈ value, b.toNat < 0x80 ∧ ¬(0x41 ≤ b.toNat ∧ b.toNat ≤ 0x5A)) : toLower unicodeToLower value = value := by
  have hascii : (value.all fun b => b.toNat < 0x80) = true := List.all_eq_true.mpr fun b hb => decide_eq_true (h b hb).1
  rw [toLower, if_pos hascii]
  conv_rhs => rw [← List.map_id value]
  exact List.map_congr_left fun b hb => if_neg (h b hb).2

end GoString

end KubeCell
