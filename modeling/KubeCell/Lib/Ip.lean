import Mathlib.Data.Fintype.Card
import KubeCell.Lib.Text

/-!
# Addresses and blocks of addresses

The addresses of the two versions of IP, their texts as `net.ParseIP` reads them, and blocks of addresses
as `net.ParseCIDR` does.
-/

namespace KubeCell

/-- A version of IP. -/
inductive IPFamily where
  | v4
  | v6
  deriving DecidableEq, Repr

def IPFamily.bits : IPFamily → Nat
  | .v4 => 32
  | .v6 => 128

/-- An address: its bits as a number. -/
@[ext]
structure IPAddr where
  family : IPFamily
  value : Nat
  lt : value < 2 ^ family.bits
  deriving DecidableEq, Repr

def IPAddr.ofValue (family : IPFamily) (value : Nat) : Option IPAddr :=
  if h : value < 2 ^ family.bits then some ⟨family, value, h⟩ else none

/-- A block: the addresses that start like one of them. -/
structure IPBlock where
  address : IPAddr
  length : Nat
  le : length ≤ address.family.bits
  deriving DecidableEq, Repr

def IPBlock.ofAddress (address : IPAddr) (length : Nat) : Option IPBlock :=
  if h : length ≤ address.family.bits then some ⟨address, length, h⟩ else none

def IPBlock.contains (block : IPBlock) (address : IPAddr) : Bool :=
  block.address.family = address.family &&
    block.address.value / 2 ^ (block.address.family.bits - block.length) =
      address.value / 2 ^ (block.address.family.bits - block.length)

/-! ## Texts -/

/-- The value of a digit, decimal or hexadecimal. -/
def digitValue (c : Char) : Option Nat :=
  if '0' ≤ c ∧ c ≤ '9' then some (c.toNat - '0'.toNat)
  else if 'a' ≤ c ∧ c ≤ 'f' then some (c.toNat - 'a'.toNat + 10)
  else if 'A' ≤ c ∧ c ≤ 'F' then some (c.toNat - 'A'.toNat + 10)
  else none

/-- A number in a base, of at most so many digits and at least one. -/
def parseNumber (base digits : Nat) (text : List Char) : Option Nat := do
  let values ← text.mapM digitValue
  if values = [] ∨ digits < values.length ∨ values.any (base ≤ ·) then none
  else some (values.foldl (fun number value => number * base + value) 0)

/-- A number of an IPv4 address: at most 255, and without zeros before it. -/
def parseOctet (text : List Char) : Option Nat := do
  let octet ← parseNumber 10 3 text
  if 255 < octet ∨ (text.head? = some '0' ∧ 1 < text.length) then none else some octet

/-- The four numbers of an IPv4 address. -/
def parseOctets (text : List Char) : Option (List Nat) := do
  let octets ← (splitAtChar '.' text).mapM parseOctet
  if octets.length = 4 then some octets else none

/-- The parts of an IPv6 address between colons, 16 bits each; the last one may be an IPv4 address. -/
def parseGroups : List (List Char) → Option (List Nat)
  | [] => some []
  | [last] =>
    if '.' ∈ last then do
      match ← parseOctets last with
      | [a, b, c, d] => some [a * 256 + b, c * 256 + d]
      | _ => none
    else (parseNumber 16 4 last).map fun group => [group]
  | group :: rest => do
    let value ← parseNumber 16 4 group
    let values ← parseGroups rest
    return value :: values

/-- The groups of a part of an IPv6 address, which may be empty beside the two colons. -/
def parseSide (text : List Char) : Option (List Nat) :=
  if text = [] then some [] else parseGroups (splitAtChar ':' text)

/-- The eight groups of an IPv6 address: two colons stand for one group of zeros or more. -/
def parseHextets (text : List Char) : Option (List Nat) := do
  match splitAtText [':', ':'] 0 text with
  | [whole] =>
    let groups ← parseSide whole
    if groups.length = 8 then some groups else none
  | [left, right] =>
    let before ← if '.' ∈ left then none else parseSide left
    let after ← parseSide right
    if before.length + after.length ≤ 7 then
      some (before ++ List.replicate (8 - before.length - after.length) 0 ++ after)
    else none
  | _ => none

/-- The characters of addresses. -/
def isAddrChar (c : Char) : Bool := (digitValue c).isSome || c == ':' || c == '.'

/-- `net.ParseIP`. -/
def parseIP (text : List Char) : Option IPAddr :=
  if ¬text.all isAddrChar then none
  else if ':' ∈ text then do
    let groups ← parseHextets text
    IPAddr.ofValue .v6 (groups.foldl (fun value group => value * 65536 + group) 0)
  else do
    let octets ← parseOctets text
    IPAddr.ofValue .v4 (octets.foldl (fun value octet => value * 256 + octet) 0)

/-- `net.ParseCIDR`: an address, and the number of bits of it that count. -/
def parseCIDR (text : List Char) : Option IPBlock := do
  match splitAtChar '/' text with
  | [address, length] =>
    let address ← parseIP address
    let length ← parseNumber 10 3 length
    IPBlock.ofAddress address length
  | _ => none

namespace IpAux

/-- The characters of addresses are in one range of ASCII. -/
theorem addrChar_range {c : Char} (h : isAddrChar c = true) : 0x2E ≤ c.toNat ∧ c.toNat ≤ 0x66 := by
  rw [isAddrChar, Bool.or_eq_true, Bool.or_eq_true, beq_iff_eq, beq_iff_eq, digitValue] at h
  rcases h with (h | rfl) | rfl
  · simp only [Char.le_def, UInt32.le_iff_toNat_le] at h
    have hzero : '0'.val.toNat = 48 := rfl
    have hnine : '9'.val.toNat = 57 := rfl
    have ha : 'a'.val.toNat = 97 := rfl
    have hf : 'f'.val.toNat = 102 := rfl
    have hA : 'A'.val.toNat = 65 := rfl
    have hF : 'F'.val.toNat = 70 := rfl
    rw [Char.toNat]
    split_ifs at h
    · omega
    · omega
    · omega
    · simp at h
  · decide
  · decide

theorem isAddrChar_of_parseIP {text : List Char} {address : IPAddr} (h : parseIP text = some address) :
    ∀ c ∈ text, isAddrChar c = true := by
  rw [parseIP] at h
  split_ifs at h with hall
  all_goals exact List.all_eq_true.mp hall

/-- An address is not blank. -/
theorem trimSpace_of_parseIP {text : List Char} {address : IPAddr} (h : parseIP text = some address) :
    trimSpace text ≠ [] := by
  have hspace : ∀ c ∈ text, isSpace c = false := by
    intro c hc
    have hrange := addrChar_range (isAddrChar_of_parseIP h c hc)
    simp only [isSpace, Bool.or_eq_false_iff, decide_eq_false_iff_not, Bool.and_eq_false_iff, List.mem_cons,
      List.not_mem_nil, or_false]
    omega
  rw [trimSpace_eq_self hspace]
  rintro rfl
  have hempty : parseIP [] = none := by decide
  rw [hempty] at h
  nomatch h

/-- An address and a number of bits make a block. -/
theorem parseCIDR_append {text length : List Char} {address : IPAddr} {n : Nat} (haddress : parseIP text = some address)
    (hlength : parseNumber 10 3 length = some n) (hslash : '/' ∉ length) (hn : n ≤ address.family.bits) :
    parseCIDR (text ++ '/' :: length) = some ⟨address, n, hn⟩ := by
  have htext : '/' ∉ text := fun hmem => absurd (isAddrChar_of_parseIP haddress '/' hmem) (by decide)
  rw [parseCIDR, splitAtChar_eq_splitOn, List.splitOn_append_cons_self, List.splitOn_eq_singleton htext,
    List.splitOn_eq_singleton hslash]
  simp [haddress, hlength, IPBlock.ofAddress, hn]

theorem contains_iff {block : IPBlock} {address : IPAddr} :
    block.contains address = true ↔ block.address.family = address.family ∧
      block.address.value / 2 ^ (block.address.family.bits - block.length) =
        address.value / 2 ^ (block.address.family.bits - block.length) := by
  rw [IPBlock.contains, Bool.and_eq_true, decide_eq_true_eq, decide_eq_true_eq]

/-- A block of all bits contains one address. -/
theorem contains_iff_eq (block : IPBlock) (hlength : block.length = block.address.family.bits) (address : IPAddr) :
    block.contains address = true ↔ address = block.address := by
  rw [contains_iff, hlength, Nat.sub_self, pow_zero, Nat.div_one, Nat.div_one]
  constructor
  · rintro ⟨hfamily, hvalue⟩
    exact IPAddr.ext hfamily.symm hvalue.symm
  · rintro rfl
    exact ⟨rfl, rfl⟩

/-- The address that starts like another one and ends like a number. -/
def sibling (address : IPAddr) (length : Nat) (rest : Fin (2 ^ (address.family.bits - length))) : IPAddr where
  family := address.family
  value := address.value / 2 ^ (address.family.bits - length) * 2 ^ (address.family.bits - length) + rest
  lt := by
    have hsplit : 2 ^ address.family.bits =
        2 ^ (address.family.bits - (address.family.bits - length)) * 2 ^ (address.family.bits - length) := by
      rw [← pow_add, Nat.sub_add_cancel (Nat.sub_le ..)]
    have hstart : address.value / 2 ^ (address.family.bits - length) <
      2 ^ (address.family.bits - (address.family.bits - length)) :=
      Nat.div_lt_of_lt_mul (by rw [Nat.mul_comm, ← hsplit]; exact address.lt)
    calc _ < address.value / 2 ^ (address.family.bits - length) * 2 ^ (address.family.bits - length) + 2 ^
      (address.family.bits - length) :=
          Nat.add_lt_add_left rest.isLt _
      _ = (address.value / 2 ^ (address.family.bits - length) + 1) * 2 ^ (address.family.bits - length) :=
        (Nat.succ_mul _ _).symm
      _ ≤ _ := Nat.mul_le_mul_right _ hstart
      _ = _ := hsplit.symm

/-- A block contains as many addresses as its free bits tell apart. -/
theorem contains_sibling (block : IPBlock) (rest : Fin (2 ^ (block.address.family.bits - block.length))) :
    block.contains (sibling block.address block.length rest) = true := by
  rw [contains_iff]
  refine ⟨rfl, ?_⟩
  dsimp only [sibling]
  rw [Nat.add_comm, Nat.add_mul_div_right _ _ (Nat.two_pow_pos _), Nat.div_eq_of_lt rest.isLt, Nat.zero_add]

theorem sibling_injective (address : IPAddr) (length : Nat) : Function.Injective (sibling address length) := by
  intro a b h
  have hvalue := congrArg IPAddr.value h
  exact Fin.ext (Nat.add_left_cancel hvalue)

/-- A list that holds every address of a block is as long as the block is large. -/
theorem pow_le_length {block : IPBlock} {addresses : List IPAddr}
    (h : ∀ address, block.contains address = true → address ∈ addresses) :
    2 ^ (block.address.family.bits - block.length) ≤ addresses.length := by
  let siblings := Finset.univ.map ⟨sibling block.address block.length, sibling_injective block.address block.length⟩
  have hsub : siblings ⊆ addresses.toFinset := by
    intro address haddress
    obtain ⟨rest, -, rfl⟩ := Finset.mem_map.mp haddress
    exact List.mem_toFinset.mpr (h _ (contains_sibling block rest))
  calc 2 ^ (block.address.family.bits - block.length) = siblings.card := by
        rw [Finset.card_map, Finset.card_univ, Fintype.card_fin]
    _ ≤ addresses.toFinset.card := Finset.card_le_card hsub
    _ ≤ addresses.length := addresses.toFinset_card_le

end IpAux

end KubeCell
