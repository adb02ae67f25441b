import Mathlib.Data.List.Infix
import Mathlib.Data.List.Sigma
import KubeCell.Lib.Text

/-!
# Placeholders

Templates over any alphabet with an opening and a closing brace: a placeholder is a name between two opening and two
closing braces. Filling in all placeholders at once is compared with replacing one name after the other in what the
replacements before have left.
-/

namespace KubeCell

variable {α : Type}

/-! ## Replacement -/

/-- `strings.ReplaceAll` of a text that is not empty; `skip` letters of an occurrence are still to be passed over. -/
def replaceText [DecidableEq α] (old new : List α) (skip : Nat) : List α → List α
  | [] => []
  | c :: rest =>
    match skip with
    | skip + 1 => replaceText old new skip rest
    | 0 =>
      if old.isPrefixOf (c :: rest) then new ++ replaceText old new (old.length - 1) rest
      else c :: replaceText old new 0 rest

namespace ReplaceAux

variable [DecidableEq α] {old new : List α}

theorem replaceText_skip (old new : List α) (skip : Nat) (l : List α) :
    replaceText old new skip l = replaceText old new 0 (l.drop skip) := by
  induction l generalizing skip with
  | nil => simp [replaceText]
  | cons c rest ih =>
    cases skip with
    | zero => rfl
    | succ skip =>
      rw [replaceText, List.drop_succ_cons]
      exact ih skip

/-- An occurrence is replaced, and the scan goes on behind it. -/
theorem replaceText_append (hold : old ≠ []) (new rest : List α) :
    replaceText old new 0 (old ++ rest) = new ++ replaceText old new 0 rest := by
  cases old with
  | nil => exact absurd rfl hold
  | cons c old =>
    rw [List.cons_append, replaceText]
    have hstarts : (c :: old).isPrefixOf (c :: (old ++ rest)) = true :=
      List.isPrefixOf_iff_prefix.mpr (List.prefix_append (c :: old) rest)
    simp only [hstarts, if_true]
    rw [replaceText_skip, List.length_cons, Nat.add_sub_cancel, List.drop_left]

/-- A letter at which no occurrence starts stays. -/
theorem replaceText_cons {c : α} {rest : List α} (h : ¬old <+: c :: rest) :
    replaceText old new 0 (c :: rest) = c :: replaceText old new 0 rest := by
  rw [replaceText]
  simp [List.isPrefixOf_iff_prefix, h]

/-- A text at whose letters no occurrence starts stays. -/
theorem replaceText_pass {text rest : List α} (h : ∀ tail, tail ≠ [] → tail <:+ text → ¬old <+: tail ++ rest) :
    replaceText old new 0 (text ++ rest) = text ++ replaceText old new 0 rest := by
  induction text with
  | nil => rfl
  | cons c text ih =>
    have hhead : ¬old <+: c :: (text ++ rest) := h (c :: text) (by simp) List.suffix_rfl
    rw [List.cons_append, replaceText_cons hhead, List.cons_append,
      ih fun tail hne htail => h tail hne (htail.trans (List.suffix_cons c text))]

/-- A text without the word stays as it is. -/
theorem replaceText_of_not_infix {text : List α} (h : ¬old <:+: text) : replaceText old new 0 text = text := by
  have hpass : replaceText old new 0 (text ++ []) = text ++ replaceText old new 0 [] :=
    replaceText_pass fun tail _ htail hstarts => by
    rw [List.append_nil] at hstarts
    exact h (hstarts.isInfix.trans htail.isInfix)
  simpa [replaceText] using hpass

end ReplaceAux

/-! ## Templates -/

/-- The two braces of an alphabet. -/
structure Braces (α : Type) where
  opening : α
  closing : α
  ne : opening ≠ closing

/-- A letter of a template that is not part of a placeholder, or a placeholder. -/
inductive Token (α : Type) where
  | letter (c : α)
  | placeholder (name : List α)

namespace Braces

variable (B : Braces α)

/-- A name between its braces. -/
def placeholder (name : List α) : List α := B.opening :: B.opening :: (name ++ [B.closing, B.closing])

/-- A text without braces. -/
def Plain (text : List α) : Prop := B.opening ∉ text ∧ B.closing ∉ text

/-- The letters and the placeholders of a template, for the names there are; `skip` letters of a placeholder are
still to be passed over. -/
def tokens [DecidableEq α] (names : List (List α)) (skip : Nat) : List α → List (Token α)
  | [] => []
  | c :: rest =>
    match skip with
    | skip + 1 => tokens names skip rest
    | 0 =>
      match names.find? fun name => (B.placeholder name).isPrefixOf (c :: rest) with
      | some name => .placeholder name :: tokens names ((B.placeholder name).length - 1) rest
      | none => .letter c :: tokens names 0 rest

/-- What stands for a token, where some names have a value already. -/
def tokenText (values : List α → Option (List α)) : Token α → List α
  | .letter c => [c]
  | .placeholder name => (values name).getD (B.placeholder name)

/-- A template with the values that there are filled in, all at the same time. -/
def fill (values : List α → Option (List α)) (tokens : List (Token α)) : List α := tokens.flatMap (B.tokenText values)

/-- Two braces of a kind that stand side by side outside the placeholders. -/
def Stray (tokens : List (Token α)) : Prop :=
  [.letter B.opening, .letter B.opening] <:+: tokens ∨ [.letter B.closing, .letter B.closing] <:+: tokens

/-- No two braces of a kind stand side by side in a text. -/
def Clean (text : List α) : Prop := ¬[B.opening, B.opening] <:+: text ∧ ¬[B.closing, B.closing] <:+: text

/-- A value that makes no pair of braces, whatever it is put between. -/
structure Inert (value : List α) : Prop where
  nonempty : value ≠ []
  head : value.head? ≠ some B.opening ∧ value.head? ≠ some B.closing
  last : value.getLast? ≠ some B.opening ∧ value.getLast? ≠ some B.closing
  clean : B.Clean value

/-- A table of variables whose values are inert, and are no parts of the other names. -/
def Separate (vars : List (Σ _ : List α, List α)) : Prop :=
  ∀ var ∈ vars, B.Inert var.2 ∧ ∀ name ∈ vars.keys, name ≠ var.1 → ¬var.2 <:+: name

/-- Tokens as a template is read: a letter is one only where no placeholder starts. -/
inductive Faithful (names : List (List α)) : List (Token α) → Prop where
  | nil : Faithful names []
  | letter {c : α} {rest : List (Token α)}
    (hfree : ∀ name ∈ names, ¬B.placeholder name <+: c :: B.fill (fun _ => none) rest)
      (hrest : Faithful names rest) : Faithful names (.letter c :: rest)
  | placeholder {name : List α} {rest : List (Token α)} (hname : name ∈ names) (hrest : Faithful names rest) :
      Faithful names (.placeholder name :: rest)

end Braces

namespace PlaceholdersAux

open Braces ReplaceAux

variable {B : Braces α} {names : List (List α)} {values : List α → Option (List α)}

/-! ## Reading a template -/

@[simp]
theorem fill_nil : B.fill values [] = [] := rfl

@[simp]
theorem fill_letter (c : α) (rest : List (Token α)) : B.fill values (.letter c :: rest) = c :: B.fill values rest := rfl

theorem fill_placeholder (name : List α) (rest : List (Token α)) :
    B.fill values (.placeholder name :: rest) = (values name).getD (B.placeholder name) ++ B.fill values rest := rfl

/-- Letters are filled as they are. -/
theorem fill_letters (text : List α) (rest : List (Token α)) :
    B.fill values (text.map .letter ++ rest) = text ++ B.fill values rest := by
  induction text with
  | nil => rfl
  | cons c text ih => rw [List.map_cons, List.cons_append, fill_letter, ih, List.cons_append]

/-- What was read as a placeholder is skipped. -/
theorem tokens_skip [DecidableEq α] (skip : Nat) (l : List α) :
    B.tokens names skip l = B.tokens names 0 (l.drop skip) := by
  induction l generalizing skip with
  | nil => simp [tokens]
  | cons c rest ih =>
    cases skip with
    | zero => rfl
    | succ skip =>
      rw [tokens, List.drop_succ_cons]
      exact ih skip

/-- One step of reading: a placeholder of a name that there is, or else a letter. -/
theorem tokens_cons [DecidableEq α] (B : Braces α) (names : List (List α)) (c : α) (rest : List α) :
    (∃ name ∈ names, ∃ after, c :: rest = B.placeholder name ++ after ∧
        B.tokens names 0 (c :: rest) = .placeholder name :: B.tokens names 0 after) ∨
      (∀ name ∈ names, ¬B.placeholder name <+: c :: rest) ∧
        B.tokens names 0 (c :: rest) = .letter c :: B.tokens names 0 rest := by
  rw [tokens]
  cases hfind : names.find? fun name => (B.placeholder name).isPrefixOf (c :: rest) with
  | none =>
    refine .inr ⟨fun name hname hstarts => ?_, rfl⟩
    exact List.find?_eq_none.mp hfind name hname (List.isPrefixOf_iff_prefix.mpr hstarts)
  | some name =>
    have hstarts := List.find?_some hfind
    obtain ⟨after, hafter⟩ := List.isPrefixOf_iff_prefix.mp hstarts
    refine .inl ⟨name, List.mem_of_find?_eq_some hfind, after, hafter.symm, ?_⟩
    have hrest : rest.drop ((B.placeholder name).length - 1) = after := by
      have hdrop := congrArg (List.drop (B.placeholder name).length) hafter
      rw [List.drop_left] at hdrop
      simpa [Braces.placeholder] using hdrop.symm
    dsimp only
    rw [tokens_skip, hrest]

/-- A template is read faithfully, and nothing of it is lost. -/
theorem tokens_spec [DecidableEq α] (B : Braces α) (names : List (List α)) (l : List α) :
    B.Faithful names (B.tokens names 0 l) ∧ B.fill (fun _ => none) (B.tokens names 0 l) = l := by
  induction hn : l.length using Nat.strong_induction_on generalizing l with
  | _ n ih =>
    cases l with
    | nil => exact ⟨.nil, rfl⟩
    | cons c rest =>
      rcases tokens_cons B names c rest with ⟨name, hname, after, htext, htokens⟩ | ⟨hfree, htokens⟩
      · have hlength : after.length < n := by
          rw [← hn, htext]
          simp [Braces.placeholder]
          omega
        obtain ⟨hfaithful, hfill⟩ := ih _ hlength after rfl
        rw [htokens, fill_placeholder, hfill, htext]
        exact ⟨.placeholder hname hfaithful, rfl⟩
      · obtain ⟨hfaithful, hfill⟩ := ih rest.length (by rw [← hn]; simp) rest rfl
        rw [htokens, fill_letter, hfill]
        exact ⟨.letter (by rwa [hfill]) hfaithful, rfl⟩

/-! ## Where placeholders start -/

/-- A placeholder starts with two opening braces, and its name ends where the braces close. -/
theorem placeholder_prefix_iff {name text : List α} :
    B.placeholder name <+: text ↔ ∃ rest, text = B.opening :: B.opening ::
      (name ++ B.closing :: B.closing :: rest) := by
  constructor
  · rintro ⟨rest, rfl⟩
    exact ⟨rest, by simp [Braces.placeholder]⟩
  · rintro ⟨rest, rfl⟩
    exact ⟨rest, by simp [Braces.placeholder]⟩

/-- A placeholder begins with the opening. -/
theorem not_prefix_of_ne {name : List α} {c : α} {rest : List α} (hc : c ≠ B.opening) :
    ¬B.placeholder name <+: c :: rest := by
  rw [placeholder_prefix_iff]
  rintro ⟨after, htext⟩
  exact hc (List.cons.inj htext).1

/-- Placeholders that start at the same place are of the same name. -/
theorem eq_of_startsWith {name other rest : List α} (hname : B.Plain name) (hother : B.Plain other)
    (h : B.placeholder name <+: B.placeholder other ++ rest) : name = other := by
  obtain ⟨after, htext⟩ := placeholder_prefix_iff.mp h
  simp only [Braces.placeholder, List.cons_append, List.cons.injEq, true_and, List.append_assoc] at htext
  exact (append_sep_inj hother.2 hname.2 htext).1.symm

/-- Behind two opening braces comes no opening brace before the name is at its end. -/
theorem not_prefix_of_opening {name rest : List α} (hname : B.Plain name) (between : List α)
    (hbetween : B.closing ∉ between) :
    ¬B.placeholder name <+: B.opening :: B.opening :: (between ++ B.opening :: rest) := by
  intro h
  obtain ⟨after, htext⟩ := placeholder_prefix_iff.mp h
  simp only [List.cons.injEq, true_and] at htext
  rcases List.append_eq_append_iff.mp htext with ⟨more, rfl, hmore⟩ | ⟨more, rfl, hmore⟩
  · cases more with
    | nil => exact B.ne (List.cons.inj hmore).1
    | cons d more =>
      have hd : B.opening = d := (List.cons.inj hmore).1
      exact hname.1 (by simp [hd])
  · cases more with
    | nil => exact B.ne (List.cons.inj hmore).1.symm
    | cons d more =>
      have hd : B.closing = d := (List.cons.inj hmore).1
      exact hbetween (by simp [hd])

/-- A placeholder starts at no letter of another one, and inside a value that is inert. -/
theorem not_prefix_in_placeholder {name other tail rest : List α} (hname : B.Plain name) (hother : B.Plain other)
    (hne : name ≠ other) (htail : tail ≠ []) (hsuffix : tail <:+ B.placeholder other) :
    ¬B.placeholder name <+: tail ++ rest := by
  have hopening : ∀ c ∈ other ++ [B.closing, B.closing], c ≠ B.opening := by
    intro c hc heq
    rcases List.mem_append.mp hc with hmem | hmem
    · exact hother.1 (heq ▸ hmem)
    · exact B.ne (by simpa [heq] using hmem)
  rcases List.suffix_cons_iff.mp hsuffix with rfl | hsuffix
  · exact fun h => hne (eq_of_startsWith hname hother h)
  rcases List.suffix_cons_iff.mp hsuffix with rfl | hsuffix
  · intro h
    obtain ⟨after, htext⟩ := placeholder_prefix_iff.mp h
    cases other with
    | nil => exact hopening B.closing (by simp) (List.cons.inj (List.cons.inj htext).2).1
    | cons c other => exact hopening c (by simp) (List.cons.inj (List.cons.inj htext).2).1
  · obtain ⟨c, tail, rfl⟩ := List.exists_cons_of_ne_nil htail
    exact not_prefix_of_ne (hopening c (hsuffix.subset List.mem_cons_self))

/-- No placeholder begins within an inert value. -/
theorem not_prefix_in_inert {name value tail rest : List α} (hvalue : B.Inert value) (htail : tail ≠ [])
    (hsuffix : tail <:+ value) :
    ¬B.placeholder name <+: tail ++ rest := by
  intro h
  obtain ⟨after, htext⟩ := placeholder_prefix_iff.mp h
  match tail, htail with
  | [c], _ =>
    obtain ⟨before, rfl⟩ := hsuffix
    refine hvalue.last.1 ?_
    rw [List.getLast?_concat, (List.cons.inj htext).1]
  | c :: d :: tail, _ =>
    obtain ⟨hc, htext⟩ := List.cons.inj htext
    obtain ⟨hd, -⟩ := List.cons.inj htext
    refine hvalue.clean.1 (List.IsInfix.trans ?_ hsuffix.isInfix)
    rw [hc, hd]
    exact (List.prefix_append [B.opening, B.opening] tail).isInfix

/-! ## One replacement -/

/-- A brace comes from a letter, or opens a placeholder that is not filled in yet. -/
theorem brace_of_fill (hinert : ∀ other value, values other = some value → B.Inert value) {d : α}
    (hd : d = B.opening ∨ d = B.closing) {tokens : List (Token α)} {text : List α}
    (h : B.fill values tokens = d :: text) :
    (∃ rest, tokens = .letter d :: rest ∧ B.fill values rest = text) ∨
      d = B.opening ∧ ∃ other rest, tokens = .placeholder other :: rest ∧ values other = none := by
  cases tokens with
  | nil => nomatch h
  | cons token rest =>
    cases token with
    | letter c =>
      rw [fill_letter] at h
      obtain ⟨rfl, htext⟩ := List.cons.inj h
      exact .inl ⟨rest, rfl, htext⟩
    | placeholder other =>
      rw [fill_placeholder] at h
      cases hvalue : values other with
      | none =>
        rw [hvalue] at h
        exact .inr ⟨(List.cons.inj h).1.symm, other, rest, rfl, hvalue⟩
      | some value =>
        -- A value that is inert starts with no brace.
        rw [hvalue] at h
        have hvalue := hinert other value hvalue
        obtain ⟨c, value, rfl⟩ := List.exists_cons_of_ne_nil hvalue.nonempty
        have hc : c = d := (List.cons.inj h).1
        rcases hd with rfl | rfl
        · exact absurd (by rw [hc]; rfl) hvalue.head.1
        · exact absurd (by rw [hc]; rfl) hvalue.head.2

/-- Two closing braces do not start inside a value that is inert. -/
theorem closing_not_in_inert {before tail rest text : List α} (htail : tail ≠ []) (hvalue : B.Inert (before ++ tail)) :
    tail ++ rest ≠ B.closing :: B.closing :: text := by
  intro h
  match tail, htail with
  | [c], _ =>
    refine hvalue.last.2 ?_
    rw [List.getLast?_concat, (List.cons.inj h).1]
  | c :: d :: tail, _ =>
    obtain ⟨rfl, hnext⟩ := List.cons.inj h
    obtain ⟨rfl, -⟩ := List.cons.inj hnext
    exact hvalue.clean.2 ⟨before, tail, by simp⟩

section

variable {name : List α}

/-- What closes a name behind letters and values is all letters: a value that reached into the name
would be a part of it. -/
theorem closes_as_letters (hname : B.Plain name)
    (hinert : ∀ other value, values other = some value → B.Inert value ∧ ¬value <:+: name) {tail text : List α}
    (htail : tail <:+ name) {rest : List (Token α)}
    (h : B.fill values rest = tail ++ B.closing :: B.closing :: text) :
    ∃ text', B.fill (fun _ => none) rest = tail ++ B.closing :: B.closing :: text' := by
  induction rest generalizing tail with
  | nil => simp at h
  | cons token rest ih =>
    cases token with
    | letter c =>
      rw [fill_letter] at h ⊢
      cases tail with
      | nil =>
        obtain ⟨rfl, hnext⟩ := List.cons.inj h
        rcases brace_of_fill (fun other value hvalue => (hinert other value hvalue).1)
          (.inr rfl) hnext with ⟨after, rfl, -⟩ | ⟨heq, -⟩
        · exact ⟨B.fill (fun _ => none) after, rfl⟩
        · exact absurd heq.symm B.ne
      | cons d tail =>
        obtain ⟨rfl, hnext⟩ := List.cons.inj h
        obtain ⟨text', htext⟩ := ih ((List.suffix_cons c tail).trans htail) hnext
        exact ⟨text', by rw [htext]; rfl⟩
    | placeholder other =>
      rw [fill_placeholder] at h
      exfalso
      cases hvalue : values other with
      | none =>
        rw [hvalue] at h
        cases tail with
        | nil => exact B.ne (List.cons.inj h).1
        | cons d tail =>
          refine hname.1 (htail.subset ?_)
          rw [← (List.cons.inj h).1]
          exact List.mem_cons_self
      | some value =>
        rw [hvalue, Option.getD_some] at h
        obtain ⟨hvalue, hinfix⟩ := hinert other value hvalue
        rcases List.append_eq_append_iff.mp h with ⟨more, rfl, -⟩ | ⟨more, rfl, hmore⟩
        · exact hinfix ((List.prefix_append value more).isInfix.trans htail.isInfix)
        · cases more with
          | nil =>
            rw [List.append_nil] at hinfix
            exact hinfix htail.isInfix
          | cons d more => exact closing_not_in_inert (by simp) hvalue hmore.symm

/-- No placeholder of a name starts at a letter, whatever is filled in behind it. -/
theorem not_prefix_at_letter {names : List (List α)} {c : α} {rest : List (Token α)} (hmem : name ∈ names)
    (hname : B.Plain name) (hinert : ∀ other value, values other = some value → B.Inert value ∧ ¬value <:+: name)
    (hfree : ∀ name ∈ names, ¬B.placeholder name <+: c :: B.fill (fun _ => none) rest) :
    ¬B.placeholder name <+: c :: B.fill values rest := by
  intro h
  obtain ⟨text, htext⟩ := placeholder_prefix_iff.mp h
  obtain ⟨rfl, hfill⟩ := List.cons.inj htext
  rcases brace_of_fill (fun other value hvalue => (hinert other value hvalue).1) (.inl rfl) hfill with
    ⟨after, rfl, hafter⟩ | ⟨-, other, after, rfl, hnone⟩
  · -- Two letters open it: then it is all letters, and was a placeholder of the template.
    obtain ⟨text', htext'⟩ := closes_as_letters hname hinert List.suffix_rfl hafter
    exact hfree name hmem (placeholder_prefix_iff.mpr ⟨text', by rw [fill_letter, htext']⟩)
  · -- A letter and the start of another placeholder are three opening braces.
    rw [fill_placeholder, hnone] at h
    exact not_prefix_of_opening hname [] (by simp) h

variable [DecidableEq α]

/-- Replacing one name in what has been filled in is filling it in too. -/
theorem replaceText_fill {names : List (List α)} (value : List α) (hmem : name ∈ names)
    (hnames : ∀ name ∈ names, B.Plain name) (hnone : values name = none)
    (hinert : ∀ other value, values other = some value → B.Inert value ∧ ¬value <:+: name) {tokens : List (Token α)}
    (h : B.Faithful names tokens) :
    replaceText (B.placeholder name) value 0 (B.fill values tokens) =
      B.fill (Function.update values name (some value)) tokens := by
  induction h with
  | nil => rfl
  | letter hfree _ ih =>
    rw [fill_letter, fill_letter, replaceText_cons (not_prefix_at_letter hmem (hnames name hmem) hinert hfree), ih]
  | @placeholder other rest hother _ ih =>
    rw [fill_placeholder, fill_placeholder, ← ih]
    by_cases heq : other = name
    · subst heq
      rw [hnone, Option.getD_none, replaceText_append (by simp [Braces.placeholder]), Function.update_self]
      rfl
    · rw [Function.update_of_ne heq]
      refine replaceText_pass fun tail hne hsuffix => ?_
      cases hvalue : values other with
      | none =>
        rw [hvalue] at hsuffix
        exact not_prefix_in_placeholder (hnames name hmem) (hnames other hother) (Ne.symm heq) hne hsuffix
      | some known =>
        rw [hvalue] at hsuffix
        exact not_prefix_in_inert (hinert other known hvalue).1 hne hsuffix

end

/-! ## All of them -/

/-- A text that starts at no letter of another one occurs only behind it. -/
theorem infix_append_iff {part text rest : List α} (h : ∀ tail, tail ≠ [] → tail <:+ text → ¬part <+: tail ++ rest) :
    part <:+: text ++ rest ↔ part <:+: rest := by
  induction text with
  | nil => rfl
  | cons c text ih =>
    have hhead : ¬part <+: c :: (text ++ rest) := h (c :: text) (by simp) List.suffix_rfl
    rw [List.cons_append, List.infix_cons_iff, or_iff_right hhead]
    exact ih fun tail hne htail => h tail hne (htail.trans (List.suffix_cons c text))

/-- A pair of braces starts at no letter of a value that is inert. -/
theorem not_pair_in_inert {value tail rest : List α} {d : α} (hd : d = B.opening ∨ d = B.closing)
    (hvalue : B.Inert value) (hne : tail ≠ []) (hsuffix : tail <:+ value) : ¬[d, d] <+: tail ++ rest := by
  rintro ⟨text, htext⟩
  obtain ⟨before, rfl⟩ := hsuffix
  match tail, hne with
  | [c], _ =>
    have hlast : (before ++ [c]).getLast? = some d := by rw [List.getLast?_concat, (List.cons.inj htext).1]
    rcases hd with rfl | rfl
    · exact hvalue.last.1 hlast
    · exact hvalue.last.2 hlast
  | c :: e :: tail, _ =>
    obtain ⟨rfl, hnext⟩ := List.cons.inj htext
    obtain ⟨rfl, -⟩ := List.cons.inj hnext
    have hpair : [d, d] <:+: before ++ d :: d :: tail := ⟨before, tail, by simp⟩
    rcases hd with rfl | rfl
    · exact hvalue.clean.1 hpair
    · exact hvalue.clean.2 hpair

/-- Where every value is inert, pairs of braces in the filled template are those that stood outside the placeholders. -/
theorem pair_fill_iff {d : α} (hd : d = B.opening ∨ d = B.closing)
    (hinert : ∀ other value, values other = some value → B.Inert value) (hall : ∀ name ∈ names, values name ≠ none)
    {tokens : List (Token α)} (h : B.Faithful names tokens) :
    [d, d] <:+: B.fill values tokens ↔ [.letter d, .letter d] <:+: tokens := by
  induction h with
  | nil => simp
  | @letter c rest _ hrest ih =>
    rw [fill_letter, List.infix_cons_iff, List.infix_cons_iff, ih, List.cons_prefix_cons, List.cons_prefix_cons,
      Token.letter.injEq]
    refine or_congr_left (and_congr_right fun _ => ?_)
    constructor
    · rintro ⟨text, htext⟩
      rcases brace_of_fill hinert hd htext.symm with ⟨after, rfl, -⟩ | ⟨-, other, after, rfl, hnone⟩
      · exact List.prefix_append [.letter d] after
      · cases hrest with
        | placeholder hother _ => exact absurd hnone (hall other hother)
    · rintro ⟨after, rfl⟩
      exact List.prefix_append [d] _
  | @placeholder other rest hother _ ih =>
    obtain ⟨value, hvalue⟩ := Option.ne_none_iff_exists'.mp (hall other hother)
    have hhead : ¬[.letter d, .letter d] <+: Token.placeholder other :: rest := by simp [List.cons_prefix_cons]
    rw [fill_placeholder, hvalue, Option.getD_some, List.infix_cons_iff, or_iff_right hhead,
      infix_append_iff fun tail hne htail => not_pair_in_inert hd (hinert other value hvalue) hne htail, ih]

/-- What is filled with inert values is clean exactly when no braces were stray before. -/
theorem clean_fill_iff (hinert : ∀ other value, values other = some value → B.Inert value)
    (hall : ∀ name ∈ names, values name ≠ none) {tokens : List (Token α)} (h : B.Faithful names tokens) :
    B.Clean (B.fill values tokens) ↔ ¬B.Stray tokens := by
  rw [Clean, Stray, pair_fill_iff (.inl rfl) hinert hall h, pair_fill_iff (.inr rfl) hinert hall h, not_or]

/-- In a text without pairs of braces there is nothing to replace. -/
theorem foldl_replaceText_of_clean [DecidableEq α] {text : List α} (h : B.Clean text)
    (vars : List (Σ _ : List α, List α)) :
    vars.foldl (fun text var => replaceText (B.placeholder var.1) var.2 0 text) text = text := by
  induction vars with
  | nil => rfl
  | cons var vars ih =>
    have hinfix : ¬B.placeholder var.1 <:+: text :=
      fun hinfix => h.1 (List.IsInfix.trans ⟨[], var.1 ++ [B.closing, B.closing], rfl⟩ hinfix)
    rw [List.foldl_cons, replaceText_of_not_infix hinfix, ih]

/-- Replacing one name after the other is filling in all of them at once. -/
theorem foldl_replaceText [DecidableEq α] {vars : List (Σ _ : List α, List α)} (hnodup : vars.NodupKeys)
    (hmem : ∀ var ∈ vars, var.1 ∈ names)
    (hnames : ∀ name ∈ names, B.Plain name)
    (hvars : ∀ var ∈ vars, B.Inert var.2 ∧ ∀ name ∈ names, name ≠ var.1 → ¬var.2 <:+: name) {tokens : List (Token α)}
    (h : B.Faithful names tokens) :
    vars.foldl (fun text var => replaceText (B.placeholder var.1) var.2 0 text) (B.fill (fun _ => none) tokens) =
      B.fill (fun name => vars.dlookup name) tokens := by
  induction vars using List.reverseRecOn with
  | nil => rfl
  | append_singleton vars var ih =>
    have hsub : ∀ other ∈ vars, other ∈ vars ++ [var] := fun other hother => List.mem_append_left _ hother
    have hlast : var ∈ vars ++ [var] := by simp
    obtain ⟨hnew, hrest⟩ : var.1 ∉ vars.keys ∧ vars.NodupKeys := by
      rw [List.nodupKeys_middle, List.append_nil] at hnodup
      exact List.nodupKeys_cons.mp hnodup
    have hinert : ∀ other value, vars.dlookup other = some value → B.Inert value ∧ ¬value <:+: var.1 := by
      intro other value hlookup
      have hother := List.of_mem_dlookup hlookup
      obtain ⟨hinert, hapart⟩ := hvars ⟨other, value⟩ (hsub _ hother)
      refine ⟨hinert, hapart var.1 (hmem var hlast) ?_⟩
      exact fun heq => hnew (heq ▸ List.mem_keys_of_mem hother)
    rw [List.foldl_append,
      ih hrest (fun other hother => hmem other (hsub other hother)) fun other hother => hvars other (hsub other hother)]
    rw [List.foldl_cons, List.foldl_nil, replaceText_fill var.2 (hmem var hlast) hnames
      (List.dlookup_eq_none.mpr hnew) hinert h]
    congr 1
    funext name
    rw [List.dlookup_append]
    by_cases heq : name = var.1
    · subst heq
      rw [Function.update_self, List.dlookup_eq_none.mpr hnew, List.dlookup_cons_eq]
      rfl
    · rw [Function.update_of_ne heq, List.dlookup_cons_ne _ _ heq, List.dlookup_nil, Option.or_none]

/-! ## Templates that tell -/

/-- A value that makes no pair with braces around it is inert. -/
theorem inert_of_between {value : List α}
    (h : ∀ d, d = B.opening ∨ d = B.closing → ¬[d, d] <:+: d :: (value ++ [d])) : B.Inert value := by
  have hopening := h B.opening (.inl rfl)
  have hclosing := h B.closing (.inr rfl)
  have hhead : ∀ d, ¬[d, d] <:+: d :: (value ++ [d]) → value.head? ≠ some d := by
    intro d hpair heq
    obtain ⟨rest, rfl⟩ := List.head?_eq_some_iff.mp heq
    exact hpair ⟨[], rest ++ [d], by simp⟩
  have hlast : ∀ d, ¬[d, d] <:+: d :: (value ++ [d]) → value.getLast? ≠ some d := by
    intro d hpair heq
    obtain ⟨rest, rfl⟩ := List.getLast?_eq_some_iff.mp heq
    exact hpair ⟨d :: rest, [], by simp⟩
  have hinside : ∀ d, ¬[d, d] <:+: d :: (value ++ [d]) → ¬[d, d] <:+: value := by
    rintro d hpair ⟨before, after, rfl⟩
    exact hpair ⟨d :: before, after ++ [d], by simp⟩
  refine ⟨?_, ⟨hhead _ hopening, hhead _ hclosing⟩, ⟨hlast _ hopening, hlast _ hclosing⟩, hinside _ hopening,
    hinside _ hclosing⟩
  rintro rfl
  exact hopening List.infix_rfl

section

variable [DecidableEq α] {name : List α}

/-- A placeholder is read as such. -/
theorem tokens_placeholder (hnames : ∀ name ∈ names, B.Plain name) (hname : name ∈ names) (rest : List α) :
    B.tokens names 0 (B.placeholder name ++ rest) = .placeholder name :: B.tokens names 0 rest := by
  rcases tokens_cons B names B.opening (B.opening :: (name ++ [B.closing, B.closing]) ++ rest) with
    ⟨other, hother, after, htext, htokens⟩ | ⟨hfree, -⟩
  · obtain rfl : other = name := eq_of_startsWith (hnames other hother) (hnames name hname) ⟨after, htext.symm⟩
    obtain rfl : rest = after := (List.append_right_inj (B.placeholder other)).mp htext
    exact htokens
  · exact absurd (List.prefix_append _ rest) (hfree name hname)

/-- Where none begins, a letter is read. -/
theorem tokens_letter {c : α} {rest : List α} (hfree : ∀ name ∈ names, ¬B.placeholder name <+: c :: rest) :
    B.tokens names 0 (c :: rest) = .letter c :: B.tokens names 0 rest := by
  rcases tokens_cons B names c rest with ⟨other, hother, after, htext, -⟩ | ⟨-, htokens⟩
  · exact absurd ⟨after, htext.symm⟩ (hfree other hother)
  · exact htokens

/-- A text without opening braces is read as letters. -/
theorem tokens_letters (names : List (List α)) {text : List α} (htext : B.opening ∉ text) (rest : List α) :
    B.tokens names 0 (text ++ rest) = text.map .letter ++ B.tokens names 0 rest := by
  induction text with
  | nil => rfl
  | cons c text ih =>
    rw [List.mem_cons, not_or] at htext
    obtain ⟨hc, htext⟩ := htext
    rw [List.cons_append, tokens_letter fun name _ => not_prefix_of_ne (Ne.symm hc), ih htext]
    rfl

/-- A placeholder between two braces of a kind. -/
theorem tokens_between (hnames : ∀ name ∈ names, B.Plain name) (hname : name ∈ names) {d : α}
    (hd : d = B.opening ∨ d = B.closing) :
    B.tokens names 0 (d :: (B.placeholder name ++ [d])) = [.letter d, .placeholder name, .letter d] := by
  have hfirst : ∀ other ∈ names, ¬B.placeholder other <+: d :: (B.placeholder name ++ [d]) := by
    intro other hother
    rcases hd with rfl | rfl
    · exact not_prefix_of_opening (hnames other hother) [] (by simp)
    · exact not_prefix_of_ne (Ne.symm B.ne)
  have hlast : ∀ other ∈ names, ¬B.placeholder other <+: [d] := by
    intro other _ hstarts
    exact absurd hstarts.length_le (by simp [Braces.placeholder])
  rw [tokens_letter hfirst, tokens_placeholder hnames hname, tokens_letter hlast]
  rfl

/-- A placeholder inside what looks like another one. -/
theorem tokens_nested (hnames : ∀ name ∈ names, B.Plain name) (hname : name ∈ names) {before after : List α}
    (hbefore : B.Plain before) (hafter : B.Plain after) :
    B.tokens names 0 (B.opening :: B.opening :: (before ++ (B.placeholder name ++ (after ++ [B.closing, B.closing])))) =
      .letter B.opening :: .letter B.opening ::
        (before.map .letter ++ .placeholder name :: (after ++ [B.closing, B.closing]).map .letter) := by
  have hfirst : ∀ other ∈ names, ¬B.placeholder other <+:
      B.opening :: B.opening :: (before ++
        (B.placeholder name ++ (after ++ [B.closing, B.closing]))) := fun other hother =>
    not_prefix_of_opening (hnames other hother) before hbefore.2
  have hsecond : ∀ other ∈ names, ¬B.placeholder other <+:
      B.opening :: (before ++ (B.placeholder name ++ (after ++ [B.closing, B.closing]))) := by
    intro other hother
    cases before with
    | nil => exact not_prefix_of_opening (hnames other hother) [] (by simp)
    | cons c before =>
      intro hstarts
      obtain ⟨text, htext⟩ := placeholder_prefix_iff.mp hstarts
      have hc : c = B.opening := (List.cons.inj (List.cons.inj htext).2).1
      exact hbefore.1 (hc ▸ List.mem_cons_self)
  have hclosing : B.opening ∉ after ++ [B.closing, B.closing] := by simp [hafter.1, B.ne]
  have hend := tokens_letters names hclosing []
  rw [List.append_nil] at hend
  rw [tokens_letter hfirst, tokens_letter hsecond, tokens_letters names hbefore.1,
    tokens_placeholder hnames hname, hend]
  simp [tokens]

/-- Its value completes the name around it. -/
theorem replaceText_nested (hnames : ∀ name ∈ names, B.Plain name) (hname : name ∈ names) {before after : List α}
    (hbefore : B.Plain before) (hafter : B.Plain after) (value : List α) :
    replaceText (B.placeholder name) value 0
        (B.opening :: B.opening :: (before ++ (B.placeholder name ++ (after ++ [B.closing, B.closing])))) =
      B.placeholder (before ++ value ++ after) := by
  obtain ⟨hfaithful, htext⟩ := tokens_spec B names
    (B.opening :: B.opening :: (before ++ (B.placeholder name ++ (after ++ [B.closing, B.closing]))))
  have hlast : B.fill (Function.update (fun _ => none) name (some value))
    ((after ++ [B.closing, B.closing]).map .letter) =
      after ++ [B.closing, B.closing] := by
    simpa using fill_letters (B := B) (after ++ [B.closing, B.closing]) []
  have hnone : ∀ other known, (fun _ : List α => (none : Option (List α))) other = some known → B.Inert known ∧
    ¬known <:+: name := nofun
  have hfill := replaceText_fill value hname hnames rfl hnone hfaithful
  rw [htext, tokens_nested hnames hname hbefore hafter, fill_letter, fill_letter, fill_letters, fill_placeholder,
    Function.update_self,
    Option.getD_some, hlast] at hfill
  rw [hfill]
  simp [Braces.placeholder]

end

end PlaceholdersAux

end KubeCell
