import Mathlib.Data.List.Basic

/-!
# Command-line flags

The parsing of command-line flags: an argument that starts with one or two dashes names a flag, with its value after
an equals sign or, unless the flag is Boolean, in the next argument. Parsing ends before the first argument that is
not a flag, and after a lone pair of dashes. A flag that is given twice has its last value.

The options are of any type: a flag says how its value is stored there.
-/

namespace KubeCell

/-- What a flag does with its value. -/
inductive FlagSetter (σ : Type) where
  | bool (set : Bool → σ → σ)
  | value (set : String → σ → σ)

/-- A flag that is defined. -/
structure Flag (σ : Type) where
  name : String
  setter : FlagSetter σ

/-- How one argument is read. -/
inductive FlagToken where
  | stop
  | bad
  | flag (name : String) (value : Option String)
  deriving DecidableEq, Repr

/-- The argument after its dashes. -/
def namedFlag (name : List Char) : FlagToken :=
  match name with
  | [] => .bad
  | '-' :: _ => .bad
  | '=' :: _ => .bad
  | c :: rest =>
    let value := rest.dropWhile (· ≠ '=')
    .flag (String.ofList (c :: rest.takeWhile (· ≠ '='))) (if value = [] then none else some (String.ofList value.tail))

/-- One argument. -/
def flagToken (arg : String) : FlagToken :=
  match arg.toList with
  | ['-', '-'] => .stop
  | '-' :: '-' :: name => namedFlag name
  | '-' :: c :: name => namedFlag (c :: name)
  | _ => .stop

/-- `strconv.ParseBool`. -/
def parseBool (value : String) : Option Bool :=
  if value ∈ ["1", "t", "T", "TRUE", "true", "True"] then some true
  else if value ∈ ["0", "f", "F", "FALSE", "false", "False"] then some false
  else none

/-- `FlagSet.Parse`: the options after the flags among the arguments, or the first fault. -/
def parseFlags {σ : Type} (flags : List (Flag σ)) : List String → σ → Except String σ
  | [], options => .ok options
  | arg :: rest, options =>
    match flagToken arg with
    | .stop => .ok options
    | .bad => .error s!"bad flag syntax: {arg}"
    | .flag name value =>
      match (flags.find? fun flag => flag.name == name).map Flag.setter, value with
      | none, _ =>
        if name = "help" ∨ name = "h" then .error "flag: help requested"
        else .error s!"flag provided but not defined: -{name}"
      | some (.bool set), none => parseFlags flags rest (set true options)
      | some (.bool set), some v =>
        match parseBool v with
        | some b => parseFlags flags rest (set b options)
        | none => .error s!"invalid boolean value {v.quote} for -{name}: parse error"
      | some (.value set), some v => parseFlags flags rest (set v options)
      | some (.value set), none =>
        match rest with
        | [] => .error s!"flag needs an argument: -{name}"
        | v :: rest => parseFlags flags rest (set v options)

/-- The argument turns the Boolean flag on. -/
def turnsOn (name arg : String) : Bool :=
  match flagToken arg with
  | .flag n value => n == name && value.elim true fun v => parseBool v == some true
  | _ => false

example : turnsOn "confirm" "--confirm" = true ∧ turnsOn "confirm" "-confirm=T" = true ∧
    turnsOn "confirm" "--confirm=0" = false ∧
    turnsOn "confirm" "confirm" = false := by decide +kernel

/-- Only the Boolean flag of the name makes the option true. -/
def OnlyBy {σ : Type} (name : String) (option : σ → Bool) (flag : Flag σ) : Prop :=
  match flag.setter with
  | .bool set => ∀ b options, option (set b options) = true → option options = true ∨ (flag.name = name ∧ b = true)
  | .value set => ∀ v options, option (set v options) = true → option options = true

section OnlyBy

variable {σ : Type} {flags : List (Flag σ)} {name : String} {option : σ → Bool}

theorem mem_of_find_setter {n : String} {setter : FlagSetter σ}
    (h : (flags.find? fun flag => flag.name == n).map Flag.setter = some setter) :
    ∃ flag ∈ flags, flag.name = n ∧ flag.setter = setter := by
  obtain ⟨flag, hfind, hsetter⟩ := Option.map_eq_some_iff.mp h
  have hname := List.find?_some hfind
  simp only [beq_iff_eq] at hname
  exact ⟨flag, List.mem_of_find?_eq_some hfind, hname, hsetter⟩

/-- A flag with a value does not make the option true. -/
theorem of_find_value (honly : ∀ flag ∈ flags, OnlyBy name option flag) {n : String} {set : String → σ → σ}
    (hfind : (flags.find? fun flag => flag.name == n).map Flag.setter = some (.value set)) {v : String} {options : σ}
    (h : option (set v options) = true) : option options = true := by
  obtain ⟨flag, hmem, -, hsetter⟩ := mem_of_find_setter hfind
  have hflag := honly flag hmem
  rw [OnlyBy, hsetter] at hflag
  exact hflag v options h

/-- A Boolean flag makes the option true only when it has the name, and is given as true. -/
theorem of_find_bool (honly : ∀ flag ∈ flags, OnlyBy name option flag) {n : String} {set : Bool → σ → σ}
    (hfind : (flags.find? fun flag => flag.name == n).map Flag.setter = some (.bool set)) {b : Bool} {options : σ}
    (h : option (set b options) = true) : option options = true ∨ (n = name ∧ b = true) := by
  obtain ⟨flag, hmem, hname, hsetter⟩ := mem_of_find_setter hfind
  have hflag := honly flag hmem
  rw [OnlyBy, hsetter, hname] at hflag
  exact hflag b options h

/-- An option that only one Boolean flag makes true, and that is true after parsing, was true before or was
turned on by an argument. -/
theorem turnsOn_of_parseFlags (honly : ∀ flag ∈ flags, OnlyBy name option flag) {args : List String}
    {options result : σ} (h : parseFlags flags args options = .ok result) (hon : option result = true) :
    option options = true ∨ ∃ arg ∈ args, turnsOn name arg = true := by
  have later {arg : String} {rest : List String} (hrest : ∃ arg' ∈ rest, turnsOn name arg' = true) :
      ∃ arg' ∈ arg :: rest, turnsOn name arg' = true := by
    obtain ⟨arg', hmem, hturns⟩ := hrest
    exact ⟨arg', List.mem_cons_of_mem _ hmem, hturns⟩
  -- By the recursion of the parser: an argument turns the option on, or leaves it to the arguments after it.
  fun_induction parseFlags flags args options with
  | case1 | case2 =>
    cases h
    exact Or.inl hon
  | case3 | case4 | case5 | case8 | case10 => nomatch h
  | case6 arg rest opts n set hfind htoken ih =>
    rcases ih h with hafter | hrest
    · rcases of_find_bool honly hfind hafter with hbefore | ⟨rfl, -⟩
      · exact Or.inl hbefore
      · exact Or.inr ⟨arg, List.mem_cons_self, by simp [turnsOn, htoken]⟩
    · exact Or.inr (later hrest)
  | case7 arg rest opts n set v hfind b hbool htoken ih =>
    rcases ih h with hafter | hrest
    · rcases of_find_bool honly hfind hafter with hbefore | ⟨rfl, rfl⟩
      · exact Or.inl hbefore
      · exact Or.inr ⟨arg, List.mem_cons_self, by simp [turnsOn, htoken, hbool]⟩
    · exact Or.inr (later hrest)
  | case9 arg rest opts n set v hfind htoken ih =>
    rcases ih h with hafter | hrest
    · exact Or.inl (of_find_value honly hfind hafter)
    · exact Or.inr (later hrest)
  | case11 arg opts n set hfind htoken v rest ih =>
    rcases ih h with hafter | hrest
    · exact Or.inl (of_find_value honly hfind hafter)
    · exact Or.inr (later (later hrest))

end OnlyBy

end KubeCell
