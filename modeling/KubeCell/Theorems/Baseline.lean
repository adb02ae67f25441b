import KubeCell.Baseline
import KubeCell.Lib.Checks
import KubeCell.Theorems.Confirmed

/-!
# Templates of baseline commands

The variables are replaced one after the other, in what the ones before have left. That is one simultaneous
substitution exactly for the tables whose values make no braces with what is around them and complete no name.
-/

namespace KubeCell

/-- A template with the value of every placeholder in its place, all at the same time. -/
def VarTable.substitute (vars : VarTable) (template : GoString) : GoString :=
  byteBraces.fill (fun name => AList.lookup name vars) (byteBraces.tokens vars.keys 0 template)

/-- A template with `{{` or `}}` outside the placeholders of the variables there are. -/
def VarTable.Stray (vars : VarTable) (template : GoString) : Prop :=
  byteBraces.Stray (byteBraces.tokens vars.keys 0 template)

/-- What is rendered is the simultaneous substitution, and only stray braces fail. -/
structure RendersAtOnce (vars : VarTable) (visits : Visits vars) (templates : List GoString) : Prop where
  substituted : ∀ result, renderHostBaselineCommands vars visits templates = .ok result →
    result = templates.map vars.substitute
  fails : (∃ e, renderHostBaselineCommands vars visits templates = .error e) ↔ ∃ template ∈ templates,
    vars.Stray template

namespace BaselineAux

open Braces ReplaceAux PlaceholdersAux Checks

variable {vars : VarTable}

/-! ## One command, and all of them -/

/-- A command is rendered if it is clean after the replacements. -/
theorem renderHostBaselineCommand_ok {order : List (Σ _ : GoString, GoString)} {template rendered : GoString} :
    renderHostBaselineCommand order template = .ok rendered ↔
      byteBraces.Clean (replaceVars order template) ∧ replaceVars order template = rendered := by
  unfold renderHostBaselineCommand
  simp only [ite_throw_eq_ok, pure, Except.pure, Except.ok.injEq, not_or]
  rfl

/-- Where the order makes no difference, the templates are rendered one by one, or one of them is at fault. -/
theorem renderFrom_ok {order : Nat → List (Σ _ : GoString, GoString)} {rendered : GoString → GoString}
    (h : ∀ index template, replaceVars (order index) template = rendered template) {index : Nat}
    {templates result : List GoString} :
    renderHostBaselineCommandsFrom order index templates = .ok result ↔
      (∀ template ∈ templates, byteBraces.Clean (rendered template)) ∧ templates.map rendered = result := by
  induction templates generalizing index result with
  | nil => simp [renderHostBaselineCommandsFrom, pure, Except.pure]
  | cons template templates ih =>
    simp only [renderHostBaselineCommandsFrom, bind_eq_ok, renderHostBaselineCommand_ok, ih, h, pure,
      Except.pure, Except.ok.injEq,
      List.forall_mem_cons, List.map_cons]
    constructor
    · rintro ⟨_, ⟨hfirst, rfl⟩, _, ⟨hrest, rfl⟩, rfl⟩
      exact ⟨⟨hfirst, hrest⟩, rfl⟩
    · rintro ⟨⟨hfirst, hrest⟩, rfl⟩
      exact ⟨_, ⟨hfirst, rfl⟩, _, ⟨hrest, rfl⟩, rfl⟩

theorem exists_error_iff {ε α : Type} {x : Except ε α} : (∃ e, x = .error e) ↔ ¬∃ a, x = .ok a := by
  cases x with
  | error e => simp
  | ok a => simp

/-- The loop fails if one command does. -/
theorem renderFrom_error {order : Nat → List (Σ _ : GoString, GoString)} {rendered : GoString → GoString}
    (h : ∀ index template, replaceVars (order index) template = rendered template) {index : Nat}
    {templates : List GoString} :
    (∃ e, renderHostBaselineCommandsFrom order index templates = .error e) ↔
      ∃ template ∈ templates, ¬byteBraces.Clean (rendered template) := by
  simp only [exists_error_iff, renderFrom_ok h, exists_and_left, exists_eq', and_true, not_forall, exists_prop]

/-! ## Tables whose values stay apart -/

/-- In any order of such a table, replacing is substituting. -/
theorem replaceVars_eq (hnames : ∀ name ∈ vars.keys, byteBraces.Plain name) (hvars : byteBraces.Separate vars.entries)
    {order : List (Σ _ : GoString, GoString)} (hperm : order.Perm vars.entries) (template : GoString) :
    replaceVars order template = vars.substitute template := by
  obtain ⟨hfaithful, htemplate⟩ := tokens_spec byteBraces vars.keys template
  have hnodup : order.NodupKeys := (List.perm_nodupKeys hperm).mpr vars.nodupKeys
  have hmem : ∀ var ∈ order, var.1 ∈ vars.keys := fun var hvar => List.mem_keys_of_mem (hperm.subset hvar)
  have hfold := foldl_replaceText hnodup hmem hnames (fun var hvar => hvars var (hperm.subset hvar)) hfaithful
  rw [htemplate] at hfold
  rw [replaceVars, hfold, VarTable.substitute]
  congr 1
  funext name
  exact List.perm_dlookup name hnodup hperm

/-- A template is clean after the substitution exactly when it has no stray braces. -/
theorem clean_substitute_iff (hvars : byteBraces.Separate vars.entries) (template : GoString) :
    byteBraces.Clean (vars.substitute template) ↔ ¬vars.Stray template := by
  refine clean_fill_iff (fun name value hvalue => (hvars _ (AList.mem_lookup_iff.mp hvalue)).1) (fun name hname => ?_)
    (tokens_spec byteBraces vars.keys template).1
  rw [← Option.isSome_iff_ne_none, AList.lookup_isSome]
  exact hname

/-! ## Tables whose values do not -/

/-- The table visited in one order for every template. -/
def sameVisit {order : List (Σ _ : GoString, GoString)} (hperm : order.Perm vars.entries) : Visits vars :=
  ⟨fun _ => order, fun _ => hperm⟩

/-- Where all is rendered at once, a template without stray braces leaves none. -/
theorem clean_of_rendersAtOnce (h : ∀ visits templates, RendersAtOnce vars visits templates) {template : GoString}
    (hstray : ¬vars.Stray template) : byteBraces.Clean (vars.substitute template) := by
  have hrenders := h (sameVisit (List.Perm.refl _)) [template]
  have hok : ∃ result, renderHostBaselineCommands vars (sameVisit (List.Perm.refl _)) [template] = .ok result := by
    by_contra hnone
    obtain ⟨_, hmem, hbad⟩ := hrenders.fails.mp (exists_error_iff.mpr hnone)
    rw [List.mem_singleton.mp hmem] at hbad
    exact hstray hbad
  obtain ⟨result, hresult⟩ := hok
  have hsame := hrenders.substituted result hresult
  obtain ⟨hclean, rfl⟩ := (renderFrom_ok fun _ _ => rfl).mp hresult
  have hfirst := hclean template (by simp)
  rwa [(List.cons.inj hsame).1] at hfirst

/-- Where the order makes no difference, no value has a placeholder in it. -/
theorem inert_of_rendersAtOnce (hnames : ∀ name ∈ vars.keys, byteBraces.Plain name)
    (h : ∀ visits templates, RendersAtOnce vars visits templates) {var : Σ _ : GoString, GoString}
    (hvar : var ∈ vars.entries) :
    byteBraces.Inert var.2 := by
  have hlookup : AList.lookup var.1 vars = some var.2 := AList.mem_lookup_iff.mpr hvar
  refine inert_of_between fun d hd => ?_
  have htokens := tokens_between hnames (List.mem_keys_of_mem hvar) hd
  have hstray : ¬vars.Stray (d :: (byteBraces.placeholder var.1 ++ [d])) := by
    rw [VarTable.Stray, htokens]
    simp [Braces.Stray, List.infix_cons_iff, List.cons_prefix_cons]
  have hclean := clean_of_rendersAtOnce h hstray
  rw [VarTable.substitute, htokens, fill_letter, fill_placeholder, hlookup, Option.getD_some, fill_letter,
    fill_nil] at hclean
  rcases hd with rfl | rfl
  · exact hclean.1
  · exact hclean.2

/-- A placeholder with braces around it. -/
def nested (before name after : GoString) : GoString :=
  byteBraces.opening :: byteBraces.opening ::
    (before ++ (byteBraces.placeholder name ++ (after ++ [byteBraces.closing, byteBraces.closing])))

/-- A value that is a part of another name completes a placeholder of it. -/
theorem not_infix_of_rendersAtOnce (hnames : ∀ name ∈ vars.keys, byteBraces.Plain name)
    (h : ∀ visits templates, RendersAtOnce vars visits templates) {var : Σ _ : GoString, GoString}
    (hvar : var ∈ vars.entries) {name : GoString} (hname : name ∈ vars.keys)
    (hne : name ≠ var.1) : ¬var.2 <:+: name := by
  rintro ⟨before, after, rfl⟩
  obtain ⟨value, hvalue⟩ := Option.isSome_iff_exists.mp (AList.lookup_isSome.mpr hname)
  have hother := AList.mem_lookup_iff.mp hvalue
  have hplain := hnames _ hname
  have hbefore : byteBraces.Plain before :=
    ⟨fun hmem => hplain.1 (by simp [hmem]), fun hmem => hplain.2 (by simp [hmem])⟩
  have hafter : byteBraces.Plain after := ⟨fun hmem => hplain.1 (by simp [hmem]), fun hmem => hplain.2 (by simp [hmem])⟩
  -- The variable is visited first, the one whose name it completes next.
  obtain ⟨rest, hperm⟩ : ∃ rest, (var :: ⟨before ++ var.2 ++ after, value⟩ :: rest).Perm vars.entries := by
    have hmem := (List.mem_erase_of_ne fun heq => hne (congrArg Sigma.fst heq)).mpr hother
    exact ⟨_, ((List.perm_cons_erase hvar).trans ((List.perm_cons_erase hmem).cons var)).symm⟩
  have hclean : byteBraces.Clean value := (inert_of_rendersAtOnce hnames h hother).clean
  have hrendered : replaceVars (var :: ⟨before ++ var.2 ++ after, value⟩ :: rest)
    (nested before var.1 after) = value := by
    have hne : byteBraces.placeholder (before ++ var.2 ++ after) ≠ [] := by simp [Braces.placeholder]
    have hcompleted : replaceText (byteBraces.placeholder (before ++ var.2 ++ after)) value 0
        (byteBraces.placeholder (before ++ var.2 ++ after)) = value := by
      simpa [replaceText] using replaceText_append hne value []
    rw [replaceVars, List.foldl_cons, List.foldl_cons, nested, replaceText_nested hnames
      (List.mem_keys_of_mem hvar) hbefore hafter,
      hcompleted]
    exact foldl_replaceText_of_clean hclean rest
  have hstray : vars.Stray (nested before var.1 after) := by
    rw [VarTable.Stray, nested, tokens_nested hnames (List.mem_keys_of_mem hvar) hbefore hafter]
    exact .inl (List.prefix_append [_, _] _).isInfix
  have hfails := (h (sameVisit hperm) [nested before var.1 after]).fails.mpr ⟨_, List.mem_singleton_self _, hstray⟩
  obtain ⟨_, hmem, hbad⟩ := (renderFrom_error fun _ _ => rfl).mp hfails
  rw [List.mem_singleton.mp hmem] at hbad
  exact hbad (hrendered.symm ▸ hclean)

end BaselineAux

open BaselineAux

/-- The rendering of every template is one simultaneous substitution, in every order, exactly for the tables
whose values stay apart. -/
theorem renders_at_once_iff (vars : VarTable) (hnames : ∀ name ∈ vars.keys, byteBraces.Plain name) :
    (∀ visits templates, RendersAtOnce vars visits templates) ↔ byteBraces.Separate vars.entries := by
  constructor
  · intro h var hvar
    exact ⟨inert_of_rendersAtOnce hnames h hvar, fun name hname hne =>
      not_infix_of_rendersAtOnce hnames h hvar hname hne⟩
  · intro hvars visits templates
    have huniform : ∀ index template, replaceVars (visits.order index) template = vars.substitute template :=
      fun index template =>
      replaceVars_eq hnames hvars (visits.perm index) template
    constructor
    · intro result hresult
      exact ((renderFrom_ok huniform).mp hresult).2.symm
    · rw [renderHostBaselineCommands, renderFrom_error huniform]
      simp only [clean_substitute_iff hvars, not_not]

namespace BaselineAux

/-- The table for a node of the sample release. -/
def nodeVars (nodeName : String) : VarTable := hostBaselineVars InstallerSampleAux.sampleManifest (.ofText nodeName)

theorem keys_nodeVars (nodeName : String) : (nodeVars nodeName).keys = (nodeVars "").keys := rfl

/-- The names of the variables are plain. -/
theorem plain_nodeVars (nodeName : String) : ∀ name ∈ (nodeVars nodeName).keys, byteBraces.Plain name := by
  rw [keys_nodeVars]
  unfold Braces.Plain
  decide +kernel

end BaselineAux

theorem renders_at_once_sample : (∀ name ∈ (nodeVars "host-01").keys, byteBraces.Plain name) ∧
    ∀ visits templates, RendersAtOnce (nodeVars "host-01") visits templates := by
  refine ⟨plain_nodeVars "host-01",
    (renders_at_once_iff (nodeVars "host-01") (plain_nodeVars "host-01")).mpr fun var hvar => ⟨?_, ?_⟩⟩
  · have hends : var.2 ≠ [] ∧ (var.2.head? ≠ some 0x7B ∧ var.2.head? ≠ some 0x7D) ∧
      (var.2.getLast? ≠ some 0x7B ∧ var.2.getLast? ≠ some 0x7D) ∧
        ¬[0x7B, 0x7B] <:+: var.2 ∧ ¬[0x7D, 0x7D] <:+: var.2 := by
      revert var
      decide +kernel
    exact ⟨hends.1, hends.2.1, hends.2.2.1, hends.2.2.2⟩
  · revert var
    decide +kernel

/-- A node whose name is a placeholder: the suffix is inserted where the name belongs. -/
theorem renders_at_once_false :
    ¬∀ vars : VarTable, (∀ name ∈ vars.keys, byteBraces.Plain name) → ∀ visits templates,
      RendersAtOnce vars visits templates := by
  intro h
  have hrenders := h (nodeVars "\x7b\x7bAPPS_SUFFIX\x7d\x7d") (plain_nodeVars _) (sameVisit (List.Perm.refl _))
    [.ofText "echo \x7b\x7bHOST_NODE_NAME\x7d\x7d"]
  have hsame := hrenders.substituted [.ofText "echo apps.example.com"] (by decide +kernel)
  revert hsame
  decide +kernel

end KubeCell
