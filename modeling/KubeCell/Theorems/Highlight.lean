import KubeCell.Highlight

/-!
# Highlighting loses nothing

The tokens of a line are the line again, whatever the language. The exception is the command of a shell line: the
white space before it is shown twice, and that behind it not at all.
-/

namespace KubeCell.Highlight

/-- What stands before the first match of the pattern of a shell. -/
def commandPart (code : JsString) : JsString :=
  match bashPattern.exec code 0 with
  | some (index, _) => code.take index
  | none => code

/-- In a shell, the part of the line that is taken for the command is blank, or has no white space around it. -/
def PlainCommand (language : Language) (line : JsString) : Prop :=
  language = .bash ∨ language = .shell →
    trim (commandPart (codeOf language line)) = [] ∨ trim (commandPart (codeOf language line)) = commandPart
      (codeOf language line)

namespace HighlightAux

open RegexAux

variable {text code : JsString}

theorem textOf_append (tokens tokens' : List Token) :
    textOf (tokens ++ tokens') = textOf tokens ++ textOf tokens' := List.flatMap_append

theorem textOf_nil : textOf [] = [] := rfl

theorem textOf_cons (token : Token) (tokens : List Token) :
    textOf (token :: tokens) = token.text ++ textOf tokens := rfl

/-- A text that is pushed is the text of its token. -/
theorem textOf_pushText (text : JsString) (type : TokenType) : textOf (pushText text type) = text := by
  rw [pushText]
  split_ifs with hempty
  · rw [hempty]
    rfl
  · simp [textOf]

/-- A token for each piece, with its text. -/
theorem textOf_map {token : Piece UInt16 → Token} (h : ∀ piece, (token piece).text = piece.text)
    (pieces : List (Piece UInt16)) :
    textOf (pieces.map token) = pieces.flatMap Piece.text := by
  rw [textOf, List.flatMap_map]
  exact List.flatMap_congr fun piece _ => h piece

/-- A pattern that consumes something cuts every text into pieces. -/
theorem scan_spec (pattern : Regex UInt16) (hconsumes : pattern.consumes = true) (text : JsString) :
    ∃ pieces, scan pattern text = some pieces ∧ pieces.flatMap Piece.text = text := by
  obtain ⟨pieces, hpieces, htext⟩ := pieces_spec hconsumes (Nat.lt_succ_self text.length) (Nat.zero_le _)
  exact ⟨pieces, hpieces, htext⟩

/-! ## The tokenizers -/

/-- The ends of groups are in order, from where they start to the end of the text at most. -/
theorem groupEnds_sorted {groups : List (Regex UInt16)} {pos : Nat} (hpos : pos ≤ text.length) :
    ∀ stops ∈ Regex.groupEnds text groups pos, (pos :: stops).IsChain (· ≤ ·) ∧ ∀ stop ∈ stops, stop ≤ text.length := by
  induction groups generalizing pos with
  | nil =>
    intro stops hstops
    rw [List.mem_singleton.mp hstops]
    simp
  | cons group groups ih =>
    intro stops hstops
    obtain ⟨stop, hstop, hmap⟩ := List.mem_flatMap.mp hstops
    obtain ⟨rest, hrest, rfl⟩ := List.mem_map.mp hmap
    obtain ⟨hle, hlength⟩ := ends_le group hpos stop hstop
    obtain ⟨hchain, hbound⟩ := ih hlength rest hrest
    exact ⟨List.isChain_cons_cons.mpr ⟨hle, hchain⟩, List.forall_mem_cons.mpr ⟨hlength, hbound⟩⟩

/-- The start of a line and its rest are the line. -/
theorem yamlStart_text (code : JsString) : textOf (yamlStart code).1 ++ (yamlStart code).2 = code := by
  unfold yamlStart
  split
  · rename_i indent key colon space hkey
    obtain ⟨hchain, -⟩ := groupEnds_sorted (Nat.zero_le _) _ (List.mem_of_mem_head? hkey)
    simp only [List.isChain_cons_cons] at hchain
    obtain ⟨hindent, hkey, hcolon, hspace, -⟩ := hchain
    simp only [textOf_append, textOf_pushText, textOf_cons, List.append_assoc, textOf_nil, List.nil_append]
    rw [slice_append_drop hspace, slice_append_drop hcolon, slice_append_drop hkey,
      slice_append_drop hindent, List.drop_zero]
  · split
    · rename_i indent dash space hitem
      obtain ⟨hchain, -⟩ := groupEnds_sorted (Nat.zero_le _) _ (List.mem_of_mem_head? hitem)
      simp only [List.isChain_cons_cons] at hchain
      obtain ⟨hindent, hdash, hspace, -⟩ := hchain
      simp only [textOf_append, textOf_pushText, textOf_cons, List.append_assoc, textOf_nil, List.nil_append]
      rw [slice_append_drop hspace, slice_append_drop hdash, slice_append_drop hindent, List.drop_zero]
    · rfl

/-- The tokens of a line of YAML are its text. -/
theorem tokenizeYaml_spec (code : JsString) : ∃ tokens, tokenizeYaml code = some tokens ∧ textOf tokens = code := by
  obtain ⟨pieces, hpieces, htext⟩ := scan_spec yamlPattern rfl (yamlStart code).2
  refine ⟨(yamlStart code).1 ++ pieces.map yamlToken, by rw [tokenizeYaml, hpieces]; rfl, ?_⟩
  rw [textOf_append, textOf_map (fun piece => by cases piece <;> rfl), htext, yamlStart_text]

/-- So are those of a line of JSON. -/
theorem tokenizeJson_spec (code : JsString) : ∃ tokens, tokenizeJson code = some tokens ∧ textOf tokens = code := by
  obtain ⟨pieces, hpieces, htext⟩ := scan_spec jsonPattern rfl code
  refine ⟨_, by rw [tokenizeJson, hpieces]; rfl, ?_⟩
  rw [textOf_map (fun piece => by cases piece <;> rfl), htext]

/-- The tokens of a piece of code are its text. -/
theorem pushCode_spec (text : JsString) : ∃ tokens, pushCode text = some tokens ∧ textOf tokens = text := by
  obtain ⟨pieces, hpieces, htext⟩ := scan_spec goKeywords rfl text
  refine ⟨_, by rw [pushCode, hpieces]; rfl, ?_⟩
  rw [textOf_map (fun piece => by cases piece <;> rfl), htext]

/-- So are those of all pieces. -/
theorem goTokens_spec (pieces : List (Piece UInt16)) :
    ∃ tokens, goTokens pieces = some tokens ∧ textOf tokens = pieces.flatMap Piece.text := by
  induction pieces with
  | nil => exact ⟨[], rfl, rfl⟩
  | cons piece rest ih =>
    obtain ⟨tokens, htokens, htext⟩ := ih
    cases piece with
    | plain text =>
      obtain ⟨first, hfirst, hfirstText⟩ := pushCode_spec text
      refine ⟨first ++ tokens, by rw [goTokens, hfirst, htokens]; rfl, ?_⟩
      rw [textOf_append, hfirstText, htext]
      rfl
    | matched value =>
      refine ⟨⟨value, .string⟩ :: tokens, by rw [goTokens, htokens]; rfl, ?_⟩
      rw [textOf_cons, htext]
      rfl

theorem tokenizeGo_spec (code : JsString) : ∃ tokens, tokenizeGo code = some tokens ∧ textOf tokens = code := by
  obtain ⟨pieces, hpieces, htext⟩ := scan_spec goPattern rfl code
  obtain ⟨tokens, htokens, htokensText⟩ := goTokens_spec pieces
  exact ⟨tokens, by rw [tokenizeGo, hpieces]; exact htokens, by rw [htokensText, htext]⟩

/-! ## The command of a shell -/

/-- What is left of a text without the white space at its end, where it is not blank behind some start. -/
theorem trimEnd_append {start rest : JsString} (h : trimEnd rest ≠ []) :
    trimEnd (start ++ rest) = start ++ trimEnd rest := by
  induction rest using List.reverseRecOn with
  | nil => exact absurd rfl h
  | append_singleton rest c ih =>
    rw [trimEnd, trimEnd, ← List.append_assoc, List.rdropWhile_concat, List.rdropWhile_concat] at *
    split_ifs at h ⊢ with hspace
    · exact ih h
    · exact List.append_assoc start rest [c]

/-- White space before a text is doubled, and white space behind it is lost. -/
theorem trim_eq_self_iff (text : JsString) (hblank : trim text ≠ []) :
    text.takeWhile isSpace ++ trimEnd text = text ↔ trim text = text := by
  have htext : text.takeWhile isSpace ++ text.dropWhile isSpace = text := List.takeWhile_append_dropWhile
  have htrimEnd : trimEnd text = text.takeWhile isSpace ++ trim text := by
    rw [trim, ← trimEnd_append hblank, htext]
  rw [htrimEnd]
  constructor
  · intro h
    have hrest : text.takeWhile isSpace ++ trim text = text.dropWhile isSpace := by
      refine List.append_cancel_left (h.trans htext.symm)
    cases hstart : text.takeWhile isSpace with
    | nil =>
      rw [hstart] at hrest htext
      exact hrest.trans htext
    | cons c start =>
      -- The rest would start with white space.
      rw [hstart, List.cons_append] at hrest
      have hspace : isSpace c = true := List.mem_takeWhile_imp (hstart ▸ List.mem_cons_self)
      have hhead := List.head?_dropWhile_not isSpace text
      rw [← hrest, List.head?_cons] at hhead
      simp [hspace] at hhead
  · intro h
    have hle : (trim text).length ≤ (text.dropWhile isSpace).length := (List.rdropWhile_prefix isSpace _).length_le
    have hlength := congrArg List.length htext
    rw [h] at hle
    rw [List.length_append] at hlength
    have hstart : text.takeWhile isSpace = [] := List.eq_nil_of_length_eq_zero (by omega)
    rw [hstart, h]
    rfl

/-- A plain text is kept if nothing is trimmed off, or everything. -/
theorem pushPlain_text_iff (text : JsString) :
    textOf (pushPlain true text).1 = text ↔ trim text = [] ∨ trim text = text := by
  unfold pushPlain
  split_ifs with hempty hcommand
  · subst hempty
    exact iff_of_true rfl (.inl rfl)
  · have hblank : trim text ≠ [] := by
      rw [Bool.true_and, decide_eq_true_eq] at hcommand
      exact List.ne_nil_of_length_pos hcommand
    rw [textOf_append, textOf_pushText, or_iff_right hblank, ← trim_eq_self_iff text hblank]
    simp [textOf]
  · have hblank : trim text = [] := by
      rw [Bool.true_and, decide_eq_true_eq, Nat.not_lt, Nat.le_zero] at hcommand
      exact List.eq_nil_of_length_eq_zero hcommand
    exact iff_of_true (by simp [textOf]) (.inl hblank)

/-- Behind a match no text is taken for the command. -/
theorem bashTokens_text (pieces : List (Piece UInt16)) :
    textOf (bashTokens false pieces) = pieces.flatMap Piece.text := by
  induction pieces with
  | nil => rfl
  | cons piece rest ih =>
    cases piece with
    | plain text =>
      rw [bashTokens]
      have hplain : (pushPlain false text).1 = pushText text .plain ∧ (pushPlain false text).2 = false := by
        unfold pushPlain pushText
        split_ifs <;> simp_all
      rw [hplain.1, hplain.2, textOf_append, textOf_pushText, ih]
      rfl
    | matched value =>
      rw [bashTokens, textOf_cons, ih]
      rfl

/-- A line of Bash is kept unless its command has blanks around it. -/
theorem tokenizeBash_spec (code : JsString) :
    ∃ tokens, tokenizeBash code = some tokens ∧
      (textOf tokens = code ↔ trim (commandPart code) = [] ∨ trim (commandPart code) = commandPart code) := by
  rw [tokenizeBash, scan, Regex.pieces, commandPart]
  cases hexec : bashPattern.exec code 0 with
  | none =>
    refine ⟨_, rfl, ?_⟩
    split_ifs with hlength
    · rw [List.drop_zero, bashTokens, bashTokens, List.append_nil]
      exact pushPlain_text_iff code
    · obtain rfl : code = [] := List.eq_nil_of_length_eq_zero (by omega)
      exact iff_of_true rfl (.inl rfl)
  | some found =>
    obtain ⟨index, stop⟩ := found
    obtain ⟨-, hle, hlength, hlt⟩ := exec_spec hexec
    have hlt := hlt rfl
    obtain ⟨rest, hrest, htext⟩ := pieces_spec (r := bashPattern) rfl
      (show code.length < code.length + stop by omega) hlength
    refine ⟨_, by dsimp only; rw [hrest]; rfl, ?_⟩
    have hbehind : textOf (bashTokens false (.matched (slice code index stop) :: rest)) = code.drop index := by
      rw [bashTokens_text, List.flatMap_cons, htext]
      exact slice_append_drop hle
    split_ifs with hindex
    · have hsame : slice code 0 index = code.take index := rfl
      have hcode := List.take_append_drop index code
      rw [List.singleton_append, bashTokens, bashTokens, hsame, textOf_append]
      rw [bashTokens] at hbehind
      rw [hbehind, ← pushPlain_text_iff]
      constructor
      · intro h
        exact List.append_cancel_right (h.trans hcode.symm)
      · intro h
        rw [h, hcode]
    · obtain rfl : index = 0 := by omega
      exact iff_of_true hbehind (.inl rfl)

/-! ## Lines -/

/-- The tokens of the code of a line: in a shell, the command decides. -/
theorem tokenize_spec {language : Language} (hlanguage : language ≠ .text) (line : JsString) :
    ∃ tokens, tokenize language (codeOf language line) = some tokens ∧
      (textOf tokens = codeOf language line ↔ PlainCommand language line) := by
  have hother : language ≠ .bash → language ≠ .shell → ∀ tokens, textOf tokens = codeOf language line →
      (textOf tokens = codeOf language line ↔ PlainCommand language line) := by
    intro hbash hshell tokens htext
    exact iff_of_true htext fun h => absurd h (not_or.mpr ⟨hbash, hshell⟩)
  have hshell : (language = .bash ∨ language = .shell) → ∀ tokens,
      (textOf tokens = codeOf language line ↔
        trim (commandPart (codeOf language line)) = [] ∨ trim (commandPart (codeOf language line)) = commandPart
          (codeOf language line)) →
      (textOf tokens = codeOf language line ↔ PlainCommand language line) := by
    intro h tokens hiff
    rw [hiff, PlainCommand, imp_iff_right h]
  cases language with
  | text => exact absurd rfl hlanguage
  | yaml =>
    obtain ⟨tokens, htokens, htext⟩ := tokenizeYaml_spec (codeOf .yaml line)
    exact ⟨tokens, htokens, hother nofun nofun tokens htext⟩
  | json =>
    obtain ⟨tokens, htokens, htext⟩ := tokenizeJson_spec (codeOf .json line)
    exact ⟨tokens, htokens, hother nofun nofun tokens htext⟩
  | go =>
    obtain ⟨tokens, htokens, htext⟩ := tokenizeGo_spec (codeOf .go line)
    exact ⟨tokens, htokens, hother nofun nofun tokens htext⟩
  | bash =>
    obtain ⟨tokens, htokens, hiff⟩ := tokenizeBash_spec (codeOf .bash line)
    exact ⟨tokens, htokens, hshell (.inl rfl) tokens hiff⟩
  | shell =>
    obtain ⟨tokens, htokens, hiff⟩ := tokenizeBash_spec (codeOf .shell line)
    exact ⟨tokens, htokens, hshell (.inr rfl) tokens hiff⟩

/-- A line is kept in each language but for those blanks. -/
theorem highlightLine_spec (language : Language) (line : JsString) :
    ∃ tokens, highlightLine line language = some tokens ∧ (textOf tokens = line ↔ PlainCommand language line) := by
  rw [highlightLine]
  split_ifs with hlanguage
  · subst hlanguage
    exact ⟨_, rfl, iff_of_true (List.append_nil line) nofun⟩
  · obtain ⟨tokens, htokens, hiff⟩ := tokenize_spec hlanguage line
    rw [htokens]
    rw [codeOf] at hiff
    cases hcomment : commentStart language line with
    | none =>
      rw [hcomment] at hiff
      exact ⟨tokens, rfl, hiff⟩
    | some comment =>
      rw [hcomment] at hiff
      refine ⟨_, rfl, ?_⟩
      rw [← hiff, textOf_append]
      have hline := List.take_append_drop comment line
      have hlast : textOf [⟨line.drop comment, .comment⟩] = line.drop comment := List.append_nil _
      rw [hlast]
      constructor
      · intro h
        exact List.append_cancel_right (h.trans hline.symm)
      · intro h
        dsimp only at h
        rw [h, hline]

/-! ## Blocks -/

/-- What is copied has the lines of the code. -/
theorem splitOn_copied (code : JsString) : (copied code).splitOn 0x0A = codeLines code := by
  rw [copied, codeLines, List.intercalate_splitOn]

/-- The lines that are shown are those there are exactly when each line is. -/
theorem mapM_highlightLine (language : Language) (lines : List JsString) :
    ∃ texts, lines.mapM (fun line => (highlightLine line language).map textOf) = some texts ∧
      (texts = lines ↔ ∀ line ∈ lines, PlainCommand language line) := by
  induction lines with
  | nil => exact ⟨[], rfl, iff_of_true rfl nofun⟩
  | cons line lines ih =>
    obtain ⟨texts, htexts, hiff⟩ := ih
    obtain ⟨tokens, htokens, hline⟩ := highlightLine_spec language line
    refine ⟨textOf tokens :: texts, by rw [List.mapM_cons, htokens, htexts]; rfl, ?_⟩
    rw [List.cons.injEq, hiff, hline, List.forall_mem_cons]

end HighlightAux

open HighlightAux

/-- Every line is highlighted, and shown as it is exactly when it is no line of a shell with white space around what
is taken for its command; and a block shows the lines that its button copies exactly when all of them are such. -/
theorem highlight_lossless_iff (language : Language) :
    (∀ line, ∃ tokens, highlightLine line language = some tokens ∧
      (textOf tokens = line ↔ PlainCommand language line)) ∧
      ∀ code, ∃ lines, shown code language = some lines ∧
        (lines = (copied code).splitOn 0x0A ↔ ∀ line ∈ (copied code).splitOn 0x0A, PlainCommand language line) := by
  refine ⟨highlightLine_spec language, fun code => ?_⟩
  rw [splitOn_copied]
  exact mapM_highlightLine language (codeLines code)

/-- A command with an indent: it is shown with the indent twice, and without the space before its flag. -/
theorem highlight_lossless_false :
    ¬∀ (language : Language) (line : JsString), ∃ tokens, highlightLine line language = some tokens ∧
      textOf tokens = line := by
  intro h
  obtain ⟨tokens, htokens, htext⟩ := h .bash (js "  kubectl get pods -A")
  have hshown : (highlightLine (js "  kubectl get pods -A") .bash).map textOf =
    some (js "    kubectl get pods-A") := by decide +kernel
  rw [htokens, Option.map_some, htext] at hshown
  exact absurd hshown (by decide +kernel)

end KubeCell.Highlight
