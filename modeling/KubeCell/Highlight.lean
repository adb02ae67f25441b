import Mathlib.Data.List.DropRight
import KubeCell.Lib.Regex

/-!
# Highlighting

`highlightLine` of `website/lib/highlight.ts` with its tokenizers, and what `CodeBlock` of
`website/components/code-block.tsx` shows and copies, on the strings of JavaScript: sequences of 16-bit units. The
regular expressions have no flag but `g`, so they match unit by unit.
-/

namespace KubeCell.Highlight

/-- A string as JavaScript has it. -/
abbrev JsString : Type := List UInt16

/-- A text of ASCII characters as a string of JavaScript. -/
def js (text : String) : JsString := text.toList.map fun c => UInt16.ofNat c.toNat

inductive TokenType where
  | plain
  | comment
  | key
  | string
  | number
  | flag
  | command
  | keyword
  | punct
  deriving DecidableEq, Repr

structure Token where
  text : JsString
  type : TokenType
  deriving DecidableEq, Repr

inductive Language where
  | yaml
  | bash
  | shell
  | go
  | json
  | text
  deriving DecidableEq, Repr

/-! ## Characters and expressions -/

/-- `\s`: white space and line terminators, which are also what `trim` removes. -/
def isSpace (unit : UInt16) : Bool :=
  unit ∈ [0x09, 0x0A, 0x0B, 0x0C, 0x0D, 0x20, 0xA0, 0x1680, 0x2028, 0x2029, 0x202F, 0x205F, 0x3000, 0xFEFF] ||
    (0x2000 ≤ unit && unit ≤ 0x200A)

/-- `\d`. -/
def isDigit (unit : UInt16) : Bool := 0x30 ≤ unit && unit ≤ 0x39

/-- `[A-Za-z]`. -/
def isLetter (unit : UInt16) : Bool := (0x41 ≤ unit && unit ≤ 0x5A) || (0x61 ≤ unit && unit ≤ 0x7A)

/-- `\w`, the characters whose ends are boundaries. -/
def isWord (unit : UInt16) : Bool := isLetter unit || isDigit unit || unit == 0x5F

/-- One unit of a string. -/
def unit (code : UInt16) : Regex UInt16 := .letter (· == code)

/-- One of the units of a string. -/
def oneOf (units : JsString) : Regex UInt16 := .letter (units.contains ·)

def literal (text : String) : Regex UInt16 := .all ((js text).map unit)

/-- A word between boundaries. -/
def word (text : String) : Regex UInt16 := .all [.boundary isWord, literal text, .boundary isWord]

/-- What stands between two units, as far as the next one of the second kind. -/
def between (first last : UInt16) : Regex UInt16 := .all [unit first, .star (.letter (· != last)), unit last]

def spaces : Regex UInt16 := .star (.letter isSpace)

def digits : Regex UInt16 := .plus (.letter isDigit)

/-- The digits of a fraction. -/
def fraction : Regex UInt16 := .opt (.all [unit 0x2E, digits])

/-- `GO_KEYWORDS`. -/
def goKeywords : Regex UInt16 :=
  .all [.boundary isWord,
    .any (["package", "import", "func", "return", "if", "else", "for", "range", "var", "const", "type", "struct",
      "interface", "map", "chan",
      "go", "defer", "select", "case", "switch", "break", "continue", "nil", "true", "false"].map literal),
    .boundary isWord]

/-- The pattern of values of YAML: quoted texts, flow mappings and sequences, constants, numbers with a unit. -/
def yamlPattern : Regex UInt16 :=
  .any [between 0x22 0x22, between 0x27 0x27, between 0x7B 0x7D, between 0x5B 0x5D, word "true",
    word "false", word "null",
    .all [.boundary isWord, digits, fraction, .opt (.plus (.letter isLetter)), .boundary isWord]]

/-- The pattern of a shell: quoted texts, variables, flags, operators, numbers. -/
def bashPattern : Regex UInt16 :=
  .any [between 0x22 0x22, between 0x27 0x27, .seq (unit 0x24) (between 0x7B 0x7D),
    .all [unit 0x24, .letter fun c => isLetter c || c == 0x5F, .star (.letter isWord)],
    .all [unit 0x2D, .opt (unit 0x2D), .letter isLetter, .star (.letter fun c => isLetter c || isDigit c || c == 0x2D)],
    literal "||", literal "&&", literal "|", literal ">",
      literal "<", .all [.boundary isWord, digits, .boundary isWord]]

/-- The pattern of texts of Go: between quotes, backticks or apostrophes. -/
def goPattern : Regex UInt16 := .any [between 0x22 0x22, between 0x60 0x60, between 0x27 0x27]

/-- A text of JSON, with escapes; a dot matches no line terminator. -/
def jsonString : Regex UInt16 :=
  .all [unit 0x22,
    .star (.alt (.letter fun c => c != 0x22 && c != 0x5C)
      (.seq (unit 0x5C) (.letter fun c => !([0x0A, 0x0D, 0x2028, 0x2029].contains c)))),
    unit 0x22]

/-- A text of JSON that a colon follows. -/
def jsonKey : Regex UInt16 := .seq jsonString (.ahead (.seq spaces (unit 0x3A)))

def jsonPattern : Regex UInt16 :=
  .any [jsonKey, jsonString, word "true", word "false",
    word "null", .all [.opt (unit 0x2D), .boundary isWord, digits, fraction, .boundary isWord],
    oneOf [0x7B, 0x7D, 0x5B, 0x5D, 0x2C, 0x3A]]

/-! ## Tokenizers -/

/-- The loop that the tokenizers share, over all matches of a pattern. -/
def scan (pattern : Regex UInt16) (text : JsString) : Option (List (Piece UInt16)) :=
  pattern.pieces text (text.length + 1) 0

/-- A token that is pushed only when it has a text. -/
def pushText (text : JsString) (type : TokenType) : List Token := if text = [] then [] else [⟨text, type⟩]

/-- The groups of a key of YAML: the indent, the key, the colon and the space behind it. -/
def yamlKey : List (Regex UInt16) :=
  [spaces, .plus (.letter fun c => isWord c || [0x2E, 0x2D, 0x2F].contains c), unit 0x3A, spaces]

/-- The groups of an item of a list: the indent, the dash and the space behind it. -/
def yamlItem : List (Regex UInt16) := [spaces, unit 0x2D, .plus (.letter isSpace)]

/-- The key or the dash that a line of YAML starts with, and the rest. -/
def yamlStart (code : JsString) : List Token × JsString :=
  match (Regex.groupEnds code yamlKey 0).head? with
  | some [indent, key, colon, space] =>
    (pushText (slice code 0 indent) .plain ++ [⟨slice code indent key, .key⟩, ⟨slice code key colon, .punct⟩] ++
      pushText (slice code colon space) .plain, code.drop space)
  | _ =>
    match (Regex.groupEnds code yamlItem 0).head? with
    | some [indent, dash, space] =>
      (pushText (slice code 0 indent) .plain ++
        [⟨slice code indent dash, .punct⟩, ⟨slice code dash space, .plain⟩], code.drop space)
    | _ => ([], code)

def isConstant (value : JsString) : Bool := [js "true", js "false", js "null"].contains value

def yamlToken : Piece UInt16 → Token
  | .plain text => ⟨text, .plain⟩
  | .matched value =>
    ⟨value, if (value.head?).any [0x22, 0x27, 0x7B, 0x5B,
      0x20].contains then .string else if isConstant value then .keyword else .number⟩

def tokenizeYaml (code : JsString) : Option (List Token) := do
  let pieces ← scan yamlPattern (yamlStart code).2
  return (yamlStart code).1 ++ pieces.map yamlToken

/-- `text.trimEnd()`. -/
def trimEnd (text : JsString) : JsString := text.rdropWhile isSpace

/-- `text.trim()`. -/
def trim (text : JsString) : JsString := trimEnd (text.dropWhile isSpace)

/-- `pushPlain`: the first text that is not blank is taken for the command. -/
def pushPlain (first : Bool) (text : JsString) : List Token × Bool :=
  if text = [] then ([], first)
  else if first && 0 < (trim text).length then (pushText (text.takeWhile isSpace) .plain ++
    [⟨trimEnd text, .command⟩], false)
  else ([⟨text, .plain⟩], first)

def bashType (value : JsString) : TokenType :=
  if (value.head?).any [0x22, 0x27].contains then .string
  else if value.head? = some 0x24 then .string
  else if value.head? = some 0x2D then .flag
  else if [js "||", js "&&", js "|", js ">", js "<"].contains value then .punct
  else if value ≠ [] && value.all isDigit then .number
  else .plain

def bashTokens (first : Bool) : List (Piece UInt16) → List Token
  | [] => []
  | .plain text :: rest => (pushPlain first text).1 ++ bashTokens (pushPlain first text).2 rest
  | .matched value :: rest => ⟨value, bashType value⟩ :: bashTokens false rest

def tokenizeBash (code : JsString) : Option (List Token) := do
  let pieces ← scan bashPattern code
  return bashTokens true pieces

/-- `pushCode`: the keywords of a text, and what stands between them. -/
def pushCode (text : JsString) : Option (List Token) := do
  let pieces ← scan goKeywords text
  return pieces.map fun
    | .plain text => ⟨text, .plain⟩
    | .matched value => ⟨value, .keyword⟩

def goTokens : List (Piece UInt16) → Option (List Token)
  | [] => some []
  | .plain text :: rest => do
    let tokens ← pushCode text
    return tokens ++ (← goTokens rest)
  | .matched value :: rest => do
    return ⟨value, .string⟩ :: (← goTokens rest)

def tokenizeGo (code : JsString) : Option (List Token) := do
  let pieces ← scan goPattern code
  goTokens pieces

def jsonType (value : JsString) : TokenType :=
  if value.head? = some 0x22 then if jsonKey.test value then .key else .string
  else if isConstant value then .keyword
  else if (Regex.groupEnds value [.opt (unit 0x2D), .letter isDigit] 0) ≠ [] then .number
  else .punct

def tokenizeJson (code : JsString) : Option (List Token) := do
  let pieces ← scan jsonPattern code
  return pieces.map fun
    | .plain text => ⟨text, .plain⟩
    | .matched value => ⟨value, jsonType value⟩

/-! ## Lines -/

/-- `findCommentStart`, from an index on: quotes of one kind do not count inside the other. -/
def findCommentStart (inSingle inDouble : Bool) (before : Option UInt16) (index : Nat) : JsString → Option Nat
  | [] => none
  | char :: rest =>
    if char == 0x27 && !inDouble then findCommentStart (!inSingle) inDouble (some char) (index + 1) rest
    else if char == 0x22 && !inSingle then findCommentStart inSingle (!inDouble) (some char) (index + 1) rest
    else if char == 0x23 && !inSingle && !inDouble && before.all isSpace then some index
    else findCommentStart inSingle inDouble (some char) (index + 1) rest

/-- `findGoCommentStart`, from an index on: a backtick counts inside quotes too. -/
def findGoCommentStart (inDouble inBacktick : Bool) (index : Nat) : JsString → Option Nat
  | [] => none
  | char :: rest =>
    if char == 0x22 && !inBacktick then findGoCommentStart (!inDouble) inBacktick (index + 1) rest
    else if char == 0x60 then findGoCommentStart inDouble (!inBacktick) (index + 1) rest
    else if char == 0x2F && rest.head? == some 0x2F && !inDouble && !inBacktick then some index
    else findGoCommentStart inDouble inBacktick (index + 1) rest

/-- The comment of a line, where it has one. -/
def commentStart (language : Language) (line : JsString) : Option Nat :=
  if language = .go then findGoCommentStart false false 0 line else findCommentStart false false none 0 line

/-- The line without its comment. -/
def codeOf (language : Language) (line : JsString) : JsString :=
  match commentStart language line with
  | some comment => line.take comment
  | none => line

def tokenize : Language → JsString → Option (List Token)
  | .yaml, code => tokenizeYaml code
  | .json, code => tokenizeJson code
  | .go, code => tokenizeGo code
  | _, code => tokenizeBash code

def highlightLine (line : JsString) (language : Language) : Option (List Token) :=
  if language = .text then some [⟨line, .plain⟩]
  else do
    let tokens ← tokenize language (codeOf language line)
    match commentStart language line with
    | some comment => return tokens ++ [⟨line.drop comment, .comment⟩]
    | none => return tokens

/-- The text that tokens show. -/
def textOf (tokens : List Token) : JsString := tokens.flatMap Token.text

/-! ## Blocks of code -/

/-- The lines of a block, without a newline at its end. -/
def codeLines (code : JsString) : List JsString :=
  (if code.getLast? = some 0x0A then code.dropLast else code).splitOn 0x0A

/-- What the copy button copies. -/
def copied (code : JsString) : JsString := [0x0A].intercalate (codeLines code)

/-- What is shown, line by line. -/
def shown (code : JsString) (language : Language) : Option (List JsString) :=
  (codeLines code).mapM fun line => (highlightLine line language).map textOf

end KubeCell.Highlight
