import ScriptLex.Text.Blank
import ScriptLex.Lexicon
/-!
# Tokenizer options

Three independent settings: which characters count as whitespace, which words are reserved, and
whether a literal that runs into the end of the input is still a token. Each choice has a
canonical name; reading a name trims blank characters, folds ASCII case and then matches exactly.
A name that matches no choice is an `InvalidOption`, which keeps the text as it was given.
-/

namespace ScriptLex

/-- Which characters separate literals besides `;`. -/
inductive WhitespaceMode where
  /-- Only the space and the byte-order mark. -/
  | faithful
  /-- The byte-order mark and every Unicode White_Space character. -/
  | extended
  deriving DecidableEq, Repr, Inhabited

/-- Which words become keywords. Each set contains the one before it. -/
inductive ReservedSet where
  /-- The keywords only. -/
  | keywords
  /-- The keywords and the words reserved for future use. -/
  | futureReserved
  /-- Those and the words reserved in strict mode code. -/
  | strict
  deriving DecidableEq, Repr, Inhabited

/-- What happens to a literal that is still open at the end of the input. -/
inductive TrailingMode where
  /-- It is classified and returned like any other literal. -/
  | flush
  /-- It is discarded. -/
  | drop
  deriving DecidableEq, Repr, Inhabited

/-- The three settings together. -/
structure Options where
  whitespace : WhitespaceMode := .faithful
  reservedWords : ReservedSet := .keywords
  trailingLiteral : TrailingMode := .flush
  deriving DecidableEq, Repr, Inhabited

/-- The three settings, as messages and configuration keys name them. -/
inductive Setting where
  | whitespace
  | reservedWords
  | trailingLiteral
  deriving DecidableEq, Repr

/-- A text that names no choice of a setting. -/
structure InvalidOption where
  setting : Setting
  /-- The text exactly as it was given, before trimming and case folding. -/
  value : String
  deriving DecidableEq, Repr

namespace WhitespaceMode

/-- Whether the mode skips `c` as whitespace. -/
def isWhitespace : WhitespaceMode → Char → Bool
  | .faithful, c => Lexicon.whitespaceCharacters.contains c
  | .extended, c => c == '\uFEFF' || Text.isBlank c

/-- The canonical name. -/
def name : WhitespaceMode → String
  | .faithful => "faithful"
  | .extended => "extended"

/-- Every mode, in order of definition. -/
def all : List WhitespaceMode := [.faithful, .extended]

end WhitespaceMode

namespace ReservedSet

/-- Whether the set reserves the word: keywords always, and the larger sets add their groups. -/
def contains (r : ReservedSet) (w : List Char) : Bool :=
  Lexicon.isKeyword w ||
    match r with
    | .keywords => false
    | .futureReserved => Lexicon.isFutureReserved w
    | .strict => Lexicon.isFutureReserved w || Lexicon.isStrictReserved w

/-- The canonical name. -/
def name : ReservedSet → String
  | .keywords => "keywords"
  | .futureReserved => "future-reserved"
  | .strict => "strict"

/-- Every set, in order of definition. -/
def all : List ReservedSet := [.keywords, .futureReserved, .strict]

end ReservedSet

namespace TrailingMode

/-- The canonical name. -/
def name : TrailingMode → String
  | .flush => "flush"
  | .drop => "drop"

/-- Every mode, in order of definition. -/
def all : List TrailingMode := [.flush, .drop]

end TrailingMode

namespace Setting

/-- The name of the setting in messages and configuration keys. -/
def label : Setting → String
  | .whitespace => "whitespace"
  | .reservedWords => "reserved-words"
  | .trailingLiteral => "trailing-literal"

/-- The canonical names of the setting's choices, in order. -/
def choices : Setting → List String
  | .whitespace => WhitespaceMode.all.map WhitespaceMode.name
  | .reservedWords => ReservedSet.all.map ReservedSet.name
  | .trailingLiteral => TrailingMode.all.map TrailingMode.name

/-- The choices as one comma-separated text. -/
def expected (s : Setting) : String := ", ".intercalate s.choices

end Setting

/-- The message of an invalid option. -/
def InvalidOption.message (e : InvalidOption) : String :=
  s!"invalid value '{e.value}' for option '{e.setting.label}' (expected one of: {e.setting.expected})"

/-- The text that is compared with the canonical names: trimmed, ASCII letters in lower case. -/
def normalizeChoice (s : String) : String :=
  String.ofList ((Text.trim s.toList).map Char.toLower)

/-- Reads a choice of `setting` by its canonical name after normalizing the text. -/
def readChoice {α : Type} (setting : Setting) (all : List α) (name : α → String) (s : String) :
    Except InvalidOption α :=
  match all.find? (fun a => name a == normalizeChoice s) with
  | some a => .ok a
  | none => .error { setting, value := s }

/-- Reads a whitespace mode. -/
def WhitespaceMode.read (s : String) : Except InvalidOption WhitespaceMode :=
  readChoice .whitespace WhitespaceMode.all WhitespaceMode.name s

/-- Reads a reserved-word set. -/
def ReservedSet.read (s : String) : Except InvalidOption ReservedSet :=
  readChoice .reservedWords ReservedSet.all ReservedSet.name s

/-- Reads a trailing-literal mode. -/
def TrailingMode.read (s : String) : Except InvalidOption TrailingMode :=
  readChoice .trailingLiteral TrailingMode.all TrailingMode.name s

/-- Sets one field of the options from a text. -/
def Options.assign (o : Options) : Setting → String → Except InvalidOption Options
  | .whitespace, s => return { o with whitespace := ← WhitespaceMode.read s }
  | .reservedWords, s => return { o with reservedWords := ← ReservedSet.read s }
  | .trailingLiteral, s => return { o with trailingLiteral := ← TrailingMode.read s }

example : (WhitespaceMode.read " Extended\n").toOption = some .extended := by decide
example : (ReservedSet.read "strict!").toOption = none := by decide

end ScriptLex
