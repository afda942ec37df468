import ScriptLex.Summary
import ScriptLex.Error
import ScriptLex.Text.Quoted
/-!
# Inspection texts

The texts that show a value with its structure, for debugging: a record is its name and its
fields between braces, `name: value` separated by commas; an optional value is `Some(…)` or
`None`; a text is quoted; a list is between brackets.
-/

namespace ScriptLex.Inspect

/-- A record: its name and its fields. -/
def record (name : String) (fields : List (String × String)) : String :=
  name ++ " \x7b " ++ ", ".intercalate (fields.map fun (k, v) => k ++ ": " ++ v) ++ " \x7d"

/-- A value wrapped in a constructor, between parentheses. -/
def wrap (name : String) (v : String) : String := name ++ "(" ++ v ++ ")"

/-- An optional value. -/
def option : Option String → String
  | some v => wrap "Some" v
  | none => "None"

/-- A list of values. -/
def list (vs : List String) : String := "[" ++ ", ".intercalate vs ++ "]"

/-- A truth value. -/
def bool (b : Bool) : String := if b then "true" else "false"

/-- The constructor name of a whitespace mode. -/
def whitespaceMode : WhitespaceMode → String
  | .faithful => "Faithful"
  | .extended => "Extended"

/-- The constructor name of a reserved-word set. -/
def reservedSet : ReservedSet → String
  | .keywords => "Keywords"
  | .futureReserved => "FutureReserved"
  | .strict => "Strict"

/-- The constructor name of a trailing mode. -/
def trailingMode : TrailingMode → String
  | .flush => "Flush"
  | .drop => "Drop"

/-- The options. -/
def options (o : Options) : String :=
  record "TokenizerOptions" [("whitespace", whitespaceMode o.whitespace),
    ("reserved_words", reservedSet o.reservedWords),
    ("trailing_literal", trailingMode o.trailingLiteral)]

/-- The constructor name of a kind. -/
def kind : TokenKind → String
  | .eof => "Eof"
  | .keyword => "Keyword"
  | .punctuator => "Punctuator"
  | .divPunctuator => "DivPunctuator"
  | .numericLiteral => "NumericLiteral"
  | .identifierName => "IdentifierName"

/-- A span. -/
def span (s : Span) : String :=
  record "Span" [("start", toString s.start), ("end", toString s.stop)]

/-- A token. -/
def token (t : Token) : String :=
  record "Token" [("kind", kind t.kind), ("literal", Text.quote t.literal), ("span", span t.span)]

/-- A cursor: the whole text, the offset and the width it can step back over. -/
def cursor (c : Cursor) : String :=
  record "Cursor" [("source", Text.quote (String.ofList c.source)),
    ("position", toString c.position), ("last_width", option (c.lastWidth.map toString))]

/-- A tokenizer. -/
def tokenizer (t : Tokenizer) : String :=
  record "Tokenizer" [("cursor", cursor t.cursor), ("options", options t.options),
    ("literal", span t.literal), ("kind", kind t.kind), ("sink", bool t.observed)]

/-- A parser. -/
def parser (p : Parser) : String :=
  record "Parser" [("options", options p.options), ("sink", bool p.observed)]

/-- A summary: its counts in kind-index order. -/
def summary (s : Summary) : String :=
  record "ParseSummary" [("counts", list (s.counts.map toString))]

/-- An option that names no choice. -/
def invalidOption (e : InvalidOption) : String :=
  record "InvalidOption" [("option", Text.quote e.setting.label), ("value", Text.quote e.value),
    ("expected", Text.quote e.setting.expected)]

/-- A failure to read. -/
def readFailure (f : ReadFailure) : String :=
  match f.osCode? with
  | some n => record "Os" [("code", toString n), ("kind", f.kindName),
      ("message", Text.quote f.description)]
  | none => record "Error" [("kind", f.kindName), ("message", Text.quote f.description)]

/-- An error of tokenizing. -/
def lexError : LexError → String
  | .invalidOption e => invalidOption e
  | .io path cause => record "Io" [("path", Text.quote path), ("source", readFailure cause)]

end ScriptLex.Inspect
