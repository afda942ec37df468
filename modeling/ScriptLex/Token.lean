import ScriptLex.Text.Utf8
/-!
# Tokens

A token is a kind, the text it spells and its span, a half-open range of byte offsets. The value
of a numeric literal is an unsigned 64-bit number read from its text.
-/

namespace ScriptLex

/-- A half-open range of byte offsets. -/
structure Span where
  start : Nat
  stop : Nat
  deriving DecidableEq, Repr, Inhabited

namespace Span

/-- The empty span at an offset. -/
def emptyAt (n : Nat) : Span := ⟨n, n⟩

/-- The number of bytes the span covers. -/
def len (s : Span) : Nat := s.stop - s.start

/-- The span covers nothing. -/
def isEmpty (s : Span) : Bool := s.start == s.stop

/-- The span as `start..end`. -/
def display (s : Span) : String := s!"{s.start}..{s.stop}"

end Span

/-- The kinds of token. `eof` is what the tokenizer returns once the input is used up. -/
inductive TokenKind where
  | eof
  | keyword
  | punctuator
  | divPunctuator
  | numericLiteral
  | identifierName
  deriving DecidableEq, Repr, Inhabited

namespace TokenKind

/-- Every kind, in index order. -/
def all : List TokenKind :=
  [.eof, .keyword, .punctuator, .divPunctuator, .numericLiteral, .identifierName]

/-- The display name of a kind. -/
def name : TokenKind → String
  | .eof => "EOF"
  | .keyword => "KEYWORD"
  | .punctuator => "PUNCTUATOR"
  | .divPunctuator => "DIV_PUNCTUATOR"
  | .numericLiteral => "NUMERIC_LITERAL"
  | .identifierName => "IDENTIFIER_NAME"

/-- The position of a kind in `all`. -/
def index : TokenKind → Nat
  | .eof => 0
  | .keyword => 1
  | .punctuator => 2
  | .divPunctuator => 3
  | .numericLiteral => 4
  | .identifierName => 5

/-- Punctuators and division punctuators. -/
def isPunctuator : TokenKind → Bool
  | .punctuator | .divPunctuator => true
  | _ => false

/-- The kind whose display name is the given text. -/
def ofName? (s : String) : Option TokenKind := all.find? (·.name == s)

theorem ofName?_name (k : TokenKind) : ofName? k.name = some k := by
  cases k <;> rfl

end TokenKind

/-- The largest value of an unsigned 64-bit number, plus one. -/
def wordBound : Nat := 18446744073709551616

/-- Reads the digits of a decimal numeral, most significant first. -/
def digitsValue (ds : List Char) : Nat :=
  ds.foldl (fun n d => 10 * n + (d.toNat - '0'.toNat)) 0

/-- Reads an unsigned 64-bit decimal number: an optional `+`, then one or more ASCII digits,
and a value below `2 ^ 64`. Leading zeros are allowed. -/
def readWord? (s : List Char) : Option Nat :=
  let ds := match s with
    | '+' :: rest => rest
    | _ => s
  if !ds.isEmpty && ds.all Char.isDigit then
    let v := digitsValue ds
    if v < wordBound then some v else none
  else none

/-- A token: a kind, the text it spells and where it lies. -/
structure Token where
  kind : TokenKind
  literal : String
  span : Span
  deriving DecidableEq, Repr, Inhabited

/-- The value of a numeric literal; any other kind has none. -/
def Token.numericValue (t : Token) : Option Nat :=
  match t.kind with
  | .numericLiteral => readWord? t.literal.toList
  | _ => none

example : readWord? "+007".toList = some 7 ∧ readWord? "+".toList = none ∧
    readWord? "18446744073709551616".toList = none ∧ readWord? "-1".toList = none := by
  decide

end ScriptLex
