import ScriptLex.Cursor
import ScriptLex.Options
import ScriptLex.Token
/-!
# The tokenizer

A tokenizer is a state machine over a cursor. Each call of `next` reads characters until it can
return a kind:

* at the end of the input an open literal is classified (unless the trailing mode drops it), and
  otherwise the result is `eof` with an empty literal at the end;
* `;` always ends the literal and is never part of one;
* a break character ends a non-empty literal and is stepped back over, so that it starts the
  next token;
* whitespace (as the mode says) ends a non-empty literal;
* any other character extends the literal, which is then a keyword when it is reserved and
  followed by whitespace or the end, a punctuator when it spells one, a division punctuator when
  it is `/` or `/=`, and otherwise still open.

A literal that ends is a numeric literal when it is all ASCII digits and an identifier name
otherwise. Once `eof` has been returned, every further call returns `eof` and changes nothing.
-/

namespace ScriptLex

/-- The state of the tokenizer: the cursor, the options, the literal that was last scanned and
the kind that was last returned. -/
structure Tokenizer where
  cursor : Cursor
  options : Options
  /-- The span of the current literal. -/
  literal : Span
  /-- The characters of the current literal, the last one first. -/
  spelling : List Char
  /-- The kind that the last call returned. -/
  kind : TokenKind
  /-- Whether an observer receives an event for every call. -/
  observed : Bool

namespace Tokenizer

/-- A tokenizer at the start of a source. -/
def create (source : String) (options : Options := {}) (observed : Bool := false) : Tokenizer where
  cursor := Cursor.ofString source
  options := options
  literal := Span.emptyAt 0
  spelling := []
  kind := .eof
  observed := observed

/-- The characters of the current literal, in order. -/
def literalChars (t : Tokenizer) : List Char := t.spelling.reverse

/-- The text of the current literal. -/
def literalText (t : Tokenizer) : String := String.ofList t.literalChars

/-- The current token: the last kind with the current literal. -/
def token (t : Tokenizer) : Token := ⟨t.kind, t.literalText, t.literal⟩

/-- The byte offset of the cursor. -/
def position (t : Tokenizer) : Nat := t.cursor.position

/-- Starts an empty literal at the cursor. -/
def resetLiteral (t : Tokenizer) : Tokenizer :=
  { t with literal := Span.emptyAt t.cursor.position, spelling := [] }

/-- The kind of a literal that ends: all ASCII digits make a numeric literal. -/
def classify (t : Tokenizer) : TokenKind :=
  if Lexicon.isNumeric t.literalChars then .numericLiteral else .identifierName

/-- The next character is whitespace, or there is none. -/
def followedByWhitespace (t : Tokenizer) : Bool :=
  match t.cursor.peek with
  | none => true
  | some c => t.options.whitespace.isWhitespace c

/-- What the end of the input yields: the open literal under `flush`, else `eof`. -/
def endOfInput (t : Tokenizer) : TokenKind × Tokenizer :=
  if !t.literal.isEmpty && t.options.trailingLiteral == .flush then (t.classify, t)
  else (.eof, t.resetLiteral)

/-- Adds the character just consumed to the literal. -/
def extend (t : Tokenizer) (ch : Char) (cur : Cursor) : Tokenizer :=
  { t with cursor := cur, literal := { t.literal with stop := cur.position },
           spelling := ch :: t.spelling }

set_option linter.unusedVariables false in
/-- The scanning loop: reads characters until a kind is decided. -/
def scan (t : Tokenizer) : TokenKind × Tokenizer :=
  match h : t.cursor.bump? with
  | none => t.endOfInput
  | some (ch, cur) =>
    let open_ := !t.literal.isEmpty
    if ch == ';' || t.options.whitespace.isWhitespace ch || (Lexicon.isBreak ch && open_) then
      if open_ then
        -- a break character other than `;` is stepped back over: it starts the next token
        let cur := if ch != ';' && Lexicon.isBreak ch then (cur.unread?).getD cur else cur
        let t := { t with cursor := cur }
        (t.classify, t)
      else scan { t with cursor := cur }.resetLiteral
    else
      let t := t.extend ch cur
      -- a literal longer than every word of the lexicon can only go on
      if !(t.spelling.drop Lexicon.longestWord).isEmpty then scan t
      else if t.options.reservedWords.contains t.literalChars && t.followedByWhitespace then
        (.keyword, t)
      else if Lexicon.isPunctuator t.literalChars then (.punctuator, t)
      else if Lexicon.isDivisionPunctuator t.literalChars then (.divPunctuator, t)
      else scan t
termination_by t.cursor.ahead.length
decreasing_by
  all_goals simp only [resetLiteral, extend]
  all_goals exact Cursor.length_ahead_bump? h

/-- One call: scans from a fresh literal and remembers the kind it returns. -/
def next (t : Tokenizer) : TokenKind × Tokenizer :=
  let (k, t') := t.resetLiteral.scan
  (k, { t' with kind := k })

/-- The tokens before the first `eof`, within a number of calls. -/
def tokensWithin : Nat → Tokenizer → List Token
  | 0, _ => []
  | fuel + 1, t =>
    let (k, t') := t.next
    if k == .eof then [] else t'.token :: tokensWithin fuel t'

/-- The tokens before the first `eof`. Every call that does not return `eof` consumes a
character, so one call per remaining character and one more suffice. -/
def tokens (t : Tokenizer) : List Token := tokensWithin (t.cursor.ahead.length + 1) t

/-- The kinds of `n` successive calls, with the state after them. -/
def calls : Nat → Tokenizer → List TokenKind × Tokenizer
  | 0, t => ([], t)
  | n + 1, t =>
    let (k, t') := t.next
    let (ks, t'') := calls n t'
    (k :: ks, t'')

/-- The states after successive calls, up to and including the call that returns `eof` for
the `(extra + 1)`-th time, within a number of calls. -/
def traceWithin : Nat → Nat → Tokenizer → List (TokenKind × Tokenizer)
  | 0, _, _ => []
  | fuel + 1, extra, t =>
    let (k, t') := t.next
    if k == .eof then
      match extra with
      | 0 => [(k, t')]
      | e + 1 => (k, t') :: traceWithin fuel e t'
    else (k, t') :: traceWithin fuel extra t'

/-- The states after successive calls, until `eof` has been returned `extra + 1` times. -/
def trace (extra : Nat) (t : Tokenizer) : List (TokenKind × Tokenizer) :=
  traceWithin (t.cursor.ahead.length + extra + 1) extra t

end Tokenizer

/-- The tokens of a source under the given options, in order, without the final `eof`. -/
def tokenize (source : String) (options : Options := {}) : List Token :=
  (Tokenizer.create source options).tokens

example : (tokenize "a==b").map (·.literal) = ["a", "=", "=", "b"] := by decide +kernel
example : (tokenize "break;").map (·.kind) = [.identifierName] := by decide +kernel

end ScriptLex
