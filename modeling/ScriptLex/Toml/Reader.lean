import ScriptLex.Text.Utf8
/-!
# Reading TOML text

A reader consumes characters from the front of the text and keeps the byte offset of the next
one. A reader that fails gives a `Failure`: the offset where reading stopped, what was being read
(a label) and what could have come next, innermost first, and a cause when a value that was read
is out of range.

A failure is soft or committed. An alternative tries its next choice after a soft failure,
starting again where the first choice started; a committed failure ends the whole read. A reader
commits once it has seen enough to know what it reads, so that its message names the fault it
found rather than a later choice's.

The message of a failure has up to three lines: `invalid` and the innermost label, `expected` and
every expectation in order, and the cause. A failure with none of them has an empty message.
-/

namespace ScriptLex.Toml

open Text

/-- What a failure says about its place: what was being read, or what could have come next. -/
inductive Context where
  | label (what : String)
  | expected (what : String)
  deriving Inhabited, Repr

/-- A failed read. -/
structure Failure where
  /-- The byte offset where reading stopped. -/
  offset : Nat
  /-- The contexts, innermost first. -/
  contexts : List Context := []
  /-- Why a value that was read is refused. -/
  cause : Option String := none
  /-- Whether alternatives are cut off. -/
  committed : Bool := false
  deriving Inhabited, Repr

/-- The message of a failure. -/
def Failure.message (f : Failure) : String :=
  let label := f.contexts.findSome? fun | .label w => some w | _ => none
  let expected := f.contexts.filterMap fun | .expected w => some w | _ => none
  let lines := (label.map ("invalid " ++ ·)).toList ++
    (if expected.isEmpty then [] else ["expected " ++ ", ".intercalate expected]) ++ f.cause.toList
  "\n".intercalate lines

/-- How an expected character is named: a line feed as `newline`, others between backticks. -/
def charExpectation (c : Char) : String :=
  if c == '\n' then "newline" else "`" ++ c.toString ++ "`"

/-- The unread characters and the byte offset of the first of them. -/
structure Input where
  rest : List Char
  pos : Nat

/-- A reading step: it consumes input, or fails. After a failure that is caught, reading goes on
from where the failed step started. -/
abbrev Reader := StateT Input (Except Failure)

/-- Fails softly where the input stands. -/
def stop {α : Type} : Reader α := do throw { offset := (← get).pos }

/-- Fails softly at an earlier point of the input, giving a cause. -/
def refuseAt {α : Type} (at_ : Input) (cause : String) : Reader α :=
  throw { offset := at_.pos, cause := some cause }

/-- Runs a reader and makes its failure committed. -/
def commit {α : Type} (r : Reader α) : Reader α :=
  tryCatch r fun f => throw { f with committed := true }

/-- Runs a reader and adds a context to its failure. -/
def within {α : Type} (c : Context) (r : Reader α) : Reader α :=
  tryCatch r fun f => throw { f with contexts := f.contexts ++ [c] }

/-- Runs a reader under a label. -/
def labelled {α : Type} (what : String) (r : Reader α) : Reader α := within (.label what) r

/-- Runs a reader whose failure names what was expected. -/
def expecting {α : Type} (what : String) (r : Reader α) : Reader α := within (.expected what) r

/-- The first reader, or after its soft failure the second from the same place. -/
def orElse {α : Type} (r s : Reader α) : Reader α :=
  tryCatch r fun f => if f.committed then throw f else s

/-- A reader's result, or `none` after its soft failure, with nothing consumed. -/
def attempt? {α : Type} (r : Reader α) : Reader (Option α) := orElse (some <$> r) (pure none)

/-- The next character, unread. -/
def peek : Reader (Option Char) := return (← get).rest.head?

/-- The next characters, unread. -/
def peekN (n : Nat) : Reader (List Char) := return (← get).rest.take n

/-- The offset of the next character. -/
def here : Reader Nat := return (← get).pos

/-- Consumes `n` characters. -/
def skipN (n : Nat) : Reader Unit := do
  let s ← get
  set (⟨s.rest.drop n, s.pos + byteLength (s.rest.take n)⟩ : Input)

/-- Consumes one character that satisfies `p`. -/
def satisfy (p : Char → Bool) : Reader Char := do
  match ← peek with
  | some c => if p c then skipN 1; pure c else stop
  | none => stop

/-- Consumes the character `c`. -/
def char (c : Char) : Reader Unit := do let _ ← satisfy (· == c)

/-- Consumes exactly the characters `cs`, or fails without consuming any. -/
def word (cs : List Char) : Reader Unit := do
  if (← peekN cs.length) == cs then skipN cs.length else stop

/-- Consumes characters while they satisfy `p`. -/
def takeWhile (p : Char → Bool) : Reader (List Char) := do
  let s ← get
  let (a, b) := s.rest.span p
  set (⟨b, s.pos + byteLength a⟩ : Input)
  pure a

/-- Consumes at least one character that satisfies `p`, and all that follow. -/
def takeWhile1 (p : Char → Bool) : Reader (List Char) := do
  let cs ← takeWhile p
  if cs.isEmpty then stop else pure cs

/-- Consumes at most `n` characters that satisfy `p`. -/
def takeUpTo (n : Nat) (p : Char → Bool) : Reader (List Char) := do
  let s ← get
  let a := (s.rest.take n).takeWhile p
  skipN a.length
  pure a

/-- Runs a reader and gives the characters it consumed. -/
def consumed {α : Type} (r : Reader α) : Reader (α × List Char) := do
  let s ← get
  let a ← r
  let e ← get
  pure (a, s.rest.take (s.rest.length - e.rest.length))

/-- Succeeds at the end of the text only. -/
def endOfText : Reader Unit := do if (← get).rest.isEmpty then pure () else stop

/-- Repeats a reader until it fails softly, at most `fuel` times, keeping what it gave. -/
def many {α : Type} (r : Reader α) : Nat → Reader (List α)
  | 0 => pure []
  | fuel + 1 => do
    match ← attempt? r with
    | some a => return a :: (← many r fuel)
    | none => pure []

/-- Items separated by a separator, at least one. After a separator, an item that fails softly
ends the list before the separator. -/
def separated1 {α : Type} (item : Reader α) (sep : Reader Unit) (fuel : Nat) : Reader (List α) := do
  let first ← item
  let rest ← many (do sep; item) fuel
  pure (first :: rest)

/-- The fuel for a loop over the rest of the input: one step per character and one more. -/
def fuelHere : Reader Nat := return (← get).rest.length + 1

/-! ## Blanks, comments and line breaks -/

/-- A space or a tab. -/
def isBlank (c : Char) : Bool := c == ' ' || c == '\t'

/-- Spaces and tabs. -/
def blanks : Reader Unit := do let _ ← takeWhile isBlank

/-- A character allowed in a comment: tab, printable ASCII and anything beyond ASCII. -/
def isCommentChar (c : Char) : Bool :=
  c == '\t' || (0x20 ≤ c.toNat && c.toNat ≤ 0x7E) || c.toNat ≥ 0x80

/-- A line break: a line feed, or a carriage return and a line feed. -/
def newline : Reader Unit := orElse (char '\n') (do char '\r'; char '\n')

/-- A comment, up to the end of its line. -/
def comment : Reader Unit := do char '#'; let _ ← takeWhile isCommentChar

/-- A line break or the end of the text. -/
def lineEnding : Reader Unit := orElse newline endOfText

/-- What may follow content on a line: blanks, a comment, and the line's end. -/
def lineTrailing : Reader Unit := do
  blanks
  let _ ← attempt? comment
  lineEnding

/-- The failure contexts of a line that goes on after its content. -/
def trailing (r : Reader Unit) : Reader Unit :=
  expecting (charExpectation '#') (expecting (charExpectation '\n') r)

/-- Blanks, comments and line breaks, as between the items of an array. A comment must end
with a line break. -/
def blankLines : Nat → Reader Unit
  | 0 => pure ()
  | fuel + 1 => do
    let before ← here
    blanks
    match ← peek with
    | some '#' => comment; newline
    | some '\n' | some '\r' => newline
    | _ => pure ()
    if (← here) != before then blankLines fuel

end ScriptLex.Toml
