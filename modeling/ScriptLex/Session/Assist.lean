import ScriptLex.Tokenizer
import ScriptLex.Render.Listing
import ScriptLex.Session.Command
import ScriptLex.Text.Alnum
/-!
# Editing assistance

What the line editor of the interactive session offers: the word list (the reserved words of the
active set and the command names, in byte order), the word under the cursor, completions, a hint
and highlighting.

The word under the cursor is the longest run of alphanumeric characters, `_` and `.` that ends at
the cursor. The cursor is a byte offset; one that lies beyond the line or inside a character is a
fault of the caller, and so is a word that follows a character of more than one byte, because the
word is then sliced one byte after that character's start.
-/

namespace ScriptLex.Session

open Text

/-- A fault of the editing helpers: an offset that is no character boundary of the line. -/
structure Fault where
  deriving DecidableEq, Repr

/-- The words that completion and hints offer for a reserved-word set, in byte order. -/
def wordList (r : ReservedSet) : List String :=
  let reserved := (Lexicon.keywords ++ Lexicon.futureReservedWords ++ Lexicon.strictReservedWords).filter
    (fun w => r.contains w.toList)
  (reserved ++ Command.all.map Command.word).mergeSort fun a b => decide (a ≤ b)

/-- A character that belongs to a word. -/
def isWordChar (c : Char) : Bool := isAlphanumeric c || c == '_' || c == '.'

/-- The word that ends at byte offset `pos`, with the offset where it starts. -/
def currentWord (line : String) (pos : Nat) : Except Fault (Nat × String) := do
  let some (before, _) := splitAtByte? pos line.toList | throw {}
  let word := (before.reverse.takeWhile isWordChar).reverse
  match before.reverse.dropWhile isWordChar with
  | c :: _ => if c.utf8Size > 1 then throw {} else pure ()
  | [] => pure ()
  pure (pos - byteLength word, String.ofList word)

/-- A completion: what to show and what to insert. -/
structure Candidate where
  display : String
  replacement : String
  deriving DecidableEq, Repr

/-- The completions at the cursor: every word of the list that extends the word under the
cursor, none when that word is empty. -/
def complete (r : ReservedSet) (line : String) (pos : Nat) :
    Except Fault (Nat × List Candidate) := do
  let (_, word) ← currentWord line pos
  if word.isEmpty then return (pos, [])
  let found := (wordList r).filter (word.isPrefixOf ·)
  pure (pos, found.map fun w => ⟨w, String.ofList (w.toList.drop word.length)⟩)

/-- The hint at the cursor: at the end of the line, after a word of at least two bytes, the
dimmed rest of the first longer word of the list that it starts. -/
def hint (r : ReservedSet) (line : String) (pos : Nat) : Except Fault (Option String) := do
  if pos < line.utf8ByteSize then return none
  let (_, word) ← currentWord line pos
  if word.utf8ByteSize < 2 then return none
  pure <| ((wordList r).find? fun w => word.isPrefixOf w && word.utf8ByteSize < w.utf8ByteSize).map
    fun w => Render.dimmed (String.ofList (w.toList.drop word.length))

/-- One token of the highlighting pass. The state is the text so far, the characters not yet
passed and the byte offset where they start: the gap before the token is copied, and the token
is stepped over and painted. -/
def highlightStep (acc : String × List Char × Nat) (t : Token) : String × List Char × Nat :=
  let (out, rest, at_) := acc
  let (gap, rest) := (splitAtByte? (t.span.start - at_) rest).getD ([], rest)
  let rest := ((splitAtByte? (t.span.stop - t.span.start) rest).map (·.2)).getD rest
  (out ++ String.ofList gap ++ Render.paint t.kind t.literal, rest, t.span.stop)

/-- The line with every token painted as its kind and all text between tokens kept. The tokens
come in order, so one pass over the line copies each gap and steps over each token. -/
def highlightSource (options : Options) (line : String) : String :=
  let (out, rest, _) := (tokenize line options).foldl highlightStep ("", line.toList, 0)
  out ++ String.ofList rest

/-- The highlighted line: a command line all magenta, anything else as its tokens. -/
def highlight (options : Options) (line : String) : String :=
  match trimStart line.toList with
  | '.' :: _ => Render.colored .magenta line
  | _ => highlightSource options line

end ScriptLex.Session
