import ScriptLex.Text.Width
import ScriptLex.Text.Case
import ScriptLex.Text.Grapheme
import ScriptLex.Text.Alnum
import ScriptLex.Text.Blank
import ScriptLex.Text.Utf8
/-!
# The edited line

The line being edited and the cursor in it. The cursor counts characters; the byte offset that
the editing helpers take is `bytePos`. The cursor moves by graphemes: back over the last
grapheme of the text before it, forward over the first grapheme of the text after it.

Each edit gives `none` when it changes nothing, so that the editor knows not to redraw.
-/

namespace ScriptLex.Terminal

open Text

/-- The graphemes of a text with the index where each starts, counted from `base`. -/
def graphemesFrom (base : Nat) : List (List Char) → List (Nat × List Char)
  | [] => []
  | g :: rest => (base, g) :: graphemesFrom (base + g.length) rest

/-- Whether a grapheme is part of a word: of alphanumeric characters, or for big words of
characters that are not blank. -/
def isWordGrapheme (big : Bool) (g : List Char) : Bool :=
  if big then !g.any isBlank else g.all isAlphanumeric

/-- How a command changes the case of a word. -/
inductive WordCase where
  | upper
  | lower
  /-- The first grapheme in upper case, the rest in lower case. -/
  | capitalize
  deriving DecidableEq, Repr

/-- A word in a case. -/
def WordCase.apply (w : WordCase) (word : List Char) : List Char :=
  match w with
  | .upper => toUpper word
  | .lower => toLower word
  | .capitalize =>
    match graphemes word with
    | g :: _ => toUpper g ++ toLower (word.drop g.length)
    | [] => []

/-- A line and a cursor in it. -/
structure Line where
  chars : List Char := []
  cursor : Nat := 0
  deriving DecidableEq, Repr, Inhabited

namespace Line

/-- The text of the line. -/
def text (l : Line) : String := String.ofList l.chars

/-- The characters before the cursor. -/
def before (l : Line) : List Char := l.chars.take l.cursor

/-- The characters from the cursor on. -/
def after (l : Line) : List Char := l.chars.drop l.cursor

/-- The cursor as a byte offset. -/
def bytePos (l : Line) : Nat := byteLength l.before

/-- Whether the cursor is at the end. -/
def atEnd (l : Line) : Bool := l.chars.length ≤ l.cursor

/-- Where the `n`-th grapheme before the cursor starts, or the first one when there are
fewer. -/
def previousStop (l : Line) (n : Nat) : Option Nat :=
  match (graphemes l.before).reverse.take n with
  | [] => none
  | gs => some (l.cursor - gs.flatten.length)

/-- Where the `n`-th grapheme after the cursor ends, or the last one when there are fewer. -/
def nextStop (l : Line) (n : Nat) : Option Nat :=
  match (graphemes l.after).take n with
  | [] => none
  | gs => some (l.cursor + gs.flatten.length)

/-- Where the text line holding an index starts: after the last line feed before it. -/
def lineStartAt (l : Line) (i : Nat) : Nat :=
  i - ((l.chars.take i).reverse.takeWhile (· != '\n')).length

/-- Where the text line holding an index ends: at the first line feed from it on, or at the end
of the line. -/
def lineEndAt (l : Line) (i : Nat) : Nat :=
  i + ((l.chars.drop i).takeWhile (· != '\n')).length

/-- Where the text line of the cursor starts. -/
def lineStart (l : Line) : Nat := l.lineStartAt l.cursor

/-- Where the text line of the cursor ends. -/
def lineEnd (l : Line) : Nat := l.lineEndAt l.cursor

/-- The column of the cursor in its text line, counted in graphemes. -/
def column (l : Line) : Nat := (graphemes ((l.chars.take l.cursor).drop l.lineStart)).length

/-- Where a column, counted in graphemes, starts in the text from `start` to `stop`; `stop` when
that text is shorter. -/
def columnIn (l : Line) (start stop column : Nat) : Nat :=
  (((graphemesFrom start (graphemes ((l.chars.take stop).drop start)))[column]?).map (·.1)).getD stop

/-- The indices where a character occurs in a text, counted from `base`. -/
def occurrences (c : Char) : Nat → List Char → List Nat
  | _, [] => []
  | i, x :: rest => if x == c then i :: occurrences c (i + 1) rest else occurrences c (i + 1) rest

/-- Places the cursor, when that moves it. -/
def moveTo (l : Line) (i : Nat) : Option Line :=
  if i = l.cursor then none else some { l with cursor := i }

/-- Replaces the characters from `a` to `b` with a text and puts the cursor after it. -/
def replace (l : Line) (a b : Nat) (t : List Char) : Line :=
  { chars := l.chars.take a ++ t ++ l.chars.drop b, cursor := a + t.length }

/-- Removes the characters from `a` to `b`, with the cursor at `a`. -/
def cut (l : Line) (a b : Nat) : Line × List Char :=
  (l.replace a b [], (l.chars.take b).drop a)

/-- Inserts a text at the cursor. -/
def insert (l : Line) (t : List Char) : Line := l.replace l.cursor l.cursor t

/-- Moves back over `n` graphemes. -/
def backward (l : Line) (n : Nat) : Option Line := (l.previousStop n).bind l.moveTo

/-- Moves forward over `n` graphemes. -/
def forward (l : Line) (n : Nat) : Option Line := (l.nextStop n).bind l.moveTo

/-- Moves to the start of the text line. -/
def home (l : Line) : Option Line := if l.lineStart < l.cursor then l.moveTo l.lineStart else none

/-- Moves to the end of the text line. -/
def toEnd (l : Line) : Option Line := l.moveTo l.lineEnd

/-- Moves to the text line above, to the same column, or to its end when it is shorter; `none`
on the first text line. -/
def lineUp (l : Line) : Option Line :=
  let start := l.lineStart
  if start = 0 then none
  else
    let above := l.lineStartAt (start - 1)
    some { l with cursor := l.columnIn above (start - 1) l.column }

/-- Moves to the text line below, to the same column, or to its end when it is shorter; `none`
on the last text line. -/
def lineDown (l : Line) : Option Line :=
  let stop := l.lineEnd
  if l.chars.length ≤ stop then none
  else
    let below := stop + 1
    some { l with cursor := l.columnIn below (l.lineEndAt below) l.column }

/-- Where a search for a character leads. Forward, just before its `n`-th occurrence after the
grapheme under the cursor; back, onto its `n`-th occurrence before the cursor. With fewer
occurrences the search goes to the last one it finds; with none, nowhere. -/
def findChar (l : Line) (c : Char) (n : Nat) (forward : Bool) : Option Nat :=
  if forward then
    match graphemes l.after with
    | [] => none
    | g :: _ =>
      let shift := l.cursor + g.length
      (((occurrences c shift (l.chars.drop shift)).take n).getLast?).map (· - 1)
  else ((occurrences c 0 l.before).reverse.take n).getLast?

/-- Where the word before a place starts: the last grapheme of a word after one that is not, or
the start of the line. -/
def wordStartBefore (l : Line) (big : Bool) (pos : Nat) : Nat :=
  let gs := graphemesFrom 0 (graphemes (l.chars.take pos))
  let starts := (gs.zip gs.tail).filter fun (x, y) =>
    !isWordGrapheme big x.2 && isWordGrapheme big y.2
  (starts.getLast?.map (·.2.1)).getD 0

/-- Where the word after a place ends: after its last grapheme, or the end of the line. -/
def wordEndAfter (l : Line) (big : Bool) (pos : Nat) : Nat :=
  let gs := graphemesFrom pos (graphemes (l.chars.drop pos))
  let ends := (gs.zip gs.tail).filter fun (x, y) =>
    isWordGrapheme big x.2 && !isWordGrapheme big y.2
  (ends.head?.map (·.2.1)).getD l.chars.length

/-- Where the `n`-th word before a place starts, or the start of the line when there are fewer
words; `none` from the start of the line. -/
def previousWordFrom (l : Line) (pos : Nat) (big : Bool) (n : Nat) : Option Nat :=
  if pos = 0 then none else some (Nat.repeat (l.wordStartBefore big) n pos)

/-- Where the `n`-th word after a place ends, or the end of the line when there are fewer
words; `none` from the end of the line. -/
def nextWordFrom (l : Line) (pos : Nat) (big : Bool) (n : Nat) : Option Nat :=
  if l.chars.length ≤ pos then none else some (Nat.repeat (l.wordEndAfter big) n pos)

/-- Where the `n`-th word before the cursor starts. -/
def previousWord (l : Line) (big : Bool) (n : Nat) : Option Nat := l.previousWordFrom l.cursor big n

/-- Where the `n`-th word after the cursor ends. -/
def nextWord (l : Line) (big : Bool) (n : Nat) : Option Nat := l.nextWordFrom l.cursor big n

/-- Deletes `n` graphemes after the cursor. -/
def delete (l : Line) (n : Nat) : Option (Line × List Char) :=
  (l.nextStop n).map fun j => l.cut l.cursor j

/-- Deletes `n` graphemes before the cursor. -/
def backspace (l : Line) (n : Nat) : Option (Line × List Char) :=
  (l.previousStop n).map fun j => l.cut j l.cursor

/-- Deletes up to the end of the text line; at its end, the line feed there. -/
def killToEnd (l : Line) : Option (Line × List Char) :=
  if l.chars.isEmpty || l.atEnd then none
  else if l.lineEnd = l.cursor then l.delete 1
  else some (l.cut l.cursor l.lineEnd)

/-- Deletes back to the start of the text line; at its start, the line feed before. -/
def killToStart (l : Line) : Option (Line × List Char) :=
  if l.cursor = 0 || l.chars.isEmpty then none
  else if l.lineStart = l.cursor then l.backspace 1
  else some (l.cut l.lineStart l.cursor)

/-- Deletes back to the start of the `n`-th word before the cursor. -/
def killWordBackward (l : Line) (big : Bool) (n : Nat) : Option (Line × List Char) :=
  (l.previousWord big n).map fun j => l.cut j l.cursor

/-- Deletes up to the end of the `n`-th word after the cursor. -/
def killWordForward (l : Line) (big : Bool) (n : Nat) : Option (Line × List Char) :=
  (l.nextWord big n).map fun j => l.cut l.cursor j

/-- Swaps the grapheme before the cursor with the one after it, or at the end of the line the
last two, and moves the cursor after both: the line, where the moved grapheme was deleted, the
grapheme, and where it was put back. -/
def transpose (l : Line) : Option (Line × Nat × List Char × Nat) :=
  if l.cursor = 0 || (graphemes l.chars).length < 2 then none
  else
    let l := if l.atEnd then (l.backward 1).getD l else l
    match l.delete 1 with
    | none => none
    | some (l, g) =>
      let deletedAt := l.cursor
      let l := (l.backward 1).getD l
      let insertedAt := l.cursor
      let l := l.insert g
      some ((l.forward 1).getD l, deletedAt, g, insertedAt)

/-- Where the first grapheme of letters and digits from the cursor on starts. -/
def wordAhead (l : Line) : Option Nat :=
  if l.atEnd then none
  else
    (graphemesFrom l.cursor (graphemes l.after)).findSome? fun (i, g) =>
      if g.all isAlphanumeric then some i else none

/-- The word from the first grapheme of letters and digits at or after the cursor: where it
starts and its text. -/
def wordAt (l : Line) : Option (Nat × List Char) := do
  let start ← l.wordAhead
  let stop ← l.nextWordFrom start false 1
  if stop ≤ start then none else some (start, (l.chars.take stop).drop start)

/-- Two words swapped: where each starts, their texts, and the end of the second. -/
structure WordSwap where
  firstStart : Nat
  firstWord : List Char
  secondStart : Nat
  secondWord : List Char
  secondEnd : Nat

/-- Finds the two words to swap around the cursor: the second ends at the end of the `n`-th word
after the cursor, or at the cursor at the end of the line; the first is the `n`-th word before
it. The cursor ends where the search for them left it, at the end of the first word; the words
are swapped only when they are two and do not overlap. -/
def wordsToSwap (l : Line) (n : Nat) : Line × Option WordSwap :=
  let secondEnd := (l.nextWordFrom l.cursor false n).getD l.cursor
  let secondStart := (l.previousWordFrom secondEnd false 1).getD secondEnd
  let firstStart := (l.previousWordFrom secondStart false n).getD secondStart
  let firstEnd := (l.nextWordFrom firstStart false 1).getD firstStart
  let l := { l with cursor := firstEnd }
  if firstStart == secondStart || secondStart < firstEnd then (l, none)
  else
    let firstWord := (l.chars.take firstEnd).drop firstStart
    let secondWord := (l.chars.take secondEnd).drop secondStart
    (l, some { firstStart, firstWord, secondStart, secondWord, secondEnd })

end Line

end ScriptLex.Terminal
