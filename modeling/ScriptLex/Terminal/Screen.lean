import ScriptLex.Terminal.Line
/-!
# Drawing the line

The editor draws the prompt, the line and a hint on a terminal of a fixed number of columns.
Positions count rows and columns from the start of the prompt. Measuring a text adds the width
of each grapheme; escape sequences (`ESC [` with digits and semicolons, up to the final
character) take no columns, a tab reaches the next tab stop, a line feed starts a new row, and a
grapheme that does not fit on the row moves to the next. A text that fills its last row exactly
leaves the cursor at the start of the row after.

Redrawing clears the rows of the old drawing, writes the new one, and moves the cursor to its
place.
-/

namespace ScriptLex.Terminal

/-- A place on the screen, relative to the start of the prompt. -/
structure Position where
  col : Nat := 0
  row : Nat := 0
  deriving DecidableEq, Repr, Inhabited

/-- The size of the terminal. -/
structure Screen where
  cols : Nat := 80
  tabStop : Nat := 8
  deriving Repr, Inhabited

/-- Where a drawing of the prompt, the line and the hint puts things. -/
structure Layout where
  promptSize : Position := {}
  cursor : Position := {}
  finish : Position := {}
  deriving DecidableEq, Repr, Inhabited

/-- How far into an escape sequence measuring is. -/
inductive EscapeState where
  | outside
  | escaped
  | parameters
  deriving DecidableEq, Repr

/-- The columns a grapheme takes, and the escape state after it. -/
def graphemeWidth (g : List Char) : EscapeState → Nat × EscapeState
  | .escaped => (0, if g == ['['] then .parameters else .outside)
  | .parameters =>
    (0, if g == [';'] || (g.head?.map Char.isDigit).getD false then .parameters else .outside)
  | .outside =>
    if g == ['\x1b'] then (0, .escaped)
    else if g == ['\n'] then (0, .outside)
    else (Text.textWidth g, .outside)

namespace Screen

/-- Measures one more grapheme. -/
def advance (sc : Screen) (p : Position × EscapeState) (g : List Char) : Position × EscapeState :=
  if g == ['\n'] then ({ col := 0, row := p.1.row + 1 }, p.2)
  else
    let (w, st) :=
      if g == ['\t'] then (sc.tabStop - p.1.col % sc.tabStop, p.2) else graphemeWidth g p.2
    let col := p.1.col + w
    if sc.cols < col then ({ col := w, row := p.1.row + 1 }, st) else ({ p.1 with col }, st)

/-- Where a text written from `orig` ends. -/
def measure (sc : Screen) (s : List Char) (orig : Position) : Position :=
  let p := ((Text.graphemes s).foldl sc.advance (orig, .outside)).1
  if p.col = sc.cols then { col := 0, row := p.row + 1 } else p

/-- The layout of a line with an optional text after it. -/
def layout (sc : Screen) (promptSize : Position) (l : Line) (info : Option String) : Layout :=
  let cursor := sc.measure l.before promptSize
  let finish := if l.atEnd then cursor else sc.measure l.after cursor
  let finish := match info with
    | some i => sc.measure i.toList finish
    | none => finish
  { promptSize, cursor, finish }

end Screen

/-- A cursor movement by `n`: the one-step sequence when `n` is one. -/
def cursorStep (n : Nat) (dir : Char) : String :=
  if n = 0 then "" else if n = 1 then "\x1b[" ++ dir.toString else s!"\x1b[{n}" ++ dir.toString

/-- Moves the cursor from one place to another. -/
def moveCursor (old new : Position) : String :=
  (if old.row < new.row then cursorStep (new.row - old.row) 'B'
    else cursorStep (old.row - new.row) 'A') ++
  (if old.col < new.col then cursorStep (new.col - old.col) 'C'
    else cursorStep (old.col - new.col) 'D')

/-- Clears the rows of an old drawing and returns to the start of its first row. -/
def clearRows (old : Layout) : String :=
  let down := old.finish.row - old.cursor.row
  (if down > 0 then s!"\x1b[{down}B" else "") ++
    String.join (List.replicate old.finish.row "\r\x1b[K\x1b[A") ++ "\r\x1b[K"

/-- Redraws: clears the old drawing, writes the prompt, the painted line and the hint, and puts
the cursor in its place. When the text ends exactly at the end of a row, a line feed moves to
the next row, unless the text itself ends in one. -/
def redraw (old new : Layout) (prompt painted : String) (line : List Char)
    (hint : Option String) : String :=
  let endsInBreak := match hint with
    | some h => h.endsWith "\n"
    | none => line.getLast? == some '\n'
  clearRows old ++ prompt ++ painted ++ hint.getD "" ++
    (if new.finish.col = 0 && new.finish.row > 0 && !endsInBreak then "\n" else "") ++
    (if new.finish.row > new.cursor.row then s!"\x1b[{new.finish.row - new.cursor.row}A" else "") ++
    (if new.cursor.col > 0 then s!"\r\x1b[{new.cursor.col}C" else "\r")

end ScriptLex.Terminal
