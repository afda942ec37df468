import ScriptLex.Terminal.Keymap
import ScriptLex.Terminal.Screen
import ScriptLex.Terminal.History
import ScriptLex.Terminal.Changes
import ScriptLex.Terminal.KillRing
/-!
# The line editor

Reads one line from a terminal, key by key, drawing the prompt and the line after every change.
A helper paints the line, offers a hint for the end of the line and completions for the word at
the cursor; a helper that fails stops the editor.

After a change to the line the hint is asked again and the whole line is drawn again; a move of
the cursor draws it again with the hint it has. Accepting the line or ending the input draws it
once more without the hint. Completion replaces the word with each completion in turn, then
with the word as it was, ringing the bell there; any other key keeps the line as it shows.

A search of the history shows its own prompt with the text searched; each character typed
extends the text and shows the first entry that holds it, Ctrl-R looks further back and
Ctrl-S further on, Backspace shortens the text, and Ctrl-G or Escape gives back the line as it
was, drawing it twice. Any other key ends the search on the line found and then does what it
does.

Every edit goes into the undo log; a command that makes several edits groups them, and so do
a completion and a search.

A count typed with Meta and a digit or a minus sign shows its own prompt, `(arg: n) `, with
every digit after it; the next other key draws the line again and runs its command that many
times.
-/

namespace ScriptLex.Terminal

/-- What the editor asks of its helper. A helper answers `none` when it fails. -/
structure Helper where
  /-- The line as drawn. -/
  paint : String → String
  /-- The hint for a line and a byte offset of the cursor, as drawn after the line. -/
  hint : String → Nat → Option (Option String)
  /-- The texts that complete the word before a byte offset, each to be inserted there. -/
  complete : String → Nat → Option (List String)

/-- What stays fixed while a line is read: the screen, the prompt and the helper. -/
structure Frame where
  screen : Screen := {}
  prompt : String
  helper : Helper

/-- The state of the line being read. -/
structure Editing where
  line : Line := {}
  layout : Layout := {}
  hint : Option String := none
  /-- The history entry shown; the number of entries when none is. -/
  historyIndex : Nat := 0
  /-- The line as it was before browsing the history. -/
  saved : Line := {}
  changes : Changes := {}
  deriving Inhabited

/-- A completion in progress. -/
structure Completion where
  /-- Where the completions go, as an index of the line. -/
  start : Nat
  candidates : List (List Char)
  /-- The completion shown; the number of completions when the word as it was is shown. -/
  index : Nat
  /-- The line before completing. -/
  backup : Line
  /-- The length of the undo log before completing. -/
  mark : Nat
  deriving Inhabited

/-- A search of the history in progress. -/
structure Search where
  term : List Char := []
  /-- The entry where the search stands. -/
  index : Nat
  /-- Whether the search goes towards the oldest entry. -/
  reverse : Bool := true
  /-- Whether the last step found an entry. -/
  found : Bool := true
  /-- The line before searching. -/
  backup : Line
  /-- The length of the undo log before searching. -/
  mark : Nat
  deriving Inhabited

/-- What the editor is doing between keys. -/
inductive Mode where
  | editing (e : Editing)
  | completing (e : Editing) (c : Completion)
  | searching (e : Editing) (s : Search)
  /-- Waiting for a character to insert as it is. -/
  | quoting (e : Editing)
  /-- Reading a count for the next command, typed while in another mode. -/
  | counting (m : Mode) (argument : Int)
  deriving Inhabited

/-- The state of the line, in any mode. -/
def Mode.state : Mode → Editing
  | .editing e | .completing e _ | .searching e _ | .quoting e => e
  | .counting m _ => m.state

/-- A mode with another state of the line. -/
def Mode.withState : Mode → Editing → Mode
  | .editing _, e => .editing e
  | .completing _ c, e => .completing e c
  | .searching _ s, e => .searching e s
  | .quoting _, e => .quoting e
  | .counting m a, e => .counting (m.withState e) a

/-- What a key leads to. -/
inductive Reaction where
  /-- The line is still being read. -/
  | reading (m : Mode) (k : KillRing)
  /-- The line is accepted. -/
  | accepted (line : String)
  /-- The input ended on an empty line. -/
  | ended
  /-- The line was interrupted. -/
  | interrupted
  /-- The helper failed. -/
  | failed
  deriving Inhabited

/-- The bell. -/
def bell : String := "\x07"

/-- The size of the prompt on the screen. -/
def Frame.promptSize (f : Frame) : Position := f.screen.measure f.prompt.toList {}

/-- Draws a prompt, the line and a text after it. -/
def Frame.drawAfter (f : Frame) (prompt : String) (e : Editing) (info : Option String) :
    Editing × String :=
  let new := f.screen.layout (f.screen.measure prompt.toList {}) e.line info
  ({ e with layout := new },
    redraw e.layout new prompt (f.helper.paint e.line.text) e.line.chars info)

/-- Draws the line with a text after it. -/
def Frame.draw (f : Frame) (e : Editing) (info : Option String) : Editing × String :=
  f.drawAfter f.prompt e info

/-- Asks the hint again and draws the line with it. -/
def Frame.refresh (f : Frame) (e : Editing) : Option (Editing × String) :=
  (f.helper.hint e.line.text e.line.bytePos).map fun h => f.draw { e with hint := h } h

/-- Draws the line without its hint. -/
def Frame.settle (f : Frame) (e : Editing) : Editing × String := f.draw { e with hint := none } none

/-- Puts the cursor at a new place in the line; draws again when that moves the cursor on the
screen, without showing the hint, which is kept for the right arrow. -/
def Frame.moveTo (f : Frame) (e : Editing) (l : Line) : Editing × String :=
  let e := { e with line := l }
  if f.screen.measure l.before f.promptSize = e.layout.cursor then (e, "") else f.draw e none

/-- The start of reading a line: the empty line drawn. -/
def Frame.start (f : Frame) (historySize : Nat) : Option (Editing × String) :=
  f.refresh { historyIndex := historySize }

/-- Puts a whole text in place of the line, with the cursor at an index, logging the edit as a
deletion of the old text and an insertion of the new one. -/
def Editing.update (e : Editing) (l : Line) : Editing :=
  let changes := (e.changes.delete 0 e.line.chars).insertText 0 l.chars
  { e with line := l, changes }

/-- Puts a history entry in place of the line, as one group of the undo log. -/
def Editing.showEntry (e : Editing) (entry : String) : Editing :=
  let (changes, _) := e.changes.beginGroup
  let e := { e with changes }.update { chars := entry.toList, cursor := entry.length }
  { e with changes := e.changes.endGroup }

/-- Shows another history entry, or the saved line past the last one. -/
def Frame.browse (f : Frame) (h : History) (e : Editing) (prev : Bool) :
    Option (Option (Editing × String)) :=
  let n := h.entries.length
  if n = 0 then some none
  else if e.historyIndex = n && !prev then some none
  else if e.historyIndex = 0 && prev then some none
  else
    let e := if e.historyIndex = n then { e with saved := e.line } else e
    let idx := if prev then e.historyIndex - 1 else e.historyIndex + 1
    let e := match h.entries[idx]? with
      | some entry => { e.showEntry entry with historyIndex := idx }
      | none => { e.update e.saved with historyIndex := idx }
    (f.refresh e).map some

/-- Shows the first history entry, or the saved line again. -/
def Frame.browseEnd (f : Frame) (h : History) (e : Editing) (first : Bool) :
    Option (Option (Editing × String)) :=
  let n := h.entries.length
  if n = 0 then some none
  else if first then
    if e.historyIndex = 0 then some none
    else
      let e := if e.historyIndex = n then { e with saved := e.line } else e
      match h.entries[0]? with
      | some entry => (f.refresh { e.showEntry entry with historyIndex := 0 }).map some
      | none => some none
  else if e.historyIndex = n then some none
  else (f.refresh { e.update e.saved with historyIndex := n }).map some

/-- Whether killing up to a place goes forward. -/
def Motion.isForward : Motion → Bool
  | .lineEnd | .forwardChar _ | .forwardWord _ _ => true
  | .toChar _ _ forward => forward
  | _ => false

/-- The line after a deletion, with the text deleted, which started where the cursor ends. -/
def Line.kill (l : Line) : Motion → Option (Line × List Char)
  | .backwardChar n => l.backspace n
  | .forwardChar n => l.delete n
  | .lineEnd => l.killToEnd
  | .lineStart => l.killToStart
  | .backwardWord n big => l.killWordBackward big n
  | .forwardWord n big => l.killWordForward big n
  | .toChar c n forward =>
    (l.findChar c n forward).map fun j => if forward then l.cut l.cursor (j + 1) else l.cut j l.cursor

/-- The line after a movement; `none` when the cursor stays. -/
def Line.move (l : Line) : Motion → Option Line
  | .backwardChar n => l.backward n
  | .forwardChar n => l.forward n
  | .lineEnd => l.toEnd
  | .lineStart => l.home
  | .backwardWord n big => (l.previousWord big n).bind l.moveTo
  | .forwardWord n big => (l.nextWord big n).bind l.moveTo
  | .toChar c n forward => (l.findChar c n forward).bind l.moveTo

/-- Keeps reading after a change that may fail. -/
def reading (k : KillRing) (out : String) : Option (Editing × String) → Reaction × String
  | some (e, more) => (.reading (.editing e) k, out ++ more)
  | none => (.failed, out)

/-- Keeps reading with nothing drawn. -/
def Editing.still (e : Editing) (k : KillRing) : Reaction × String := (.reading (.editing e) k, "")

/-- Inserts a text at the cursor, logged as one insertion, and draws the line again. -/
def Frame.insertText (f : Frame) (k : KillRing) (e : Editing) (t : List Char) : Reaction × String :=
  if t.isEmpty then e.still k
  else
    let changes := e.changes.insertText e.line.cursor t
    reading k "" (f.refresh { e with line := e.line.insert t, changes })

/-- Inserts a typed character and draws the line again. -/
def Frame.insertChar (f : Frame) (k : KillRing) (e : Editing) (c : Char) : Reaction × String :=
  let changes := e.changes.insertChar e.line.cursor c
  reading k "" (f.refresh { e with line := e.line.insert [c], changes })

/-- Runs a command on the line being read. -/
def Frame.execute (f : Frame) (h : History) (k : KillRing) (e : Editing) :
    Command → Reaction × String
  | .insert c n => if n = 1 then f.insertChar k e c else f.insertText k e (List.replicate n c)
  | .paste t => f.insertText k e t
  | .move m =>
    match e.line.move m with
    | some l => let (e, out) := f.moveTo e l; (.reading (.editing e) k, out)
    | none => e.still k
  | .kill m =>
    match e.line.kill m with
    | some (l, t) =>
      let k := match m with
        | .backwardChar _ | .forwardChar _ => k
        | _ => k.kill m.isForward t
      reading k "" (f.refresh { e with line := l, changes := e.changes.delete l.cursor t })
    | none => e.still k
  | .completeHint =>
    match e.hint with
    | some hint =>
      let l := (e.line.toEnd).getD e.line
      let changes := e.changes.insertText l.cursor hint.toList
      reading k "" (f.refresh { e with line := l.insert hint.toList, changes })
    | none => e.still k
  | .accept =>
    let (e, out) := f.settle e
    let (e, more) := match e.line.moveTo e.line.chars.length with
      | some l => f.moveTo e l
      | none => (e, "")
    (.accepted e.line.text, out ++ more)
  | .endOfInput =>
    let (e, out) := f.settle e
    if e.line.chars.isEmpty then (.ended, out) else (.reading (.editing e) k, out)
  | .interrupt =>
    (.interrupted, if e.layout.cursor = e.layout.finish then "" else moveCursor e.layout.cursor e.layout.finish)
  | .previousHistory => browsing (f.browse h e true)
  | .nextHistory => browsing (f.browse h e false)
  | .lineUp =>
    match e.line.lineUp with
    | some l => let (e, out) := f.moveTo e l; (.reading (.editing e) k, out)
    | none => browsing (f.browse h e true)
  | .lineDown =>
    match e.line.lineDown with
    | some l => let (e, out) := f.moveTo e l; (.reading (.editing e) k, out)
    | none => browsing (f.browse h e false)
  | .firstHistory => browsing (f.browseEnd h e true)
  | .lastHistory => browsing (f.browseEnd h e false)
  | .clearScreen =>
    let e := { e with layout := { e.layout with cursor := {}, finish := {} } }
    reading k "\x1b[H\x1b[J" (f.refresh e)
  | .transpose =>
    let (changes, _) := e.changes.beginGroup
    match e.line.transpose with
    | some (l, deletedAt, g, insertedAt) =>
      let changes := ((changes.delete deletedAt g).insertText insertedAt g).endGroup
      reading k "" (f.refresh { e with line := l, changes })
    | none => { e with changes := changes.endGroup }.still k
  | .transposeWords n =>
    let (changes, _) := e.changes.beginGroup
    match e.line.wordsToSwap n with
    | (l, some w) =>
      let changes := ((((changes.delete w.secondStart w.secondWord).insertText w.secondStart w.firstWord).delete
        w.firstStart w.firstWord).insertText w.firstStart w.secondWord).endGroup
      let chars := l.chars.take w.firstStart ++ w.secondWord ++
        (l.chars.take w.secondStart).drop (w.firstStart + w.firstWord.length) ++ w.firstWord ++
        l.chars.drop w.secondEnd
      reading k "" (f.refresh { e with line := { chars, cursor := w.secondEnd }, changes })
    -- the cursor stays where the search for the words left it, and nothing is drawn
    | (l, none) => { e with line := l, changes := changes.endGroup }.still k
  | .changeCase c =>
    let (changes, _) := e.changes.beginGroup
    match e.line.wordAt with
    | some (start, word) =>
      let new := c.apply word
      let changes := ((changes.delete start word).insertText start new).endGroup
      reading k "" (f.refresh
        { e with line := e.line.replace start (start + word.length) new, changes })
    | none => { e with changes := changes.endGroup }.still k
  | .yank n =>
    match k.yank with
    | some (k, t) => f.insertText k e (List.replicate n t).flatten
    | none => e.still k
  | .yankPop =>
    match k.yankPop with
    | some (k, size, t) =>
      let (changes, _) := e.changes.beginGroup
      let start := e.line.cursor - size
      let (l, old) := e.line.cut start e.line.cursor
      let changes := changes.delete start old
      if t.isEmpty then { e with line := l, changes := changes.endGroup }.still k
      else
        let changes := (changes.insertText start t).endGroup
        reading k "" (f.refresh { e with line := l.insert t, changes })
    | none => e.still k
  | .undo n =>
    let (l, changes, undone) := e.changes.undo e.line n
    let e := { e with line := l, changes }
    if undone then reading k "" (f.refresh e) else e.still k
  | .quotedInsert => (.reading (.quoting e) k, "")
  | .complete | .completeBackward | .reverseSearch | .forwardSearch | .abort | .noop | .nothing =>
    e.still k
where
  browsing : Option (Option (Editing × String)) → Reaction × String
    | some (some (e, out)) => (.reading (.editing e) k, out)
    | some none => e.still k
    | none => (.failed, "")

/-- The prompt of a history search. -/
def Search.prompt (s : Search) : String :=
  (if s.found then "(reverse-i-search)`" else "(failed reverse-i-search)`") ++
    String.ofList s.term ++ "': "

/-- Shows a search with its prompt, the line and its hint. -/
def Frame.showSearch (f : Frame) (k : KillRing) (e : Editing) (s : Search) : Reaction × String :=
  match f.helper.hint e.line.text e.line.bytePos with
  | some hint =>
    let (e, out) := f.drawAfter s.prompt { e with hint } hint
    (.reading (.searching e s) k, out)
  | none => (.failed, "")

/-- Starts a search of the history; with no history there is nothing to search. -/
def Frame.beginSearch (f : Frame) (h : History) (k : KillRing) (e : Editing) : Reaction × String :=
  if h.entries.isEmpty then e.still k
  else
    let (changes, mark) := e.changes.beginGroup
    f.showSearch k { e with changes } { index := h.entries.length - 1, backup := e.line, mark }

/-- Looks for the text of a search from the entry where it stands, and shows what it found. -/
def Frame.stepSearch (f : Frame) (h : History) (k : KillRing) (e : Editing) (s : Search) :
    Reaction × String :=
  match h.search s.term s.index s.reverse with
  | some (i, entry, pos) =>
    f.showSearch k (e.update { chars := entry.toList, cursor := pos }) { s with index := i, found := true }
  | none => f.showSearch k e { s with found := false }

/-- Runs a command that ended a completion or a search: a search or a quoted insert starts,
anything else runs on the line. -/
def Frame.dispatch (f : Frame) (h : History) (k : KillRing) (e : Editing) : Command → Reaction × String
  | .reverseSearch => f.beginSearch h k e
  | cmd => f.execute h k e cmd

/-- Shows the completion at an index, or the word as it was past the last one. -/
def Frame.showCompletion (f : Frame) (k : KillRing) (e : Editing) (c : Completion) (i : Nat)
    (out : String) : Reaction × String :=
  let c := { c with index := i }
  let e := match c.candidates[i]? with
    | some t =>
      let old := (e.line.chars.take e.line.cursor).drop c.start
      { e with line := e.line.replace c.start e.line.cursor t,
               changes := e.changes.replace c.start old t }
    | none => e.update c.backup
  match f.refresh e with
  | some (e, more) => (.reading (.completing e c) k, out ++ more)
  | none => (.failed, out)

/-- Starts completing the word before the cursor: rings the bell when nothing completes it. -/
def Frame.beginCompletion (f : Frame) (k : KillRing) (e : Editing) : Reaction × String :=
  match f.helper.complete e.line.text e.line.bytePos with
  | none => (.failed, "")
  | some [] => (.reading (.editing e) k, bell)
  | some cs =>
    let (changes, mark) := e.changes.beginGroup
    let c : Completion :=
      { start := e.line.cursor, candidates := cs.map String.toList, index := 0, backup := e.line,
        mark }
    f.showCompletion k { e with changes } c 0 ""

/-- The view of the line that the keys see. -/
def Editing.view (e : Editing) : LineView :=
  { empty := e.line.chars.isEmpty, hintAtEnd := e.hint.isSome && e.line.atEnd }

/-- What an input does, its command run as many times as a count says. -/
def Frame.pressCounted (f : Frame) (h : History) (k : KillRing) (n : Count) :
    Mode → Input → Reaction × String
  | .counting m _, input => f.pressCounted h k n m input
  | .quoting e, input =>
    match input with
    | .raw c => f.insertChar k e c
    | input => f.execute h k e (Command.ofInput e.view n input)
  | .editing e, input =>
    let cmd := Command.ofInput e.view n input
    let k := if cmd.keepsKillRing then k else k.reset
    match cmd with
    | .complete => f.beginCompletion k e
    | cmd => f.dispatch h k e cmd
  | .completing e c, input =>
    let size := c.candidates.length
    match Command.ofInput e.view n input with
    | .complete =>
      let i := (c.index + 1) % (size + 1)
      f.showCompletion k e c i (if i = size then bell else "")
    | .completeBackward =>
      if c.index = 0 then f.showCompletion k e c size bell
      else f.showCompletion k e c (c.index - 1) ""
    | .abort =>
      let (r, out) :=
        if c.index < size then
          match f.refresh (e.update c.backup) with
          | some (e, out) => (Reaction.reading (.editing e) k, out)
          | none => (.failed, "")
        else (.reading (.editing e) k, "")
      match r with
      | .reading (.editing e) k => (.reading (.editing { e with changes := e.changes.truncate c.mark }) k, out)
      | r => (r, out)
    | cmd => f.dispatch h k { e with changes := e.changes.endGroup } cmd
  | .searching e s, input =>
    match Command.ofInput e.view n input with
    | .insert c _ => f.stepSearch h k e { s with term := s.term ++ [c] }
    | .kill (.backwardChar _) => f.showSearch k e { s with term := s.term.dropLast }
    | .reverseSearch =>
      if s.index > 0 then f.stepSearch h k e { s with index := s.index - 1, reverse := true }
      else f.showSearch k e { s with found := false, reverse := true }
    | .forwardSearch =>
      if s.index + 1 < h.entries.length then
        f.stepSearch h k e { s with index := s.index + 1, reverse := false }
      else f.showSearch k e { s with found := false, reverse := false }
    | .abort =>
      -- the line given back is drawn, and drawn once more as the search closes
      match f.refresh (e.update s.backup) with
      | some (e, out) =>
        match f.refresh e with
        | some (e, more) =>
          (.reading (.editing { e with changes := e.changes.truncate s.mark }) k, out ++ more)
        | none => (.failed, out)
      | none => (.failed, "")
    | .move m =>
      match f.refresh e with
      | some (e, out) =>
        let (r, more) := f.execute h k { e with changes := e.changes.endGroup } (.move m)
        (r, out ++ more)
      | none => (.failed, "")
    | cmd => f.dispatch h k { e with changes := e.changes.endGroup } cmd

/-- The prompt of a count being typed. -/
def countPrompt (a : Int) : String := "(arg: " ++ toString a ++ ") "

/-- Shows a count being typed with its prompt, the line and its hint. -/
def Frame.showCount (f : Frame) (k : KillRing) (m : Mode) (a : Int) : Reaction × String :=
  let e := m.state
  match f.helper.hint e.line.text e.line.bytePos with
  | some hint =>
    let (e, out) := f.drawAfter (countPrompt a) { e with hint } hint
    (.reading (.counting (m.withState e) a) k, out)
  | none => (.failed, "")

/-- Ends a count: draws the line again, then runs the input's command that many times. -/
def Frame.endCount (f : Frame) (h : History) (k : KillRing) (m : Mode) (a : Int) (input : Input) :
    Reaction × String :=
  match f.refresh m.state with
  | some (e, out) =>
    let (r, more) := f.pressCounted h k (Count.ofArgument a) (m.withState e) input
    (r, out ++ more)
  | none => (.failed, "")

/-- What an input does: digits and minus signs go into a count being typed, Meta with a digit
or a minus sign starts one, and anything else runs its command. -/
def Frame.press (f : Frame) (h : History) (k : KillRing) : Mode → Input → Reaction × String
  | .counting m a, .key key =>
    match key.countKey with
    | .digit d => f.showCount k m (addDigit a d)
    | .minus => f.showCount k m a
    | .other => f.endCount h k m a (.key key)
  | .counting m a, input => f.endCount h k m a input
  | m, .key key =>
    match key.startsCount with
    | some a => f.showCount k m a
    | none => f.pressCounted h k {} m (.key key)
  | m, input => f.pressCounted h k {} m input

end ScriptLex.Terminal
