import ScriptLex.Terminal.Line
/-!
# The undo log

Every edit of the line is logged, so that undo can take it back: insertions, deletions and
replacements, each with the index where it happened and the texts involved. Some commands make
several edits that undo takes back at once; they put them between the marks of a group.

Typing merges into the last insertion when the character is a letter or a digit and goes right
after it; deleting a single letter or digit merges into the last deletion at the same place or
just after it. So undo takes back a typed word, or a word deleted letter by letter, at once.
-/

namespace ScriptLex.Terminal

open Text

/-- An edit of the line, or a mark of a group of edits. -/
inductive Change where
  | insert (at_ : Nat) (text : List Char)
  | delete (at_ : Nat) (text : List Char)
  | replace (at_ : Nat) (old new : List Char)
  | groupStart
  | groupEnd
  deriving DecidableEq, Repr, Inhabited

/-- The edits of the line, the last first. -/
structure Changes where
  undos : List Change := []
  deriving Repr, Inhabited

/-- Whether a text is one grapheme of letters and digits. -/
def isSingleWordGrapheme (t : List Char) : Bool :=
  match graphemes t with
  | [g] => g.all isAlphanumeric
  | _ => false

namespace Changes

/-- Logs an edit as a change of its own. -/
def push (ch : Changes) (c : Change) : Changes := { undos := c :: ch.undos }

/-- Logs a typed character. -/
def insertChar (ch : Changes) (i : Nat) (c : Char) : Changes :=
  match ch.undos with
  | .insert j t :: rest =>
    if isAlphanumeric c && j + t.length == i then { undos := .insert j (t ++ [c]) :: rest }
    else ch.push (.insert i [c])
  | _ => ch.push (.insert i [c])

/-- Logs an inserted text; an empty one is not logged. -/
def insertText (ch : Changes) (i : Nat) (t : List Char) : Changes :=
  if t.isEmpty then ch else ch.push (.insert i t)

/-- Logs a deleted text. -/
def delete (ch : Changes) (i : Nat) (t : List Char) : Changes :=
  match ch.undos with
  | .delete j u :: rest =>
    if isSingleWordGrapheme t && j == i then { undos := .delete j (u ++ t) :: rest }
    else if isSingleWordGrapheme t && j == i + t.length then { undos := .delete i (t ++ u) :: rest }
    else ch.push (.delete i t)
  | _ => ch.push (.delete i t)

/-- Logs a replaced text; replacements one after another merge. -/
def replace (ch : Changes) (i : Nat) (old new : List Char) : Changes :=
  match ch.undos with
  | .replace j o n :: rest =>
    if j + n.length == i then { undos := .replace j (o ++ old) (n ++ new) :: rest }
    else ch.push (.replace i old new)
  | _ => ch.push (.replace i old new)

/-- Opens a group; the mark is the length of the log before it. -/
def beginGroup (ch : Changes) : Changes × Nat := (ch.push .groupStart, ch.undos.length)

/-- Closes a group; a group without edits leaves nothing. -/
def endGroup (ch : Changes) : Changes :=
  match ch.undos with
  | .groupStart :: _ => { undos := ch.undos.dropWhile (· == .groupStart) }
  | _ => ch.push .groupEnd

/-- Forgets the edits logged since a mark. -/
def truncate (ch : Changes) (mark : Nat) : Changes :=
  { undos := ch.undos.drop (ch.undos.length - mark) }

end Changes

/-- Takes back one edit: the line before it, with the cursor where the edit was. -/
def Change.undo (l : Line) : Change → Line
  | .insert i t => (l.cut i (i + t.length)).1
  | .delete i t => { chars := l.chars.take i ++ t ++ l.chars.drop i, cursor := i + t.length }
  | .replace i old new => l.replace i (i + new.length) old
  | _ => l

/-- Takes back edits from the log, one group or single edit at a time, `n` times: the line, the
log, and whether an edit was taken back. `depth` counts the groups entered and not yet left. -/
def undoSteps (l : Line) (n : Nat) (count : Nat) (depth : Int) (undone : Bool) :
    List Change → Line × List Change × Bool
  | [] => (l, [], undone)
  | c :: rest =>
    let (l, depth, undone) := match c with
      | .groupStart => (l, depth - 1, undone)
      | .groupEnd => (l, depth + 1, undone)
      | c => (c.undo l, depth, true)
    if depth ≤ 0 then
      if count + 1 ≥ n then (l, rest, undone) else undoSteps l n (count + 1) depth undone rest
    else undoSteps l n count depth undone rest

/-- Undoes the last `n` steps of the log. -/
def Changes.undo (ch : Changes) (l : Line) (n : Nat) : Line × Changes × Bool :=
  let (l, rest, undone) := undoSteps l n 0 0 false ch.undos
  (l, { undos := rest }, undone)

end ScriptLex.Terminal
