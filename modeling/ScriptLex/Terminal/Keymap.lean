import ScriptLex.Terminal.Keys
import ScriptLex.Terminal.Line
/-!
# What keys do

The editing commands and the keys that give them, in the Emacs style: printable characters
insert themselves, Enter accepts the line, Tab completes, the arrows move and browse the
history, and the control keys edit. Two keys depend on the line: Ctrl-D deletes the character
under the cursor, but on an empty line ends the input; the right arrow at the end of the line
takes the hint when there is one. The up and down arrows move between the text lines of a line
that has several, and browse the history from the first and the last. Ctrl-X waits for a second
key; Ctrl-] and Ctrl-Alt-] wait for a character and move to it, forward and back; Ctrl-V and
Ctrl-Q insert the next character as it is, whatever it is.

A count typed before a key with Meta and digits repeats what the key does: typing, moving,
deleting, yanking, swapping words and undoing. A negative count turns the movements and
deletions the other way, and makes typing and yanking do nothing.
-/

namespace ScriptLex.Terminal

/-- Where a movement or a deletion goes. -/
inductive Motion where
  | lineStart
  | lineEnd
  /-- Back over `n` graphemes. -/
  | backwardChar (n : Nat)
  /-- Forward over `n` graphemes. -/
  | forwardChar (n : Nat)
  /-- To the start of the `n`-th word before; big words are separated by blanks only. -/
  | backwardWord (n : Nat) (big : Bool)
  /-- To the end of the `n`-th word after. -/
  | forwardWord (n : Nat) (big : Bool)
  /-- To the `n`-th occurrence of a character: forward, to just before it; back, onto it. -/
  | toChar (c : Char) (n : Nat) (forward : Bool)
  deriving DecidableEq, Repr

/-- An editing command. -/
inductive Command where
  /-- Types a character `n` times. -/
  | insert (c : Char) (n : Nat)
  | paste (text : List Char)
  | move (m : Motion)
  | kill (m : Motion)
  | complete
  | completeBackward
  | completeHint
  | accept
  | endOfInput
  | interrupt
  | abort
  | previousHistory
  | nextHistory
  /-- Up a text line, or on the first one to the history entry before. -/
  | lineUp
  /-- Down a text line, or on the last one to the history entry after. -/
  | lineDown
  | firstHistory
  | lastHistory
  | clearScreen
  | transpose
  | transposeWords (n : Nat)
  | changeCase (c : WordCase)
  /-- Yanks the current text of the kill ring `n` times over. -/
  | yank (n : Nat)
  | yankPop
  /-- Inserts the next character as it is. -/
  | quotedInsert
  | reverseSearch
  | forwardSearch
  /-- Undoes the last `n` edits. -/
  | undo (n : Nat)
  /-- An escape sequence that names no key: it does nothing, and keeps the kill ring as it is. -/
  | noop
  /-- A key that does nothing. -/
  | nothing
  deriving DecidableEq, Repr

/-- What the editor reads: a key, a key that waits for a second one together with it, or a
character taken as it is. -/
inductive Input where
  | key (k : Key)
  | chord (lead k : Key)
  | raw (c : Char)
  deriving DecidableEq, Repr

/-- Whether a key waits for a second key: the prefix Ctrl-X, and Ctrl-] and Ctrl-Alt-], which
search for a character. -/
def Key.waitsForKey (k : Key) : Bool :=
  k == Key.control 'X' false || k == Key.control ']' false || k == Key.control ']' true

/-- What a key is to a count: a digit, a minus sign, or neither. Digits and the minus sign count
with or without Meta. -/
inductive CountKey where
  | digit (d : Nat)
  | minus
  | other
  deriving DecidableEq, Repr

/-- What a key is to a count being typed. -/
def Key.countKey (k : Key) : CountKey :=
  match k.code, k.ctrl, k.shift with
  | .char '-', false, false => .minus
  | .char c, false, false => if c.isDigit then .digit (c.toNat - '0'.toNat) else .other
  | _, _, _ => .other

/-- The argument that a key starts, with Meta and a digit or a minus sign. -/
def Key.startsCount (k : Key) : Option Int :=
  if k.alt then
    match k.countKey with
    | .digit d => some d
    | .minus => some (-1)
    | .other => none
  else none

/-- The argument after one more digit: after a lone minus sign the digit gives its negative, and
an argument of four digits takes no more. -/
def addDigit (a : Int) (d : Nat) : Int :=
  if a = -1 then -d
  else if a.natAbs < 1000 then a * 10 + d else a

/-- How many times a command runs, and whether it goes its own way or, for a negative count,
the other way. -/
structure Count where
  times : Nat := 1
  positive : Bool := true
  deriving DecidableEq, Repr

/-- The count of an argument typed with Meta and digits; no argument, or zero, counts once. -/
def Count.ofArgument (a : Int) : Count :=
  if a < 0 then { times := a.natAbs, positive := false }
  else if a = 0 then {} else { times := a.toNat }

/-- One of two things, by the way of a count. -/
def Count.pick {α : Type} (c : Count) (own other : α) : α := if c.positive then own else other

/-- What the line looks like to the keys that depend on it. -/
structure LineView where
  empty : Bool
  hintAtEnd : Bool

/-- The command of a key, run as many times as a count says. -/
def Command.ofKey (v : LineView) (c : Count) (k : Key) : Command :=
  let n := c.times
  match k.code, k.ctrl, k.alt, k.shift with
  | .char ch, false, false, false => c.pick (.insert ch n) .nothing
  | .char 'A', true, false, _ => .move .lineStart
  | .char 'B', true, false, _ => .move (c.pick (.backwardChar n) (.forwardChar n))
  | .char 'C', true, false, _ => .interrupt
  | .char 'D', true, false, _ =>
    if v.empty then .endOfInput else .kill (c.pick (.forwardChar n) (.backwardChar n))
  | .char 'E', true, false, _ => .move .lineEnd
  | .char 'F', true, false, _ => .move (c.pick (.forwardChar n) (.backwardChar n))
  | .char 'G', true, _, _ => .abort
  | .esc, false, false, false => .abort
  | .char 'H', true, false, _ => .kill (c.pick (.backwardChar n) (.forwardChar n))
  | .backspace, false, false, false => .kill (c.pick (.backwardChar n) (.forwardChar n))
  | .backTab, false, false, false => .completeBackward
  | .char 'I', true, false, _ => c.pick .complete .completeBackward
  | .tab, false, false, false => c.pick .complete .completeBackward
  | .right, false, false, false =>
    if v.hintAtEnd then .completeHint else .move (c.pick (.forwardChar n) (.backwardChar n))
  | .char 'K', true, false, _ => .kill (c.pick .lineEnd .lineStart)
  | .char 'L', true, false, _ => .clearScreen
  | .char 'N', true, false, _ => .nextHistory
  | .char 'P', true, false, _ => .previousHistory
  | .backspace, false, true, _ => .kill (c.pick (.backwardWord n false) (.forwardWord n false))
  | .char '<', false, true, _ => .firstHistory
  | .char '>', false, true, _ => .lastHistory
  | .char 'b', false, true, _ | .char 'B', false, true, _ =>
    .move (c.pick (.backwardWord n false) (.forwardWord n false))
  | .char 'c', false, true, _ | .char 'C', false, true, _ => .changeCase .capitalize
  | .char 'l', false, true, _ | .char 'L', false, true, _ => .changeCase .lower
  | .char 't', false, true, _ | .char 'T', false, true, _ => .transposeWords n
  | .char 'u', false, true, _ | .char 'U', false, true, _ => .changeCase .upper
  | .char 'y', false, true, _ | .char 'Y', false, true, _ => .yankPop
  | .left, false, true, _ | .left, true, false, _ =>
    .move (c.pick (.backwardWord n false) (.forwardWord n false))
  | .char 'd', false, true, _ | .char 'D', false, true, _ =>
    .kill (c.pick (.forwardWord n false) (.backwardWord n false))
  | .char 'f', false, true, _ | .char 'F', false, true, _ =>
    .move (c.pick (.forwardWord n false) (.backwardWord n false))
  | .right, false, true, _ | .right, true, false, _ =>
    .move (c.pick (.forwardWord n false) (.backwardWord n false))
  | .home, false, false, false => .move .lineStart
  | .left, false, false, false => .move (c.pick (.backwardChar n) (.forwardChar n))
  | .delete, false, false, false => .kill (c.pick (.forwardChar n) (.backwardChar n))
  | .finish, false, false, false => .move .lineEnd
  | .char 'J', true, false, _ => .accept
  | .enter, false, false, false => .accept
  | .down, false, false, false => .lineDown
  | .up, false, false, false => .lineUp
  | .char 'R', true, false, _ => .reverseSearch
  | .char 'S', true, false, _ => .forwardSearch
  | .char 'T', true, false, _ => .transpose
  | .char 'U', true, false, _ => .kill (c.pick .lineStart .lineEnd)
  | .char 'Q', true, false, _ | .char 'V', true, false, _ => .quotedInsert
  | .char 'W', true, false, _ => .kill (c.pick (.backwardWord n true) (.forwardWord n true))
  | .char 'Y', true, false, _ => c.pick (.yank n) .nothing
  | .char '_', true, false, _ => .undo n
  | .unknownSequence, false, false, false => .noop
  | .paste t, _, _, _ => .paste t
  | _, _, _, _ => .nothing

/-- The command of a key after Ctrl-X: Ctrl-G and Escape abort, Ctrl-U undoes, and Backspace
kills back to the start of the line. -/
def Command.afterPrefix (c : Count) (k : Key) : Command :=
  match k.code, k.ctrl, k.alt, k.shift with
  | .char 'G', true, false, false => .abort
  | .esc, false, false, false => .abort
  | .char 'U', true, false, false => .undo c.times
  | .backspace, false, false, false => .kill .lineStart
  | _, _, _, _ => .nothing

/-- The command of a key after Ctrl-], which searches forward, or after Ctrl-Alt-], which
searches back; a negative count turns the search the other way. Only a plain character is
searched for. -/
def Command.afterSearchKey (c : Count) (back : Bool) (k : Key) : Command :=
  match k.code, k.ctrl, k.alt, k.shift with
  | .char ch, false, false, false => .move (.toChar ch c.times (c.positive != back))
  | _, _, _, _ => .nothing

/-- The command of an input that the editor reads as a command. -/
def Command.ofInput (v : LineView) (c : Count) : Input → Command
  | .key k => Command.ofKey v c k
  | .chord lead k =>
    if lead == Key.control 'X' false then Command.afterPrefix c k
    else Command.afterSearchKey c lead.alt k
  | .raw ch => .insert ch 1

/-- Whether a command keeps what the kill ring knows of the last command: kills of more than a
character, yanks, clearing the screen and unknown escape sequences. -/
def Command.keepsKillRing : Command → Bool
  | .kill (.backwardChar _) | .kill (.forwardChar _) => false
  | .kill _ | .clearScreen | .yank _ | .yankPop | .noop => true
  | _ => false

end ScriptLex.Terminal
