import ScriptLex.Session.Loop
import ScriptLex.Session.Assist
import ScriptLex.Terminal.Editor
/-!
# The interactive session on a terminal

On a terminal the session reads each line with the line editor: the prompt `phec>` in bold
bright green, the line painted by its tokens (a command line in magenta), a dimmed hint for the
word being typed, and completion of words and commands with Tab. Bracketed paste is switched
on while a line is read and off after it. Each accepted line joins the history and is handled
as on plain input; Ctrl-C prints a dimmed `^C` and reads a new line, and Ctrl-D on an empty
line a dimmed `^D` and ends the session. At the end the history is saved and an empty line
printed.

The terminal turns every line feed written into a carriage return and a line feed; the
transcript shows what the terminal received.
-/

namespace ScriptLex.Session

open Terminal Render

/-- The prompt of the session. -/
def prompt : String := boldColored .brightGreen "phec>" ++ " "

/-- The editing helper of the session, from the active options. -/
def helper (o : Options) : Terminal.Helper where
  paint := highlight o
  hint line pos := (hint o.reservedWords line pos).toOption
  complete line pos :=
    ((complete o.reservedWords line pos).toOption).map fun (_, cs) => cs.map (·.replacement)

/-- Switches bracketed paste on and off. -/
def pasteOn : String := "\x1b[?2004h"

/-- Switches bracketed paste off. -/
def pasteOff : String := "\x1b[?2004l"

/-- How a terminal session stands. -/
inductive Stage where
  /-- A line is being read. -/
  | reading (m : Mode)
  /-- The session has ended. -/
  | closed
  /-- The editing helper failed and the session stopped. -/
  | failed
  deriving Inhabited

/-- A terminal session between two keys. -/
structure Desk where
  console : Console
  history : History
  kills : KillRing := {}
  stage : Stage

/-- The frame of the line editor for the session on a screen. -/
def frame (sc : Screen) (o : Options) : Frame := { screen := sc, prompt := prompt, helper := helper o }

/-- Starts reading a line. -/
def Desk.startLine (d : Desk) (sc : Screen) (o : Options) : Desk :=
  let con := d.console.print pasteOn
  match (frame sc o).start d.history.entries.length with
  | some (e, out) =>
    { d with console := con.print out, kills := d.kills.reset, stage := .reading (.editing e) }
  | none => { d with console := con.print pasteOff, stage := .failed }

/-- Ends the session: the final empty line. -/
def Desk.close (d : Desk) : Desk := { d with console := d.console.println "", stage := .closed }

/-- Whether the editor waits for a character to take as it is. -/
def Desk.quoting (d : Desk) : Bool :=
  match d.stage with
  | .reading (.quoting _) => true
  | _ => false

/-- Handles an input. -/
def Desk.press (d : Desk) (sc : Screen) (fs : FileSystem) (o : Options) (input : Input) : Desk :=
  match d.stage with
  | .closed | .failed => d
  | .reading m =>
    let (r, out) := (frame sc o).press d.history d.kills m input
    let con := d.console.print out
    match r with
    | .reading m k => { d with console := con, kills := k, stage := .reading m }
    | .failed => { d with console := con.print pasteOff, stage := .failed }
    | .accepted line =>
      let d := { d with console := con.print (pasteOff ++ "\n"), history := d.history.add line }
      match handleLine d.console fs o line with
      | some con => { d with console := con }.startLine sc o
      | none => d.close
    | .interrupted =>
      { d with console := (con.print (pasteOff ++ "\n")).println (dimmed "^C") }.startLine sc o
    | .ended => { d with console := (con.print (pasteOff ++ "\n")).println (dimmed "^D") }.close

/-- How a terminal session ended. -/
inductive Ending where
  /-- The session ended normally. -/
  | finished
  /-- The editing helper failed. -/
  | failed
  /-- The keys ran out while a line was being read. -/
  | waiting
  deriving DecidableEq, Repr

/-- What a terminal session leaves. -/
structure TerminalRun where
  transcript : String
  errors : String
  /-- The history file afterwards, when there is one. -/
  historyFile : Option String
  ending : Ending

/-- The output as the terminal shows it: each line feed after a carriage return. -/
def terminalText (s : String) : String := "\r\n".intercalate (s.splitOn "\n")

/-- The next input for the editor: a character as it is when the editor waits for one, a key
that waits for a second key together with that key, or a key; `none` when the characters end
inside it. -/
def nextInput (raw : Bool) (cs : List Char) : Option (Input × List Char) :=
  if raw then
    match cs with
    | c :: rest => some (.raw c, rest)
    | [] => none
  else
    match readKey cs with
    | some (k, rest) =>
      if k.waitsForKey then (readKey rest).map fun (k2, rest) => (.chord k k2, rest)
      else some (.key k, rest)
    | none => none

/-- Feeds the characters typed to a session, input by input, at most `fuel` inputs. -/
def Desk.feed (sc : Screen) (fs : FileSystem) (o : Options) : Nat → Desk → List Char → Desk
  | 0, d, _ => d
  | fuel + 1, d, cs =>
    match nextInput d.quoting cs with
    | some (input, rest) => Desk.feed sc fs o fuel (d.press sc fs o input) rest
    | none => d

/-- Runs a session on a terminal screen over the characters typed. The history comes from its
file unless that cannot be read; it is saved back unless that cannot be written. Every input
takes at least one character, so as many steps as there are characters read them all. -/
def runTerminal (sc : Screen) (fs : FileSystem) (o : Options) (historyFile : Option String)
    (blocked : Bool) (typed : List Char) : TerminalRun :=
  let history := match historyFile, blocked with
    | some text, false => History.load text.toUTF8.toList
    | _, _ => {}
  let desk : Desk := { console := ({} : Console).print (banner o), history, stage := .closed }
  let desk := desk.startLine sc o
  let desk := Desk.feed sc fs o typed.length desk typed
  let ending := match desk.stage with
    | .closed => Ending.finished
    | .failed => .failed
    | .reading _ => .waiting
  let file := if ending == .finished && !blocked then desk.history.save historyFile else historyFile
  { transcript := terminalText desk.console.out, errors := desk.console.err,
    historyFile := if blocked then none else file, ending }

end ScriptLex.Session
