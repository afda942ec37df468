import ScriptLex.Reading
import ScriptLex.Console
import ScriptLex.Inspect
import ScriptLex.Render.Listing
import ScriptLex.Session.Command
import ScriptLex.Text.Grapheme
/-!
# The interactive session on plain input

When standard input is not a terminal the session reads it line by line and prints no prompt.
After a banner, each line is handled in turn: a blank line is skipped, a dot command runs, and
any other line (an unknown dot word included) is tokenized and listed. `.exit` ends the session;
the end of the input ends it too, after a dimmed `^D`. Either way an empty line closes it.
-/

namespace ScriptLex.Session

open Render

/-- Removes up to `n` bytes from the end of a text kept last character first: whole characters
only, stopping before one that would be cut. The line reader's own truncation stops the program
there instead. -/
def dropBytesFromEnd : List Char → Nat → List Char
  | [], _ => []
  | c :: cs, n => if c.utf8Size ≤ n then dropBytesFromEnd cs (n - c.utf8Size) else c :: cs

/-- A line of input as the line reader gives it: without its line break, a carriage return
before the break removed too, and every backspace removing the grapheme before it. The reader
keeps each grapheme's length in one byte, so a backspace removes that length modulo 256 bytes. -/
def cleanLine (cs : List Char) : List Char :=
  let cs := match cs.reverse with
    | '\n' :: '\r' :: r => r.reverse
    | '\n' :: r => r.reverse
    | _ => cs
  -- the text kept so far, last character first, and the byte lengths of the graphemes kept
  let step := fun (acc : List Char × List Nat) (g : List Char) =>
    if g == ['\x08'] then
      match acc.2 with
      | n :: ns => (dropBytesFromEnd acc.1 n, ns)
      | [] => acc
    else (g.reverse ++ acc.1, (Text.byteLength g % 256) :: acc.2)
  ((Text.graphemes cs).foldl step ([], [])).1.reverse

/-- Splits input bytes into lines, each with its line feed; the last line may lack one. -/
def splitLines (bytes : List UInt8) : List (List UInt8) :=
  let (lines, cur) := bytes.foldl (fun (acc : List (List UInt8) × List UInt8) b =>
    if b == 10 then ((b :: acc.2).reverse :: acc.1, []) else (acc.1, b :: acc.2)) ([], [])
  (if cur.isEmpty then lines else cur.reverse :: lines).reverse

/-- The banner that opens the session. -/
def banner (o : Options) : String :=
  "\n" ++
  "  " ++ boldColored .white "Phec Tokenizer" ++ " " ++ dimmed "v" ++ " " ++
    colored .brightYellow CommandLineVersion ++ "\n" ++
  "  " ++ dimmed s!"whitespace={o.whitespace.name} reserved={o.reservedWords.name} trailing={o.trailingLiteral.name}" ++ "\n" ++
  "  " ++ dimmed "Type" ++ " " ++ colored .cyan ".help" ++ " " ++ dimmed "for available commands" ++ "\n" ++
  "\n"
where
  CommandLineVersion := "0.1.0"

/-- The help of the session: its commands and its keys. -/
def helpText : String :=
  let entry (paint : String → String) (name desc : String) : String :=
    "  " ++ paint (padRight 16 name) ++ " " ++ dimmed desc ++ "\n"
  "\n" ++ boldColored .white "REPL Commands:" ++ "\n\n" ++
    String.join (Command.all.map fun c => entry (colored .cyan) c.usage c.description) ++
    "\n" ++ boldColored .white "Keyboard Shortcuts:" ++ "\n\n" ++
    entry (colored .yellow) "Ctrl+C" "Cancel current input" ++
    entry (colored .yellow) "Ctrl+D" "Exit REPL" ++
    entry (colored .yellow) "Tab" "Autocomplete" ++
    entry (colored .yellow) "↑/↓" "Navigate history" ++
    "\n"

/-- The line that reports an error on standard error. -/
def errorLine (message : String) : String := boldColored .red "Error" ++ ": " ++ message

/-- Lists the tokens of a source, one line per event. -/
def listSource (con : Console) (p : Parser) (source : String) : Console × Summary :=
  let (s, es) := p.run source
  (es.foldl (fun c e => c.println (listingLine e)) con, s)

/-- What a command does to the console; `none` when it ends the session. -/
def Command.execute (con : Console) (fs : FileSystem) (o : Options) (arg : Option String) :
    Command → Option Console
  | .help => some (con.print helpText)
  | .exit => none
  | .clear => some (con.print "\x1b[2J\x1b[H")
  | .version => some (con.println (boldColored .brightCyan "phec" ++ " " ++ colored .yellow "0.1.0"))
  | .load =>
    match arg with
    | none => some (con.eprintln (errorLine (colored .cyan ".load" ++ " " ++ dimmed "requires a file path")))
    | some path =>
      match readSource fs path with
      | .ok source =>
        let (con, s) := listSource con { options := o, observed := true } source
        some (con.println (summaryLine path s))
      | .error e => some (con.eprintln (errorLine e.message))
  | .options => some <|
    con.println (colored .cyan (padRight 18 "whitespace") ++ " " ++ o.whitespace.name)
      |>.println (colored .cyan (padRight 18 "reserved_words") ++ " " ++ o.reservedWords.name)
      |>.println (colored .cyan (padRight 18 "trailing_literal") ++ " " ++ o.trailingLiteral.name)

/-- The log event of a line that was tokenized: the number of its tokens. -/
def countEvent (total : Nat) : Log.Event :=
  { level := .debug, target := "phec::repl", message := "tokenized REPL input",
    fields := [("tokens", toString total)] }

/-- Handles one line; `none` when the session ends. -/
def handleLine (con : Console) (fs : FileSystem) (o : Options) (line : String) : Option Console :=
  if (Text.trim line.toList).isEmpty then some con
  else match Command.parse? line with
    | some (cmd, arg) => Command.execute con fs o arg cmd
    | none =>
      let (con, s) := listSource con { options := o, observed := true } line
      some (con.log (countEvent s.total))

/-- The debug text of a read error, as the session reports it. -/
def readErrorText : String :=
  "Io(" ++ Inspect.readFailure .invalidUtf8 ++ ")"

/-- Reads one line of input as the line reader returns it; `none` when it is not UTF-8. -/
def readLine (l : List UInt8) : Option String :=
  (String.fromUTF8? ⟨l.toArray⟩).map fun text => String.ofList (cleanLine text.toList)

/-- Runs the session over the lines of the input. -/
def runLines (con : Console) (fs : FileSystem) (o : Options) : List (List UInt8) → Console
  | [] => con.println (dimmed "^D")
  | l :: rest =>
    match readLine l with
    | none => con.eprintln (errorLine readErrorText)
    | some line =>
      match handleLine con fs o line with
      | none => con
      | some con => runLines con fs o rest

/-- The whole session: the banner, the lines, and the closing empty line. It always ends
successfully. -/
def run (con : Console) (fs : FileSystem) (o : Options) (input : List UInt8) : Console × Bool :=
  let con := con.print (banner o)
  ((runLines con fs o (splitLines input)).println "", true)

end ScriptLex.Session
