import ScriptLex.Config
import ScriptLex.CommandLine
import ScriptLex.Session.Loop
/-!
# The program

A run of the program as a function of what it sees: its command line, its files, its
environment and its standard input. It gives what it writes on its two streams and its exit
status.

The command line is read first; a usage error, the help and the version end the run there.
Then logging is set up from `RUST_LOG`, or from `--verbose`, and the configuration is loaded in
its layers. The run then tokenizes, in the first of these that applies: the text of `--eval`,
the files named, the interactive session, or standard input.
-/

namespace ScriptLex.Program

open Render

/-- What a run sees: its files, its variables in the order of its environment, its standard
input, and the home directory that the user database gives the user running it. -/
structure World where
  fs : FileSystem := {}
  vars : List (String × String) := []
  stdin : List UInt8 := []
  userHome : Option String := none
  deriving Inhabited

/-- The exit status of a run that succeeded or failed. -/
def exitStatus (success : Bool) : Nat := if success then 0 else 1

/-- Reports an error on standard error. -/
def reportError (con : Console) (message : String) : Console :=
  con.eprintln (Session.errorLine message)

/-- The log event of a token that a counting run records. -/
def tokenEvent (t : Token) : Log.Event :=
  { level := .debug, target := "phec_lexer::parser::sink", message := t.eventText,
    fields := [("kind", Text.quote t.kind.name), ("literal", Text.quote t.literal),
      ("start", toString t.span.start), ("end", toString t.span.stop)] }

/-- The log event of a configuration file merged. -/
def loadedEvent (path : String) : Log.Event :=
  { level := .debug, target := "phec::config", message := s!"Loaded configuration from {path}" }

/-- The log event of the options a run tokenizes with. -/
def optionsEvent (o : Options) : Log.Event :=
  { level := .debug, target := "phec", message := "effective tokenizer options",
    fields := [("options", Inspect.options o)] }

/-- Tokenizes a source: with `summary`, logs each token and prints the count line under the
label; otherwise lists the tokens. -/
def runSource (con : Console) (label source : String) (o : Options) (summary : Bool) : Console :=
  let (s, es) := Parser.run { options := o, observed := true } source
  if summary then (es.foldl (fun c e => c.log (tokenEvent e)) con).println (summaryLine label s)
  else es.foldl (fun c e => c.println (listingLine e)) con

/-- One file of a counting run: its text is kept with its path, or the failure is reported with
the path and the cause. The state is the console, the texts kept and whether a file failed. -/
def collectFile (fs : FileSystem) (acc : Console × List (String × String) × Bool) (p : String) :
    Console × List (String × String) × Bool :=
  match fs.readText p with
  | .ok src => (acc.1, acc.2.1 ++ [(p, src)], acc.2.2)
  | .error f => (reportError acc.1 s!"{p}: {f.message}", acc.2.1, true)

/-- Counts the tokens of files: a file that cannot be read is reported with the path and the
cause; the others get a count line each, in order, and a `total` line when there are several. -/
def summarizeFiles (con : Console) (fs : FileSystem) (paths : List String) (o : Options) :
    Console × Bool :=
  let (con, read, failed) := paths.foldl (collectFile fs) (con, [], false)
  let runs := read.map fun (p, src) => (p, Parser.run { options := o, observed := true } src)
  let con := runs.foldl (fun c r => r.2.2.foldl (fun c e => c.log (tokenEvent e)) c) con
  let con := runs.foldl (fun c r => c.println (summaryLine r.1 r.2.1)) con
  let con :=
    if runs.length > 1 then con.println (summaryLine "total" (Summary.mergeAll (runs.map (·.2.1))))
    else con
  (con, !failed)

/-- One file of a listing run: a header when there are several files, then the file's tokens,
or the failure reported. The state is the console and whether every file so far was read. -/
def listFile (fs : FileSystem) (o : Options) (several : Bool) (acc : Console × Bool) (p : String) :
    Console × Bool :=
  let con := if several then acc.1.println (boldColored .white s!"==> {p} <==") else acc.1
  match readSource fs p with
  | .ok src => (runSource con p src o false, acc.2)
  | .error e => (reportError con e.message, false)

/-- Lists the tokens of files, each under a header when there are several; a file that cannot
be read is reported. -/
def listFiles (con : Console) (fs : FileSystem) (paths : List String) (o : Options) :
    Console × Bool :=
  paths.foldl (listFile fs o (paths.length > 1)) (con, true)

/-- Tokenizes files; also whether every file was read. -/
def runFiles (con : Console) (fs : FileSystem) (paths : List String) (o : Options)
    (summary : Bool) : Console × Bool :=
  if summary then summarizeFiles con fs paths o else listFiles con fs paths o

/-- An error with the errors that caused it, as the program's error report writes it: the
message, then each cause indented, numbered when there are several. -/
def errorReport (message : String) (causes : List String) : String :=
  match causes with
  | [] => message
  | [c] => message ++ "\n\nCaused by:\n" ++ indent "    " "    " c
  | cs => message ++ "\n\nCaused by:" ++ String.join (cs.zipIdx.map fun (c, n) =>
      "\n" ++ indent (padLeft 5 (toString n) ++ ": ") "       " c)
where
  /-- Puts `first` before the first line of a text and `rest` before each later line. -/
  indent (first rest : String) (t : String) : String :=
    first ++ "\n".intercalate ((t.splitOn "\n").mapIdx fun i l => if i == 0 then l else rest ++ l)

/-- The log filter of a run: `RUST_LOG` when it is set and reads, else the default. -/
def logFilter (vars : List (String × String)) (verbose : Bool) : Log.Filter :=
  match vars.lookup "RUST_LOG" with
  | some s => (Log.Filter.read? s).getD (Log.Filter.default verbose)
  | none => Log.Filter.default verbose

/-- What the run does once its options are known. -/
def runWith (con : Console) (w : World) (inv : CommandLine.Invocation) (o : Options) :
    Console × Nat :=
  let con := con.log (optionsEvent o)
  match inv.eval with
  | some code => (runSource con "<eval>" code o inv.summary, 0)
  | none =>
    if !inv.files.isEmpty then
      let (con, ok) := runFiles con w.fs inv.files o inv.summary
      (con, exitStatus ok)
    else if inv.interactive then
      let (con, ok) := Session.run con w.fs o w.stdin
      (con, exitStatus ok)
    else
      match decodeUtf8 w.stdin with
      | .ok src => (runSource con "<stdin>" src o inv.summary, 0)
      | .error f => (con.eprintln ("Error: " ++ f.description), 1)

/-- A run of the program on its arguments, with the outside code that `P` gives. -/
def runOn (P : Config.Platform) (w : World) (argv : List String) : Console × Nat :=
  match CommandLine.parse argv with
  | .error stop =>
    let con : Console := {}
    (if stop.toStdout then con.print stop.text else { con with err := stop.text }, stop.status)
  | .ok inv =>
    let con : Console := { filter := logFilter w.vars inv.verbose }
    let (merged, result) := P.loadReporting w.fs w.userHome w.vars inv.config
    let con := merged.foldl (fun c p => c.log (loadedEvent p)) con
    match result with
    | .error e => (con.eprintln ("Error: " ++ errorReport e.message e.causes), 1)
    | .ok config =>
      let o := inv.applyTo config.tokenizer
      if inv.showConfig then (con.print (Config.toToml { tokenizer := o }), 0)
      else runWith con w inv o

/-- A run of the program on its arguments. -/
def run (w : World) (argv : List String) : Console × Nat :=
  runOn Config.Platform.standard w argv

end ScriptLex.Program
