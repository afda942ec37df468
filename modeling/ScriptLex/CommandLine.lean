import ScriptLex.Options
/-!
# The command line

The program's arguments: source files, and flags and options that may come in any order. A
short flag may be bundled with others (`-si`), and the last short option of a bundle takes the
rest of the bundle, after one `=`, or the next argument as its value (`-se x`, `-sex`); a long
option takes its value after `=` or as the next argument. `--` makes every later argument a
file. A value never starts with `-`, unless it is `-` alone. Every flag and option may be given
once.

An option whose value is still to come, and file names, wait until the next flag or option
shows that they are complete: so `-e -x` fails on the unknown `-x`, not on the missing value.
The three tokenizer options read their values like option texts, and a value that names no
choice stops the run with a usage error. So do unknown arguments, missing values, empty paths,
values given to flags, and repeated arguments; `--help` and `--version` stop it with their
texts. The usage line of an unknown argument or of a value given to a flag names what was given
before it.
-/
namespace ScriptLex.CommandLine

/-- The program's name in usage lines. -/
def programName : String := "phec"

/-- The program's version. -/
def version : String := "0.1.0"

/-- What an argument of the command line sets. -/
inductive Key where
  | eval | interactive | summary | config | whitespace | reserved | trailing | showConfig
  | verbose | help | version
  deriving DecidableEq, Repr, Inhabited

/-- One flag or option of the command line. -/
structure Arg where
  key : Key
  short : Option Char
  long : String
  /-- Other long names that stand for the same argument. -/
  aliases : List String := []
  /-- The name of the value, for an option that takes one. -/
  valueName : Option String := none
  help : String
  deriving DecidableEq, Repr, Inhabited

/-- How an argument is named in messages: its long name and the name of its value. -/
def Arg.display (a : Arg) : String :=
  "--" ++ a.long ++ (a.valueName.map (" <" ++ · ++ ">")).getD ""

/-- The program's own flags and options, in the order that the help lists them. -/
def fields : List Arg :=
  [{ key := .eval, short := some 'e', long := "eval", valueName := some "EVAL",
     help := "Tokenize source given on the command line" },
   { key := .interactive, short := some 'i', long := "interactive", aliases := ["repl"],
     help := "Start interactive REPL" },
   { key := .summary, short := some 's', long := "summary",
     help := "Print per-kind token counts instead of the tokens" },
   { key := .config, short := some 'c', long := "config", valueName := some "CONFIG",
     help := "Additional configuration file" },
   { key := .whitespace, short := none, long := "whitespace", valueName := some "MODE",
     help := "Whitespace handling: faithful or extended" },
   { key := .reserved, short := none, long := "reserved", valueName := some "SET",
     help := "Reserved words: keywords, future-reserved or strict" },
   { key := .trailing, short := none, long := "trailing", valueName := some "MODE",
     help := "Literal pending at end of input: flush or drop" },
   { key := .showConfig, short := none, long := "show-config",
     help := "Print the effective configuration and exit" },
   { key := .verbose, short := none, long := "verbose", help := "Enable verbose logging" }]

/-- Every flag and option: the program's own, then help and version. -/
def args : List Arg :=
  fields ++
    [{ key := .help, short := some 'h', long := "help", help := "Print help" },
     { key := .version, short := some 'V', long := "version", help := "Print version" }]

/-- How the file names are named in messages. -/
def filesDisplay : String := "[FILES]..."

/-- What the command line asks for. Options that were not given are `none`. -/
structure Invocation where
  files : List String := []
  eval : Option String := none
  interactive : Bool := false
  summary : Bool := false
  config : Option String := none
  whitespace : Option WhitespaceMode := none
  reservedWords : Option ReservedSet := none
  trailingLiteral : Option TrailingMode := none
  showConfig : Bool := false
  verbose : Bool := false
  deriving DecidableEq, Inhabited

/-- An entry of the usage line that an error shows: an argument that was given, or the files. -/
inductive Given where
  | arg (a : Arg)
  | files
  deriving DecidableEq

/-- Why the command line ends the run before it starts. -/
inductive Stop where
  | help
  | version
  /-- An argument that names no flag or option, a similar long name if there is one, and what
  was given before it. -/
  | unknown (arg : String) (similar : Option String) (given : List Given)
  /-- An argument, named as messages name it, without its value, or with an empty one where a
  path is wanted. -/
  | missingValue (name : String)
  /-- A value that the option cannot read, and the reason. -/
  | invalidValue (arg : Arg) (value : String) (reason : String)
  /-- An argument given twice. -/
  | repeated (arg : Arg)
  /-- A value attached to a flag, and what was given with it. -/
  | unexpectedValue (arg : Arg) (value : String) (given : List Given)
  deriving DecidableEq

/-! ## Similar names -/

/-- The Jaro similarity of two texts: the share of characters that match within half the
longer length, less half the transposed ones. -/
def jaro (a b : List Char) : Float :=
  if a.isEmpty && b.isEmpty then 1.0
  else if a.isEmpty || b.isEmpty then 0.0
  else
    let window := (max a.length b.length) / 2 - 1
    -- the characters of `b` matched so far, by index
    let (matchesA, usedB) := (a.zipIdx).foldl (fun (acc : List Char × List Nat) (c, i) =>
      let lo := i - window
      let hi := i + window
      match (b.zipIdx).find? (fun (d, j) => lo ≤ j && j ≤ hi && d == c && !acc.2.contains j) with
      | some (_, j) => (acc.1 ++ [c], acc.2 ++ [j])
      | none => acc) ([], [])
    let m := matchesA.length
    if m == 0 then 0.0
    else
      let matchesB := ((b.zipIdx).filter (fun (_, j) => usedB.contains j)).map (·.1)
      let transposed := ((matchesA.zip matchesB).filter fun (x, y) => x != y).length
      let mf := m.toFloat
      (mf / a.length.toFloat + mf / b.length.toFloat +
        (mf - (transposed / 2).toFloat) / mf) / 3.0

/-- Every long name, aliases included, in the order of the arguments. -/
def longNames : List String := args.flatMap fun a => a.long :: a.aliases

/-- The long name most similar to an unknown one, if any is similar enough; of equally similar
names the last. -/
def similarLong? (name : String) : Option String :=
  let scored := longNames.map fun n => (jaro name.toList n.toList, n)
  let good := scored.filter (·.1 > 0.7)
  (good.foldl (fun (best : Option (Float × String)) s =>
    match best with
    | none => some s
    | some b => if s.1 ≥ b.1 then some s else some b) none).map (·.2)

/-! ## Reading the arguments

An option waits for its value, and file names wait for the next flag or option: what waits is
applied when the next argument shows that it is complete, or at the end. Until then a later
argument may still be its value, and an error of the later argument comes first. -/

/-- The argument with a long name or alias. -/
def byLong? (name : String) : Option Arg := args.find? fun a => a.long == name || a.aliases.contains name

/-- The argument with a short name. -/
def byShort? (c : Char) : Option Arg := args.find? (·.short == some c)

/-- A text that looks like a flag rather than a value. -/
def looksLikeFlag (s : String) : Bool := s.startsWith "-" && s != "-"

/-- Splits the text after `--` at its first `=` into the name and the attached value. -/
def splitAttached (body : String) : String × Option String :=
  match body.toList.span (· != '=') with
  | (n, []) => (String.ofList n, none)
  | (n, _ :: v) => (String.ofList n, some (String.ofList v))

/-- Adds an entry to a list unless it is there already. -/
def addNew {α : Type} [DecidableEq α] (l : List α) (x : α) : List α :=
  if x ∈ l then l else l ++ [x]

/-- Notes that an argument was given, once. -/
def noteGiven (given : List Given) (g : Given) : List Given := addNew given g

/-- Reads the value of a tokenizer option. -/
def readValue {α : Type} (a : Arg) (v : String) : Except InvalidOption α → Except Stop α
  | .ok x => .ok x
  | .error e => .error (.invalidValue a v e.message)

/-- Sets what an argument sets; an option reads its value, and a path must not be empty. -/
def Invocation.set (inv : Invocation) (a : Arg) (value : String) : Except Stop Invocation :=
  match a.key with
  | .eval => pure { inv with eval := some value }
  | .config =>
    if value.isEmpty then throw (.missingValue a.display) else pure { inv with config := some value }
  | .whitespace => return { inv with whitespace := some (← readValue a value (WhitespaceMode.read value)) }
  | .reserved => return { inv with reservedWords := some (← readValue a value (ReservedSet.read value)) }
  | .trailing => return { inv with trailingLiteral := some (← readValue a value (TrailingMode.read value)) }
  | .interactive => pure { inv with interactive := true }
  | .summary => pure { inv with summary := true }
  | .showConfig => pure { inv with showConfig := true }
  | .verbose => pure { inv with verbose := true }
  | .help => throw .help
  | .version => throw .version

/-- What waits for the next argument: an option, with its value once read, or file names. -/
inductive Pending where
  | option (a : Arg) (value : Option String)
  | files (names : List String)

/-- The state of reading: the invocation so far, what was given in the order first seen, and
what waits. -/
structure Reading where
  inv : Invocation := {}
  given : List Given := []
  pending : Option Pending := none

/-- Applies a flag, or an option with its value. An error leaves the reading as far as it got:
an argument whose value is refused still counts as given. -/
def Reading.apply (r : Reading) (a : Arg) (value : Option String) : Reading × Option Stop :=
  match a.valueName, value with
  | some _, none => (r, some (.missingValue a.display))
  | _, _ =>
    if a.key == .help then (r, some .help)
    else if a.key == .version then (r, some .version)
    else if Given.arg a ∈ r.given then ({ r with given := r.given.erase (.arg a) }, some (.repeated a))
    else
      let r := { r with given := noteGiven r.given (.arg a) }
      match r.inv.set a (value.getD "") with
      | .ok inv => ({ r with inv }, none)
      | .error e => (r, some e)

/-- Applies what waits, if anything. -/
def Reading.resolve (r : Reading) : Reading × Option Stop :=
  match r.pending with
  | none => (r, none)
  | some (.option a v) => { r with pending := none }.apply a v
  | some (.files names) =>
    let r := { r with pending := none, given := noteGiven r.given .files }
    if names.any (·.isEmpty) then (r, some (.missingValue filesDisplay))
    else ({ r with inv := { r.inv with files := r.inv.files ++ names } }, none)

/-- Goes on from a step, or stops with its error. -/
def settle : Reading × Option Stop → Except Stop Reading
  | (_, some e) => .error e
  | (r, none) => .ok r

/-- Reads a file name: it joins the names that wait, or waits after what waited is applied. -/
def Reading.positional (r : Reading) (s : String) : Except Stop Reading :=
  match r.pending with
  | some (.files names) => .ok { r with pending := some (.files (names ++ [s])) }
  | _ => do
    let r ← settle r.resolve
    pure { r with pending := some (.files [s]) }

/-- Reads an argument that starts with `--`, given the text after it. -/
def Reading.long (r : Reading) (body : String) : Except Stop Reading :=
  let (name, attached) := splitAttached body
  match byLong? name with
  | none =>
    -- what waits is applied first, and its error gives way to this one
    let r := r.resolve.1
    let similar := similarLong? name
    let given := match similar.bind byLong? with
      | some a => noteGiven r.given (.arg a)
      | none => r.given
    .error (.unknown ("--" ++ name) similar given)
  | some a =>
    match a.valueName, attached with
    | some _, some v => do settle ((← settle r.resolve).apply a (some v))
    | some _, none => do pure { (← settle r.resolve) with pending := some (.option a none) }
    | none, some v => .error (.unexpectedValue a v (r.given ++ [.arg a]))
    | none, none => do settle ((← settle r.resolve).apply a none)

/-- Reads a bundle of short flags; an option in it takes the rest of the bundle, after one `=`,
or else waits for its value. -/
def Reading.shorts (r : Reading) : List Char → Except Stop Reading
  | [] => .ok r
  | c :: rest =>
    match byShort? c with
    | none => .error (.unknown ("-" ++ c.toString) none [])
    | some a => do
      let r ← settle r.resolve
      if a.valueName.isSome then
        match rest with
        | [] => pure { r with pending := some (.option a none) }
        | '=' :: v => settle (r.apply a (some (String.ofList v)))
        | v => settle (r.apply a (some (String.ofList v)))
      else
        Reading.shorts (← settle (r.apply a none)) rest

/-- Reads the arguments from the left; after `--` every argument is a file name. -/
def Reading.run (r : Reading) (escaped : Bool) : List String → Except Stop Invocation
  | [] => do pure (← settle r.resolve).inv
  | s :: rest =>
    if escaped then do Reading.run (← r.positional s) true rest
    else if s == "--" then r.run true rest
    else if s.startsWith "--" then do Reading.run (← r.long (s.drop 2).toString) false rest
    else if looksLikeFlag s then do Reading.run (← r.shorts (s.toList.drop 1)) false rest
    else
      match r.pending with
      | some (.option a none) => Reading.run { r with pending := some (.option a (some s)) } false rest
      | _ => do Reading.run (← r.positional s) false rest

/-- Reads a command line. -/
def parse (argv : List String) : Except Stop Invocation := Reading.run {} false argv

/-- Overrides the options that the command line gives. -/
def Invocation.applyTo (inv : Invocation) (o : Options) : Options :=
  { whitespace := inv.whitespace.getD o.whitespace
    reservedWords := inv.reservedWords.getD o.reservedWords
    trailingLiteral := inv.trailingLiteral.getD o.trailingLiteral }

/-! ## Texts -/

/-- The usage line. -/
def usage : String := s!"Usage: {programName} [OPTIONS] [FILES]..."

/-- The usage line of an error, after what was given: the full line if nothing was, else the
arguments given and then the files, required once they were given. -/
def usageAfter (given : List Given) : String :=
  if given.isEmpty then usage
  else
    let opts := (given.filterMap fun | .arg a => some a.display | _ => none).foldl addNew []
    let files := if Given.files ∈ given then "<FILES>..." else filesDisplay
    s!"Usage: {programName}" ++ String.join (opts.map (" " ++ ·)) ++ " " ++ files

/-- The help text. Each section aligns its descriptions two columns after its longest entry. -/
def helpText : String :=
  let spec (a : Arg) : String :=
    (match a.short with
      | some c => s!"-{c}, "
      | none => "    ") ++ a.display
  let width := (args.map fun a => (spec a).length).foldl max 0
  let line (a : Arg) : String :=
    let sp := spec a
    "  " ++ sp ++ String.ofList (List.replicate (width - sp.length + 2) ' ') ++ a.help ++ "\n"
  "Tokenizer for ECMAScript-like source\n\n" ++ usage ++ "\n\n" ++
    "Arguments:\n  " ++ filesDisplay ++ "  Source files to tokenize\n\n" ++
    "Options:\n" ++ String.join (args.map line)

/-- The version text. -/
def versionText : String := s!"{programName} {version}\n"

/-- The closing line of every usage error. -/
def moreInfo : String := "For more information, try '--help'.\n"

/-- The text of a stop: help and version go to standard output, errors to standard error. -/
def Stop.text : Stop → String
  | .help => helpText
  | .version => versionText
  | .unknown arg similar given =>
    let tip := match similar with
      | some n => s!"a similar argument exists: '--{n}'"
      | none => s!"to pass '{arg}' as a value, use '-- {arg}'"
    s!"error: unexpected argument '{arg}' found\n\n  tip: {tip}\n\n" ++ usageAfter given ++
      "\n\n" ++ moreInfo
  | .missingValue name =>
    s!"error: a value is required for '{name}' but none was supplied\n\n" ++ moreInfo
  | .invalidValue a v reason =>
    s!"error: invalid value '{v}' for '{a.display}': {reason}\n\n" ++ moreInfo
  | .repeated a =>
    s!"error: the argument '{a.display}' cannot be used multiple times\n\n{usage}\n\n" ++ moreInfo
  | .unexpectedValue a v given =>
    s!"error: unexpected value '{v}' for '{a.display}' found; no more were expected\n\n" ++
      usageAfter given ++ "\n\n" ++ moreInfo

/-- The class of a stop, by the name the argument parser gives it. -/
def Stop.kind : Stop → String
  | .help => "DisplayHelp"
  | .version => "DisplayVersion"
  | .unknown .. => "UnknownArgument"
  | .missingValue _ => "InvalidValue"
  | .invalidValue .. => "ValueValidation"
  | .repeated _ => "ArgumentConflict"
  | .unexpectedValue .. => "TooManyValues"

/-- The exit status of a stop: success for help and version, 2 for usage errors. -/
def Stop.status : Stop → Nat
  | .help | .version => 0
  | _ => 2

/-- Whether the stop's text goes to standard output. -/
def Stop.toStdout : Stop → Bool
  | .help | .version => true
  | _ => false

end ScriptLex.CommandLine
