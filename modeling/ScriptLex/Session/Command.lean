import ScriptLex.Text.Blank
/-!
# Dot commands

A line of the interactive session that starts with `.` after trimming may name a command. The
name runs up to the first blank character and is compared in lower case; what follows, trimmed,
is the argument, and an empty argument is none. A name that no command has makes the line an
ordinary source line.
-/

namespace ScriptLex.Session

/-- The commands of the interactive session. -/
inductive Command where
  | help
  | exit
  | clear
  | version
  | load
  | options
  deriving DecidableEq, Repr, Inhabited

namespace Command

/-- Every command, in the order that the help lists them. -/
def all : List Command := [.help, .exit, .clear, .version, .load, .options]

/-- The names that invoke a command, in lower case. -/
def aliases : Command → List String
  | .help => ["help", "h", "?"]
  | .exit => ["exit", "quit", "q"]
  | .clear => ["clear", "cls"]
  | .version => ["version", "v"]
  | .load => ["load", "l"]
  | .options => ["options", "o"]

/-- How the help shows a command's use. -/
def usage : Command → String
  | .help => ".help"
  | .exit => ".exit"
  | .clear => ".clear"
  | .version => ".version"
  | .load => ".load <file>"
  | .options => ".options"

/-- What the help says a command does. -/
def description : Command → String
  | .help => "Show this help message"
  | .exit => "Exit the REPL"
  | .clear => "Clear the screen"
  | .version => "Show version information"
  | .load => "Tokenize a file"
  | .options => "Show the active tokenizer options"

/-- The command's own name: the first word of its usage. -/
def word (c : Command) : String := (c.usage.splitOn " ").headD c.usage

/-- The command's name in titles. -/
def title : Command → String
  | .help => "Help"
  | .exit => "Exit"
  | .clear => "Clear"
  | .version => "Version"
  | .load => "Load"
  | .options => "Options"

/-- The command that a name invokes. Case is folded first; among the characters whose lower case
is an ASCII letter only the Kelvin sign is not ASCII itself, and it folds to `k`, which no name
has, so folding ASCII letters alone decides the same. -/
def ofName? (name : String) : Option Command :=
  let folded := String.ofList (name.toList.map Char.toLower)
  all.find? fun c => c.aliases.contains folded

/-- Reads a line as a command and its argument. -/
def parse? (line : String) : Option (Command × Option String) :=
  match Text.trim line.toList with
  | '.' :: rest =>
    let name := rest.takeWhile (fun c => !Text.isBlank c)
    let arg := Text.trim ((rest.dropWhile (fun c => !Text.isBlank c)).drop 1)
    (ofName? (String.ofList name)).map fun c =>
      (c, if arg.isEmpty then none else some (String.ofList arg))
  | _ => none

example : parse? "  .LOAD  a.js  " = some (.load, some "a.js") := by decide +kernel
example : parse? ". help" = none ∧ parse? ".bogus" = none := by decide +kernel

end Command

end ScriptLex.Session
