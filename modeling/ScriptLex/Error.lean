import ScriptLex.Options
/-!
# Errors of the library

Reading a source can fail for a reason the operating system gives (no such file, a directory,
a path through a file) or because the bytes are not UTF-8. An option can name no choice. Each
cause has one message; the messages of the operating system carry its error number.
-/

namespace ScriptLex

/-- Why reading a file failed. -/
inductive ReadFailure where
  /-- Nothing exists at the path. -/
  | notFound
  /-- The path names a directory. -/
  | isDirectory
  /-- A component of the path before the last is a file. -/
  | notDirectory
  /-- The file's bytes are not UTF-8. -/
  | invalidUtf8
  deriving DecidableEq, Repr

namespace ReadFailure

/-- The error number the operating system reports, if it is the one that failed. -/
def osCode? : ReadFailure → Option Nat
  | .notFound => some 2
  | .isDirectory => some 21
  | .notDirectory => some 20
  | .invalidUtf8 => none

/-- The description without the error number. -/
def description : ReadFailure → String
  | .notFound => "No such file or directory"
  | .isDirectory => "Is a directory"
  | .notDirectory => "Not a directory"
  | .invalidUtf8 => "stream did not contain valid UTF-8"

/-- The name of the class of failure. -/
def kindName : ReadFailure → String
  | .notFound => "NotFound"
  | .isDirectory => "IsADirectory"
  | .notDirectory => "NotADirectory"
  | .invalidUtf8 => "InvalidData"

/-- The message: the description, and the error number when there is one. -/
def message (f : ReadFailure) : String :=
  match f.osCode? with
  | some n => s!"{f.description} (os error {n})"
  | none => f.description

end ReadFailure

/-- The errors of tokenizing: an invalid option, or a source that cannot be read. -/
inductive LexError where
  | invalidOption (e : InvalidOption)
  | io (path : String) (cause : ReadFailure)
  deriving DecidableEq, Repr

/-- The message of an error. -/
def LexError.message : LexError → String
  | .invalidOption e => e.message
  | .io path cause => s!"failed to read '{path}': {cause.message}"

/-- The error that caused this one, as a message. -/
def LexError.cause? : LexError → Option String
  | .invalidOption _ => none
  | .io _ cause => some cause.message

end ScriptLex
