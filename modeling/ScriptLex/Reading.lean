import ScriptLex.Summary
import ScriptLex.FileSystem
/-!
# Sources read from files

A source file is read whole and decoded as UTF-8; a byte-order mark at its start stays in the
text, where the tokenizer skips it as whitespace. A failure names the path as it was given.
-/

namespace ScriptLex

/-- The text of a source file, or the error that names its path. -/
def readSource (fs : FileSystem) (path : String) : Except LexError String :=
  match fs.readText path with
  | .ok s => .ok s
  | .error f => .error (.io path f)

/-- The summary of the source in a file. -/
def Parser.parseFile (p : Parser) (fs : FileSystem) (path : String) : Except LexError Summary :=
  p.parse <$> readSource fs path

end ScriptLex
