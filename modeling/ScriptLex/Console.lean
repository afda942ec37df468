import ScriptLex.Log
/-!
# Console output

What a run writes: its standard output and its standard error, each in the order written. Log
events go to standard error when the run's filter shows them, in order with the other writes.
-/

namespace ScriptLex

/-- The two output streams of a run, and the filter of its log. -/
structure Console where
  filter : Log.Filter := ⟨[]⟩
  out : String := ""
  err : String := ""

namespace Console

/-- Writes to standard output. -/
def print (c : Console) (s : String) : Console := { c with out := c.out ++ s }

/-- Writes a line to standard output. -/
def println (c : Console) (s : String) : Console := c.print (s ++ "\n")

/-- Writes a line to standard error. -/
def eprintln (c : Console) (s : String) : Console := { c with err := c.err ++ s ++ "\n" }

/-- Emits a log event; it is written when the filter shows it. -/
def log (c : Console) (e : Log.Event) : Console :=
  if c.filter.admits e then c.eprintln e.line else c

end Console

end ScriptLex
