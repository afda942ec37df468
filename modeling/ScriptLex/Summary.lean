import ScriptLex.Tokenizer
/-!
# Summaries of a run

Running the tokenizer over a whole source calls it until it returns `eof` and counts the kinds
it returned. An observer, when there is one, sees one event per call: the kind, the literal and
its span, the final `eof` included. Summaries of several sources merge by adding their counts.
-/

namespace ScriptLex

/-- The number of calls that returned each kind. -/
structure Summary where
  eof : Nat := 0
  keyword : Nat := 0
  punctuator : Nat := 0
  divPunctuator : Nat := 0
  numericLiteral : Nat := 0
  identifierName : Nat := 0
  deriving DecidableEq, Repr, Inhabited

namespace Summary

/-- How many calls returned the kind. -/
def count (s : Summary) : TokenKind → Nat
  | .eof => s.eof
  | .keyword => s.keyword
  | .punctuator => s.punctuator
  | .divPunctuator => s.divPunctuator
  | .numericLiteral => s.numericLiteral
  | .identifierName => s.identifierName

/-- Counts one more call that returned the kind. -/
def record (s : Summary) : TokenKind → Summary
  | .eof => { s with eof := s.eof + 1 }
  | .keyword => { s with keyword := s.keyword + 1 }
  | .punctuator => { s with punctuator := s.punctuator + 1 }
  | .divPunctuator => { s with divPunctuator := s.divPunctuator + 1 }
  | .numericLiteral => { s with numericLiteral := s.numericLiteral + 1 }
  | .identifierName => { s with identifierName := s.identifierName + 1 }

/-- The counts in kind-index order. -/
def counts (s : Summary) : List Nat := TokenKind.all.map s.count

/-- The number of tokens: every count but that of `eof`. -/
def total (s : Summary) : Nat :=
  s.keyword + s.punctuator + s.divPunctuator + s.numericLiteral + s.identifierName

/-- Adds the counts of two summaries. -/
def merge (s t : Summary) : Summary where
  eof := s.eof + t.eof
  keyword := s.keyword + t.keyword
  punctuator := s.punctuator + t.punctuator
  divPunctuator := s.divPunctuator + t.divPunctuator
  numericLiteral := s.numericLiteral + t.numericLiteral
  identifierName := s.identifierName + t.identifierName

/-- The counts of the token kinds as `KIND=n`, joined by commas. -/
def display (s : Summary) : String :=
  ", ".intercalate ((TokenKind.all.filter (· != .eof)).map fun k => s!"{k.name}={s.count k}")

@[simp] theorem count_record_self (s : Summary) (k : TokenKind) :
    (s.record k).count k = s.count k + 1 := by
  cases k <;> rfl

theorem count_record_ne (s : Summary) {k k' : TokenKind} (h : k' ≠ k) :
    (s.record k).count k' = s.count k' := by
  cases k <;> cases k' <;> first | rfl | exact absurd rfl h

@[simp] theorem count_merge (s t : Summary) (k : TokenKind) :
    (s.merge t).count k = s.count k + t.count k := by
  cases k <;> rfl

end Summary

/-- What an observer sees for one call: `EOF` alone, or the kind and the literal. -/
def Token.eventText (t : Token) : String :=
  match t.kind with
  | .eof => t.kind.name
  | k => s!"{k.name}: {t.literal}"

/-- Runs the tokenizer until `eof` within a number of calls: the tokens of all calls, the final
`eof` included. -/
def Tokenizer.eventsWithin : Nat → Tokenizer → List Token
  | 0, _ => []
  | fuel + 1, t =>
    let (k, t') := t.next
    if k == .eof then [t'.token] else t'.token :: eventsWithin fuel t'

/-- Every call until the first `eof`, that one included. -/
def Tokenizer.events (t : Tokenizer) : List Token := t.eventsWithin (t.cursor.ahead.length + 1)

/-- A tokenizing run over a source: the options, and whether an observer is installed. -/
structure Parser where
  options : Options := {}
  observed : Bool := false
  deriving DecidableEq, Repr, Inhabited

/-- The summary of a list of calls. -/
def Summary.ofEvents (es : List Token) : Summary :=
  es.foldl (fun s e => s.record e.kind) {}

/-- Runs over a source: the summary and the events of all calls. -/
def Parser.run (p : Parser) (source : String) : Summary × List Token :=
  let es := (Tokenizer.create source p.options p.observed).events
  (Summary.ofEvents es, es)

/-- The summary of a source. -/
def Parser.parse (p : Parser) (source : String) : Summary := (p.run source).1

/-- The summaries of several sources, in order. -/
def Parser.parseAll (p : Parser) (sources : List String) : List Summary := sources.map p.parse

/-- The merge of several summaries, starting from all zero counts. -/
def Summary.mergeAll (ss : List Summary) : Summary := ss.foldl Summary.merge {}

end ScriptLex
