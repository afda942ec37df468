import ScriptLex.Render.Style
import ScriptLex.Text.Blank
import ScriptLex.Text.Pattern
/-!
# Diagnostic log

Log events have a level, a target (the module that emits them), a message and named fields. A
filter is a comma-separated list of directives. A directive is a level alone, or a target and a
bracketed span part (either or both, in either order) with `=level`, where a missing level means
every level. Levels are names in any case or the digits `0` (off) to `5` (trace), and a target
that reads as a level is no target. A span part that names a span, or matches a field by value,
applies inside spans only, and no event here is inside one; a span part `[{name}]` asks the event
to carry that field. An event is shown when the most specific directive that applies to it (the
longest target, then the most fields) admits its level. A text that is not a valid list of
directives gives no filter, and the caller falls back to its default.

A shown event is one line: the time, the level in its colour, the target, the message, and the
fields as `name=value`. Times are written as `<time>`, since a run's output must not depend on
the clock.
-/
namespace ScriptLex.Log

/-- The levels of events, from the most verbose. -/
inductive Level where
  | trace | debug | info | warn | error
  deriving DecidableEq, Repr

/-- The verbosity rank of a level: a filter at rank `r` admits the levels of rank `r` and more. -/
def Level.rank : Level → Nat
  | .trace => 0
  | .debug => 1
  | .info => 2
  | .warn => 3
  | .error => 4

/-- How a level is shown: five columns in its colour, then a full reset. -/
def Level.shown (l : Level) : String :=
  let (code, name) := match l with
    | .trace => (35, "TRACE")
    | .debug => (34, "DEBUG")
    | .info => (32, " INFO")
    | .warn => (33, " WARN")
    | .error => (31, "ERROR")
  Render.sgr code ++ name ++ Render.sgr 0

/-- An event: level, target, message and fields with their values already written. -/
structure Event where
  level : Level
  target : String
  message : String
  fields : List (String × String) := []

/-- The line of an event. -/
def Event.line (e : Event) : String :=
  Render.dimmed "<time>" ++ " " ++ e.level.shown ++ " " ++ Render.dimmed e.target ++
    Render.dimmed ":" ++ " " ++ e.message ++
    String.join (e.fields.map fun (k, v) => " " ++ Render.italic k ++ Render.dimmed "=" ++ v)

/-- The names of an event's fields, its message included. -/
def Event.fieldNames (e : Event) : List String := e.fields.map Prod.fst ++ ["message"]

/-- A directive: a target prefix, or none for all targets, the fields an event must carry, and
the least rank it admits; `none` as the rank admits nothing. -/
structure Directive where
  target : Option String
  fields : List String := []
  rank : Option Nat

/-- A filter: its directives. -/
structure Filter where
  directives : List Directive

/-- Reads a level as the level filter reads one: a number from `0` (off) to `5` (trace), with an
optional plus sign and any leading zeros, or a name in any case; the empty text is `error`. -/
def readRank? (s : List Char) : Option (Option Nat) :=
  let digits := match s with
    | '+' :: ds => ds
    | ds => ds
  if !digits.isEmpty && digits.all Char.isDigit then
    match digits.dropWhile (· == '0') with
    | [] => some none
    | ['1'] => some (some 4)
    | ['2'] => some (some 3)
    | ['3'] => some (some 2)
    | ['4'] => some (some 1)
    | ['5'] => some (some 0)
    | _ => none
  else
    match String.ofList (s.map Char.toLower) with
    | "" | "error" => some (some 4)
    | "warn" => some (some 3)
    | "info" => some (some 2)
    | "debug" => some (some 1)
    | "trace" => some (some 0)
    | "off" => some none
    | _ => none

/-- A run of decimal digits after an optional sign. -/
def isSignedInteger (s : List Char) : Bool :=
  let digits := match s with
    | '+' :: ds | '-' :: ds => ds
    | ds => ds
  !digits.isEmpty && digits.all Char.isDigit

/-- A text that reads as a floating-point number: an optional sign, then `inf`, `infinity` or
`nan` in any case, or digits with at most one point and at least one digit, and an optional
exponent. -/
def isFloat (s : List Char) : Bool :=
  let body := match s with
    | '+' :: ds | '-' :: ds => ds
    | ds => ds
  let word := String.ofList (body.map Char.toLower)
  if word == "inf" || word == "infinity" || word == "nan" then true
  else
    let whole := body.takeWhile Char.isDigit
    let rest := body.drop whole.length
    let (frac, rest) := match rest with
      | '.' :: more => (more.takeWhile Char.isDigit, more.drop (more.takeWhile Char.isDigit).length)
      | more => ([], more)
    let mantissa := !(whole.isEmpty && frac.isEmpty)
    mantissa && match rest with
      | [] => true
      | 'e' :: ex | 'E' :: ex => isSignedInteger ex
      | _ => false

/-- Whether a field value is accepted: a boolean, a number, or a well-formed pattern. -/
def isFieldValue (v : List Char) : Bool :=
  let t := String.ofList v
  t == "true" || t == "false" || isSignedInteger v || isFloat v || Text.Pattern.wellFormed t

/-- What the bracketed part of a directive asks, read from the text between the brackets: `none`
when it does not parse; `some none` when it names a span or matches a field by value, which no
event outside a span satisfies; else the fields the event must carry. The part is a span name,
then optionally one field filter in braces, `name` or `name=value`; a part with neither is an
error. -/
def spanFields? (inside : List Char) : Option (Option (List String)) :=
  let name := inside.takeWhile (· != '\x7b')
  match inside.drop name.length with
  | [] => if name.isEmpty then none else some none
  | _ :: braced =>
    match braced.reverse with
    | '\x7d' :: body =>
      let body := body.reverse
      if body.contains '\x7d' then none
      else
        let field := body.takeWhile (· != '=')
        match body.drop field.length with
        | [] => some (if name.isEmpty then some [String.ofList field] else none)
        | _ :: value =>
          let value := value.takeWhile (· != '=')
          if isFieldValue value then some none else none
    | _ => none

/-- Reads one directive, after trimming blanks. A level alone is a directive for all targets;
otherwise the directive is a target (everything before a `[` or `=`, possibly empty), an optional
bracketed part, and an optional `=level`, where a missing level means every level. A directive
that applies inside spans only reads as `some none`. -/
def readDirective? (s : List Char) : Option (Option Directive) :=
  let s := Text.trim s
  match readRank? s with
  | some r => some (some ⟨none, [], r⟩)
  | none => do
    let target := s.takeWhile fun c => c != '[' && c != '='
    let afterTarget := s.drop target.length
    let (span, rest) ← match afterTarget with
      | '[' :: cs =>
        let inside := cs.takeWhile (· != ']')
        match cs.drop inside.length with
        | ']' :: rest => some (some inside, rest)
        | _ => none
      | cs => some (none, cs)
    let rank ← match rest with
      | [] => some (some 0)
      | '=' :: l => readRank? l
      | _ => none
    let target := if target.isEmpty then none else some (String.ofList target)
    match span with
    | none => pure (some ⟨target, [], rank⟩)
    | some inside => do
      let fields ← spanFields? inside
      pure (fields.map fun fs => ⟨target, fs, rank⟩)

/-- Reads a comma-separated list of directives; empty entries are skipped. -/
def Filter.read? (s : String) : Option Filter := do
  let parts := (s.splitOn ",").filter (!·.isEmpty)
  let ds ← parts.mapM fun p => readDirective? p.toList
  pure ⟨ds.filterMap id⟩

/-- The filter of a verbose run and of a quiet one. -/
def Filter.default (verbose : Bool) : Filter :=
  (Filter.read? (if verbose then "phec=debug,phec_lexer=debug" else "warn")).getD ⟨[]⟩

/-- How specific a directive is: the length of its target. -/
def Directive.specificity (d : Directive) : Nat := (d.target.map String.length).getD 0

/-- Lexicographic order on lists of field names. -/
def namesBelow : List String → List String → Bool
  | [], [] => false
  | [], _ :: _ => true
  | _ :: _, [] => false
  | a :: as, b :: bs => if a == b then namesBelow as bs else decide (a < b)

/-- Whether `d` is at least as specific as `e`: a longer target, then more fields, then the
greater field names. -/
def Directive.outranks (d e : Directive) : Bool :=
  if d.specificity != e.specificity then d.specificity > e.specificity
  else if d.fields.length != e.fields.length then d.fields.length > e.fields.length
  else !namesBelow d.fields e.fields

/-- Whether a directive applies to an event: its target is a prefix of the event's, and the
event carries its fields. -/
def Directive.appliesTo (d : Directive) (e : Event) : Bool :=
  d.fields.all (e.fieldNames.contains ·) &&
    match d.target with
    | none => true
    | some t => t.isPrefixOf e.target

/-- Whether the filter shows an event: the most specific directive that applies decides, and of
equal ones the last. -/
def Filter.admits (f : Filter) (e : Event) : Bool :=
  let best := (f.directives.filter (·.appliesTo e)).foldl (fun (acc : Option Directive) d =>
    match acc with
    | none => some d
    | some b => if d.outranks b then some d else some b) none
  match best with
  | some ⟨_, _, some r⟩ => r ≤ e.level.rank
  | _ => false

/-- The lines of the events that the filter shows, each ending in a line break. -/
def Filter.render (f : Filter) (es : List Event) : String :=
  String.join ((es.filter f.admits).map (·.line ++ "\n"))

end ScriptLex.Log
