import ScriptLex.Token
import ScriptLex.Toml.Strings
import ScriptLex.Toml.Numbers
/-!
# TOML values

Keys and values: a value is a string, a number, a boolean, a date-time, an array or an inline
table. Every key and value remembers its byte span, so that a later error can point at it; an
inline table that dotted keys created inside another one has no text of its own, and no span.

A value is told by its first character. A sign or a digit starts a date-time, a float or an
integer, tried in that order; a stray `_` or `.` is read as a number that lacks its leading
digit; any other character is reported as a missing string. Arrays and inline tables may nest
less than 80 deep.

An inline table refuses a key given twice, a dotted key that reaches into a value, and a dotted
key that reaches into an inline table written out in full; it reports these where its pairs
start.
-/

namespace ScriptLex.Toml

open Text

/-- A key as written: its name after unquoting, its text in the source, and its span. -/
structure Key where
  name : String
  raw : String
  span : Span
  deriving Inhabited

/-- A value. Every value but an inline table that dotted keys created has the span of its
text. -/
inductive Value where
  | string (text : String) (span : Span)
  | integer (n : Int) (span : Span)
  | float (x : Binary64) (span : Span)
  | boolean (b : Bool) (span : Span)
  | datetime (text : String) (span : Span)
  | array (items : List Value) (span : Span)
  | inline (entries : List (Key × Value)) (dotted : Bool) (span : Option Span)
  deriving Inhabited

/-- The span of a value's text. -/
def Value.span? : Value → Option Span
  | .string _ s | .integer _ s | .float _ s | .boolean _ s | .datetime _ s | .array _ s => some s
  | .inline _ _ s => s

/-- The name of a value's type, as messages give it. -/
def Value.typeName : Value → String
  | .string .. => "string"
  | .integer .. => "integer"
  | .float .. => "float"
  | .boolean .. => "boolean"
  | .datetime .. => "datetime"
  | .array .. => "array"
  | .inline .. => "inline table"

/-- The names of keys joined by dots. -/
def pathText (ks : List Key) : String := ".".intercalate (ks.map (·.name))

/-- Why a table refuses a key. -/
inductive Conflict where
  /-- A key defined twice; the table it is in, when the message names one. -/
  | duplicate (key : String) (table : Option (List Key))
  /-- A dotted key or header that reaches into a value; the path up to that value. -/
  | extendsValue (path : List Key) (typeName : String)

/-- The message of a conflict. -/
def Conflict.message : Conflict → String
  | .duplicate key none => s!"duplicate key `{key}`"
  | .duplicate key (some []) => s!"duplicate key `{key}` in document root"
  | .duplicate key (some t) => s!"duplicate key `{key}` in table `{pathText t}`"
  | .extendsValue path ty =>
    s!"dotted key `{pathText path}` attempted to extend non-table type ({ty})"

/-- Replaces the value of the entry with the key's name. -/
def setValue (es : List (Key × Value)) (k : Key) (v : Value) : List (Key × Value) :=
  es.map fun (k', x) => if k'.name == k.name then (k', v) else (k', x)

/-- Places `key = v` below the dotted path `ks` in the entries of an inline table. The path is
the tail of `path`, the whole dotted prefix, which messages cite up to the failing key. Tables
created on the way are dotted and have no span; a table written out in full cannot be entered. -/
def insertInline (path : List Key) (key : Key) (v : Value) :
    List Key → List (Key × Value) → Except Conflict (List (Key × Value))
  | [], es =>
    match es.find? (·.1.name == key.name) with
    | some (k, _) => throw (.duplicate k.name none)
    | none => pure (es ++ [(key, v)])
  | k :: ks, es =>
    match es.find? (·.1.name == k.name) with
    | none => do
      let inner ← insertInline path key v ks []
      pure (es ++ [(k, .inline inner true none)])
    | some (_, .inline inner dotted sp) =>
      if !dotted then throw (.duplicate k.name none)
      else do
        let inner ← insertInline path key v ks inner
        pure (setValue es k (.inline inner dotted sp))
    | some (_, other) =>
      throw (.extendsValue (path.take (path.length - ks.length)) other.typeName)

/-- The pairs of an inline table, in order, as its entries. -/
def inlineEntries (pairs : List (List Key × Key × Value)) : Except Conflict (List (Key × Value)) :=
  pairs.foldlM (fun es (path, key, v) => insertInline path key v path es) []

/-! ## Keys -/

/-- A character of a bare key: an ASCII letter or digit, `-` or `_`. -/
def isBareKeyChar (c : Char) : Bool :=
  (c.isAlphanum && c.toNat < 128) || c == '-' || c == '_'

/-- One key: bare, or a single-line string. -/
def simpleKey : Reader Key := do
  let s ← get
  let name ← match s.rest with
    | '"' :: _ => basicString
    | '\'' :: _ => literalString
    | _ => do pure (String.ofList (← takeWhile1 isBareKeyChar))
  let e ← get
  pure ⟨name, String.ofList (s.rest.take (s.rest.length - e.rest.length)), ⟨s.pos, e.pos⟩⟩

/-- Keys may be dotted fewer than 80 times over. -/
def keyDepthLimit : Nat := 80

/-- A dotted key: simple keys separated by dots, blanks allowed around each. -/
def key : Reader (List Key) := do
  let start ← get
  let ks ← labelled "key" (separated1 (do blanks; let k ← simpleKey; blanks; pure k) (char '.')
    (← fuelHere))
  if ks.length ≥ keyDepthLimit then refuseAt start "recursion limit exceeded" else pure ks

/-! ## Values -/

/-- Runs a reader whose failure is reported as a missing string. -/
def asString {α : Type} (r : Reader α) : Reader α :=
  expecting (charExpectation '\'') (expecting (charExpectation '"') (labelled "string" r))

/-- Arrays and inline tables nest fewer levels than this. -/
def nestingLimit : Nat := 80

/-- Enters one more level of nesting, or refuses at the limit. -/
def nest (depth : Nat) : Reader Nat := do
  if depth + 1 ≥ nestingLimit then
    throw { offset := (← here), cause := some "recursion limit exceeded", committed := true }
  pure (depth + 1)

mutual

/-- A value, with its span. -/
def value : Nat → Nat → Reader Value
  | 0, _ => stop
  | fuel + 1, depth => do
    let s ← get
    let finish (mk : Span → Value) : Reader Value := do pure (mk ⟨s.pos, (← here)⟩)
    match s.rest with
    | '"' :: _ | '\'' :: _ => do let t ← string; finish (.string t)
    | '[' :: _ => array fuel depth
    | '{' :: _ => inlineTable fuel depth
    | 't' :: _ => asString (do commit (word "true".toList); finish (.boolean true))
    | 'f' :: _ => asString (do commit (word "false".toList); finish (.boolean false))
    | 'i' :: _ => asString (do word "inf".toList; finish (.float (.infinite false)))
    | 'n' :: _ => asString (do word "nan".toList; finish (.float .nan))
    | '_' :: _ => expecting "leading digit" (do let n ← integer; finish (.integer n))
    | '.' :: _ => expecting "leading digit" (do let x ← float; finish (.float x))
    | c :: _ =>
      if c.isDigit || c == '+' || c == '-' then
        orElse (do let ((), t) ← consumed dateTime; finish (.datetime (String.ofList t))) <|
        orElse (do let x ← float; finish (.float x)) (do let n ← integer; finish (.integer n))
      else asString stop
    | [] => stop

/-- An array, brackets included. -/
def array : Nat → Nat → Reader Value
  | 0, _ => stop
  | fuel + 1, depth => do
    let start ← here
    char '['
    let items ← commit (arrayItems fuel depth)
    expecting (charExpectation ']') (labelled "array" (commit (char ']')))
    pure (.array items ⟨start, (← here)⟩)

/-- The items of an array: values separated by commas, a trailing comma allowed, with blanks,
comments and line breaks around them. -/
def arrayItems : Nat → Nat → Reader (List Value)
  | 0, _ => stop
  | fuel + 1, depth => do
    let depth ← nest depth
    let items ← attempt? do
      let vs ← separated1 (arrayItem fuel depth) (char ',') fuel
      let _ ← attempt? (char ',')
      pure vs
    blankLines fuel
    pure (items.getD [])

/-- One item of an array with the blanks, comments and line breaks around it. -/
def arrayItem : Nat → Nat → Reader Value
  | 0, _ => stop
  | fuel + 1, depth => do
    blankLines fuel
    let v ← value fuel depth
    blankLines fuel
    pure v

/-- An inline table, braces included. -/
def inlineTable : Nat → Nat → Reader Value
  | 0, _ => stop
  | fuel + 1, depth => do
    let start ← here
    char '{'
    let entries ← commit do
      let at_ ← get
      let pairs ← inlinePairs fuel depth
      match inlineEntries pairs with
      | .ok es => pure es
      | .error c => refuseAt at_ c.message
    expecting (charExpectation '}') (labelled "inline table" (commit (char '}')))
    pure (.inline entries false (some ⟨start, (← here)⟩))

/-- The pairs of an inline table: key-value pairs separated by commas, then blanks. -/
def inlinePairs : Nat → Nat → Reader (List (List Key × Key × Value))
  | 0, _ => stop
  | fuel + 1, depth => do
    let depth ← nest depth
    let pairs ← attempt? (separated1 (inlinePair fuel depth) (char ',') fuel)
    blanks
    pure (pairs.getD [])

/-- One key-value pair of an inline table: once its key is read, the rest is committed. -/
def inlinePair : Nat → Nat → Reader (List Key × Key × Value)
  | 0, _ => stop
  | fuel + 1, depth => do
    let ks ← key
    commit do
      expecting (charExpectation '=') (expecting (charExpectation '.') (char '='))
      blanks
      let v ← value fuel depth
      blanks
      match ks.reverse with
      | k :: path => pure (path.reverse, k, v)
      | [] => stop

end

end ScriptLex.Toml
