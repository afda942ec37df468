import ScriptLex.Toml.Document
import ScriptLex.FileSystem
import ScriptLex.Text.Quoted
import ScriptLex.Text.Case
/-!
# Configuration

The tokenizer options that a run uses, gathered in layers. A configuration file is TOML with at
most a table `tokenizer`, whose keys `whitespace`, `reserved_words` and `trailing_literal` take
the canonical names exactly; any other key, type or name refuses the whole file, and a file sets
only the fields it fills. Variables named `PHEC_…` set the option named by the rest of the name,
in lower case with `-` for `_`, and read their values leniently like option texts.

Loading applies, in order, the file in the user's configuration directory if it exists,
`phec.toml` in the working directory if it exists, a file named on the command line, and the
variables; each layer overrides the fields it sets.

Reading a file rests on code outside the program, gathered as a `Config.Platform`: the TOML
reader, how a derived deserializer meets an item where it expects a struct (the fields it
fills, by key or by position) or a unit variant, and where the user's configuration directory
is. The program's own part is the layout of a file, a struct `ConfigFile` with one field
`tokenizer`, itself a struct of three optional fields, and the order of the layers.
`Platform.standard` is this library's rendering of that outside code.
-/

namespace ScriptLex

/-- The configuration of a run. -/
structure Config where
  tokenizer : Options := {}
  deriving DecidableEq, Repr, Inhabited

/-- Why a configuration could not be loaded. -/
inductive ConfigError where
  /-- A file could not be read. -/
  | io (path : String) (cause : ReadFailure)
  /-- A file is not a valid configuration; the text is kept to show where. -/
  | parse (path : String) (error : Toml.ReadError) (text : String)
  /-- A setting names no choice. -/
  | option (e : InvalidOption)
  deriving DecidableEq, Inhabited

namespace ConfigError

/-- The message of the error. -/
def message : ConfigError → String
  | .io path cause => s!"failed to read config file '{path}': {cause.message}"
  | .parse path e text => s!"invalid config file '{path}': {e.render text}"
  | .option e => e.message

/-- The messages of the errors that caused this one, outermost first. -/
def causes : ConfigError → List String
  | .io _ cause => [cause.message]
  | .parse _ e text => [e.render text]
  | .option _ => []

end ConfigError

/-- The fields that a configuration file sets. -/
structure Overrides where
  whitespace : Option WhitespaceMode := none
  reservedWords : Option ReservedSet := none
  trailingLiteral : Option TrailingMode := none
  deriving DecidableEq, Inhabited

namespace Toml

/-- How a derived deserializer goes through an item where it expects a struct: the fields it
fills, in order, each from an item and with the place an error there is reported at, and the
error that stops it, if one does. -/
structure Visit where
  fills : List (String × Item × Option Span) := []
  stop : Option ReadError := none

/-- The fields that a visit fills, each with the item it is filled from. -/
def Visit.pairs (v : Visit) : List (String × Item) := v.fills.map fun f => (f.1, f.2.1)

/-- Gives an error without a place the place `span`. An error is placed by the innermost value
that has a span: the value that failed, else the value or key that holds it. -/
def placing {α : Type} (span : Option Span) : Except ReadError α → Except ReadError α
  | .error e => .error (if e.span.isNone then { e with span } else e)
  | ok => ok

/-- Fills a struct as a visit goes: each field in turn from its item, an error there placed
where the visit says, and then the visit's own error, if it has one. -/
def Visit.fold {σ : Type} (v : Visit) (fill : σ → String → Item → Except ReadError σ)
    (init : σ) : Except ReadError σ := do
  let s ← v.fills.foldlM (fun s f => placing f.2.2 (fill s f.1 f.2.1)) init
  match v.stop with
  | none => pure s
  | some e => throw e

/-- The fields of the tokenizer table. -/
def fieldNames : List String := ["whitespace", "reserved_words", "trailing_literal"]

/-! ## The standard reading of items -/

/-- The names in a message that lists what was expected: one, two joined by `or`, or more. -/
def oneOf (names : List String) : String :=
  match names with
  | [a] => s!"`{a}`"
  | [a, b] => s!"`{a}` or `{b}`"
  | _ => "one of " ++ ", ".intercalate (names.map fun n => s!"`{n}`")

/-- A value seen where a table was expected, as messages describe it. -/
def Value.unexpected : Value → String
  | .string s _ => "string " ++ Text.quote s
  | .integer n _ => s!"integer `{n}`"
  | .float x _ => s!"floating point `{x.withPoint}`"
  | .boolean b _ => s!"boolean `{b}`"
  | .datetime .. => "map"
  | .array .. => "sequence"
  | .inline .. => "map"

/-- An error at a span, if there is one. -/
def errorAt (span : Option Span) (msg : String) : ReadError := { message := msg, span }

/-- The choice named by a table's one entry: its key names the choice, and its value must be
empty. -/
def choiceOfEntry {α : Type} (all : List α) (name : α → String) (k : Key) (it : Item) :
    Except ReadError α :=
  match all.find? (name · == k.name) with
  | none => .error (errorAt (some k.span)
      s!"unknown variant `{k.name}`, expected {oneOf (all.map name)}")
  | some a =>
    match it with
    | .table [] .. | .value (.inline [] ..) | .value (.array [] _) => .ok a
    | .table _ _ _ sp | .value (.inline _ _ sp) => .error (errorAt sp "expected empty table")
    | .value (.array _ sp) => .error (errorAt (some sp) "expected empty array")
    | .tables _ => .error (errorAt it.span? "expected empty array")
    | .value v => .error (errorAt v.span? s!"expected table, found {v.typeName}")

/-- The choice that an item names, among choices with canonical names: a string names it, and
so does a table with one entry. -/
def choiceOfItem {α : Type} (all : List α) (name : α → String) (it : Item) : Except ReadError α :=
  let ofEntries (es : List (Key × Item)) (span : Option Span) : Except ReadError α :=
    match es with
    | [] => .error (errorAt span "wanted exactly 1 element, found 0 elements")
    | [(k, v)] => choiceOfEntry all name k v
    | _ => .error (errorAt span "wanted exactly 1 element, more than 1 element")
  placing it.span? <| match it with
    | .value (.string s span) =>
      match all.find? (name · == s) with
      | some a => .ok a
      | none => .error (errorAt (some span)
          s!"unknown variant `{s}`, expected {oneOf (all.map name)}")
    | .value (.inline es _ span) => ofEntries (es.map fun (k, v) => (k, .value v)) span
    | .table es _ _ span => ofEntries es span
    | other => .error (errorAt other.span? "wanted string or table")

/-- How an item is read where a struct with the given name and fields is expected. A table, or
an inline table, fills the fields its keys name, in order, up to the first key that names no
field, which is refused there; an error in a value is placed at the value, else at its key. An
array, or an array of tables, fills the fields by position, in order, and items beyond the last
field are passed over; an error in an item is placed at the item, else at the array. A
date-time is a table with one private key, and any other value is refused. -/
def visitStruct (name : String) (fields : List String) (it : Item) : Visit :=
  let byKey (es : List (Key × Item)) : Visit :=
    { fills := (es.takeWhile fun e => fields.contains e.1.name).map fun (k, v) =>
        (k.name, v, v.span?.orElse fun _ => some k.span)
      stop := (es.find? fun e => !fields.contains e.1.name).map fun (k, _) =>
        errorAt (some k.span) s!"unknown field `{k.name}`, expected {oneOf fields}" }
  let byPosition (items : List Item) (outer : Option Span) : Visit :=
    { fills := (fields.zip items).map fun (f, v) => (f, v, v.span?.orElse fun _ => outer) }
  match it with
  | .table es _ _ _ => byKey es
  | .value (.inline es _ _) => byKey (es.map fun (k, v) => (k, .value v))
  | .tables items => byPosition items it.span?
  | .value (.array vs sp) => byPosition (vs.map .value) (some sp)
  | .value (.datetime _ span) => { stop := some (errorAt (some span)
      s!"unknown field `$__toml_private_datetime`, expected {oneOf fields}") }
  | .value v => { stop := some (errorAt v.span? s!"invalid type: {v.unexpected}, expected struct {name}") }

end Toml

namespace Config

/-- Applies the fields that a file sets. -/
def apply (c : Config) (o : Overrides) : Config :=
  { tokenizer :=
    { whitespace := o.whitespace.getD c.tokenizer.whitespace
      reservedWords := o.reservedWords.getD c.tokenizer.reservedWords
      trailingLiteral := o.trailingLiteral.getD c.tokenizer.trailingLiteral } }

/-- Sets an option by its key; a key that names no option changes nothing. -/
def set (c : Config) (key value : String) : Except InvalidOption Config :=
  let setting? : Option Setting := match key with
    | "whitespace" => some .whitespace
    | "reserved-words" => some .reservedWords
    | "trailing-literal" => some .trailingLiteral
    | _ => none
  match setting? with
  | none => .ok c
  | some s => do pure { tokenizer := ← c.tokenizer.assign s value }

/-- The prefix of the variables that set options. -/
def variablePrefix : String := "PHEC_"

/-- The option key that a variable name stands for, if it has the prefix: the rest of the name
in lower case, with `-` for each `_`. -/
def keyOfVariable? (name : String) : Option String :=
  if name.startsWith variablePrefix then
    some (String.ofList ((Text.toLower (name.toList.drop variablePrefix.length)).map fun c =>
      if c == '_' then '-' else c))
  else none

/-- Applies the variables in order; the first invalid value stops, and the earlier ones stay. -/
def loadVariables (c : Config) : List (String × String) → Config × Option InvalidOption
  | [] => (c, none)
  | (name, value) :: rest =>
    match keyOfVariable? name with
    | none => loadVariables c rest
    | some key =>
      match c.set key value with
      | .ok c' => loadVariables c' rest
      | .error e => (c, some e)

/-- The configuration as TOML. -/
def toToml (c : Config) : String :=
  "[tokenizer]\n" ++
  s!"whitespace = \"{c.tokenizer.whitespace.name}\"\n" ++
  s!"reserved_words = \"{c.tokenizer.reservedWords.name}\"\n" ++
  s!"trailing_literal = \"{c.tokenizer.trailingLiteral.name}\"\n"

/-- The name of the project configuration file in the working directory. -/
def projectFile : String := "phec.toml"

/-- The user's home directory: `HOME` when it is set and not empty, else the one that the user
database gives, if any. -/
def homeDir? (userHome : Option String) (vars : List (String × String)) : Option String :=
  match vars.lookup "HOME" with
  | some h => if h.isEmpty then userHome else some h
  | none => userHome

/-- The user's configuration directory: `XDG_CONFIG_HOME` when it is an absolute path, else
`.config` in the home directory. -/
def configDir? (userHome : Option String) (vars : List (String × String)) : Option String :=
  match vars.lookup "XDG_CONFIG_HOME" with
  | some d => if d.startsWith "/" then some d else home?
  | none => home?
where
  home? := (homeDir? userHome vars).map (joinPath · ".config")

/-- The path of the user's file in a configuration directory. -/
def globalFileIn (dir : String) : String := joinPath (joinPath dir "phec") "config.toml"

/-- What reading the configuration takes from outside the program. -/
structure Platform where
  /-- The document of a TOML text. -/
  parse : String → Except Toml.ReadError Toml.Table
  /-- How an item is read where a struct with the given name and fields is expected. -/
  visit : String → List String → Toml.Item → Toml.Visit
  /-- The variant that an item names, among variants with the given names. -/
  choice : {α : Type} → List α → (α → String) → Toml.Item → Except Toml.ReadError α
  /-- The user's configuration directory, from the home directory that the user database gives
  and the variables of the run. -/
  configDir : Option String → List (String × String) → Option String

namespace Platform

variable (P : Platform)

/-- Sets the field named `field` from an item: the option that the item names. -/
def setField (o : Overrides) (field : String) (it : Toml.Item) :
    Except Toml.ReadError Overrides :=
  match field with
  | "whitespace" => do
    pure { o with whitespace := some (← P.choice WhitespaceMode.all WhitespaceMode.name it) }
  | "reserved_words" => do
    pure { o with reservedWords := some (← P.choice ReservedSet.all ReservedSet.name it) }
  | _ => do
    pure { o with trailingLiteral := some (← P.choice TrailingMode.all TrailingMode.name it) }

/-- The fields that the `tokenizer` item sets: it is the struct `TokenizerOverrides`, whose three
fields are optional, so a field it does not fill stays unset. -/
def tokenizerOverrides (it : Toml.Item) : Except Toml.ReadError Overrides :=
  (P.visit "TokenizerOverrides" Toml.fieldNames it).fold P.setField {}

/-- The fields that a configuration document sets: it is the struct `ConfigFile`, whose one
field `tokenizer` sets nothing when the document does not fill it. -/
def documentOverrides (root : Toml.Table) : Except Toml.ReadError Overrides :=
  (P.visit "ConfigFile" ["tokenizer"] root.toItem).fold
    (fun o f it => if f == "tokenizer" then P.tokenizerOverrides it else pure o) {}

/-- The fields that a configuration text sets. -/
def readOverrides (text : String) : Except Toml.ReadError Overrides := do
  P.documentOverrides (← P.parse text)

end Platform


namespace Platform

variable (P : Platform)

/-- Merges a configuration file; on any error nothing of it applies. -/
def mergeFile (c : Config) (fs : FileSystem) (path : String) : Except ConfigError Config := do
  let text ← match fs.readText path with
    | .ok t => pure t
    | .error f => throw (.io path f)
  match P.readOverrides text with
  | .ok o => pure (c.apply o)
  | .error e => throw (.parse path e text)

/-- The path of the user's file. -/
def globalFile? (userHome : Option String) (vars : List (String × String)) : Option String :=
  (P.configDir userHome vars).map globalFileIn

/-- The files that configure a run, in the order they apply: the user's file and the project
file when they exist, then the file named on the command line. -/
def layers (fs : FileSystem) (userHome : Option String) (vars : List (String × String))
    (extra : Option String) : List String :=
  ((P.globalFile? userHome vars).filter fs.isPresent).toList ++
    (if fs.isPresent projectFile then [projectFile] else []) ++ extra.toList

/-- Merges files in turn, then applies the variables. Also gives the files merged before the
first error, each of which the run reports as loaded. -/
def mergeLayers (fs : FileSystem) (vars : List (String × String)) :
    Config → List String → List String × Except ConfigError Config
  | c, [] =>
    match c.loadVariables vars with
    | (loaded, none) => ([], .ok loaded)
    | (_, some e) => ([], .error (.option e))
  | c, p :: ps =>
    match P.mergeFile c fs p with
    | .ok c' =>
      let (merged, result) := mergeLayers fs vars c' ps
      (p :: merged, result)
    | .error e => ([], .error e)

/-- Loads the configuration in layers, with the files merged on the way. -/
def loadReporting (fs : FileSystem) (userHome : Option String) (vars : List (String × String))
    (extra : Option String) : List String × Except ConfigError Config :=
  P.mergeLayers fs vars {} (P.layers fs userHome vars extra)

/-- Loads the configuration in layers: the user's file and the project file when they exist,
the file named on the command line, then the variables. -/
def load (fs : FileSystem) (userHome : Option String) (vars : List (String × String))
    (extra : Option String) : Except ConfigError Config :=
  (P.loadReporting fs userHome vars extra).2

end Platform

/-- The outside code as this library renders it. -/
def Platform.standard : Platform where
  parse := Toml.parse
  visit := Toml.visitStruct
  choice := Toml.choiceOfItem
  configDir := configDir?

/-- Merges a configuration file as the standard platform reads it. -/
def mergeFile (c : Config) (fs : FileSystem) (path : String) : Except ConfigError Config :=
  Platform.standard.mergeFile c fs path

/-- Loads the configuration in layers on the standard platform, for a user whom the user
database gives no home directory. -/
def load (fs : FileSystem) (vars : List (String × String)) (extra : Option String) :
    Except ConfigError Config :=
  Platform.standard.load fs none vars extra

end Config

end ScriptLex
