import ScriptLex.Program
import Mathlib.Data.List.TakeWhile
/-!
# Configuration layers

The options of a run come from six layers. From the lowest: the defaults, the file in the user's
configuration directory, `phec.toml` in the working directory, the file named on the command
line, the `PHEC_…` variables, and the flags of the command line. Each layer may set any of the
three fields, and each field is taken from the highest layer that sets it, independently of the
others (`Overrides.resolve`).

A file is a layer whose fields are those its text sets (`Config.Platform.fileLayer`); it fails
when it cannot be read or is no valid configuration. The two files in fixed places are layers
only when something exists there, while the file named on the command line is always read. The
variables are a layer in which each field is given by the last variable that names it, and which
fails at the first variable whose value names no choice (`Config.variableLayer`). Loading tries
the layers from the user's file up to the variables and stops at the first that fails
(`Config.Platform.load_eq_layers`); a run that stops there prints nothing on its standard output
(`Program.runOn_out_of_load_error`).

What a file sets rests on code outside the program, which the statements take as a parameter
with the rules that code documents (`Config.Platform.Lawful`): the derived reader of a struct
fills it by key from a table and by position from a sequence, and refuses a key that names no
field; the configuration directory is `XDG_CONFIG_HOME` when that is absolute, else `.config`
in `HOME` when that is set and not empty, else in the home directory that the user database
gives. On such a platform a file that reads has only keys that name
fields, and sets the fields its `tokenizer` item gives: those it has an entry of, or, for an
array, as many fields as it has items, by position (`Config.Platform.fileLayer_sets`). The
standard platform keeps the rules (`Config.Platform.standard_lawful`).

Main statement: `effective_options_layered`, which gathers these facts about a run as
`Program.LayeredConfig`.
-/

namespace ScriptLex

/-! ## Layers and their resolution -/

namespace Overrides

/-- The options that layers give, the highest first: each field from the first layer that sets
it, and otherwise its default. -/
def resolve (layers : List Overrides) : Options where
  whitespace := (layers.findSome? (·.whitespace)).getD ({} : Options).whitespace
  reservedWords := (layers.findSome? (·.reservedWords)).getD ({} : Options).reservedWords
  trailingLiteral := (layers.findSome? (·.trailingLiteral)).getD ({} : Options).trailingLiteral

/-- Layers, the highest first, as one layer: each field from the first layer that sets it. -/
def flatten (layers : List Overrides) : Overrides :=
  ⟨layers.findSome? (·.whitespace), layers.findSome? (·.reservedWords),
    layers.findSome? (·.trailingLiteral)⟩

/-- The layer that a text makes of one setting: that field alone, set to the choice the text
names, or the text's error when it names none. -/
def ofSetting (s : Setting) (value : String) : Except InvalidOption Overrides :=
  match s with
  | .whitespace => return { whitespace := some (← WhitespaceMode.read value) }
  | .reservedWords => return { reservedWords := some (← ReservedSet.read value) }
  | .trailingLiteral => return { trailingLiteral := some (← TrailingMode.read value) }

/-- Without layers every field has its default. -/
@[simp] theorem resolve_nil : resolve [] = {} := rfl

/-- A layer that sets nothing changes nothing. -/
@[simp] theorem resolve_cons_empty (ls : List Overrides) : resolve ({} :: ls) = resolve ls := rfl

example : resolve [{ reservedWords := some .strict },
    { whitespace := some .extended, reservedWords := some .keywords }] =
    { whitespace := .extended, reservedWords := .strict } := by decide

end Overrides

/-- The layer that the flags of the command line make. -/
def CommandLine.Invocation.flags (inv : CommandLine.Invocation) : Overrides :=
  ⟨inv.whitespace, inv.reservedWords, inv.trailingLiteral⟩

/-- Applying two stacks of layers in turn is applying them as one, the later above the earlier. -/
theorem Config.apply_flatten_append (c : Config) (ls₁ ls₂ : List Overrides) :
    c.apply (Overrides.flatten (ls₁ ++ ls₂)) =
      (c.apply (Overrides.flatten ls₂)).apply (Overrides.flatten ls₁) := by
  simp only [Config.apply, Overrides.flatten, List.findSome?_append, Option.getD_or]

/-- One layer alone is itself. -/
@[simp] theorem Overrides.flatten_singleton (l : Overrides) : Overrides.flatten [l] = l := by
  simp [Overrides.flatten]

/-- No layers set nothing. -/
@[simp] theorem Config.apply_flatten_nil (c : Config) : c.apply (Overrides.flatten []) = c := rfl

/-- Applying a file's fields puts its layer above the layers applied before. -/
theorem Config.apply_resolve (ls : List Overrides) (o : Overrides) :
    Config.apply ⟨Overrides.resolve ls⟩ o = ⟨Overrides.resolve (o :: ls)⟩ := by
  -- the options that layers give are the defaults with the layers applied as one
  have h := Config.apply_flatten_append {} [o] ls
  rw [Overrides.flatten_singleton, List.singleton_append] at h
  exact h.symm

/-- The flags are the highest layer. -/
theorem CommandLine.Invocation.applyTo_resolve (inv : CommandLine.Invocation)
    (ls : List Overrides) :
    inv.applyTo (Overrides.resolve ls) = Overrides.resolve (inv.flags :: ls) :=
  congrArg Config.tokenizer (Config.apply_resolve ls inv.flags)

/-- Setting an option applies the layer that its text makes. -/
theorem Options.assign_eq (o : Options) (s : Setting) (value : String) :
    o.assign s value =
      (Overrides.ofSetting s value).map fun l => (Config.apply ⟨o⟩ l).tokenizer := by
  cases s with
  | whitespace =>
    simp only [Options.assign, Overrides.ofSetting]
    cases WhitespaceMode.read value <;> rfl
  | reservedWords =>
    simp only [Options.assign, Overrides.ofSetting]
    cases ReservedSet.read value <;> rfl
  | trailingLiteral =>
    simp only [Options.assign, Overrides.ofSetting]
    cases TrailingMode.read value <;> rfl

/-- The setting that an option key names. -/
def Setting.ofKey? : String → Option Setting
  | "whitespace" => some .whitespace
  | "reserved-words" => some .reservedWords
  | "trailing-literal" => some .trailingLiteral
  | _ => none

namespace Config

/-- Setting an option by its key applies the layer that its text makes; a key that names no
setting changes nothing. -/
theorem set_eq (c : Config) (key value : String) :
    c.set key value = match Setting.ofKey? key with
      | none => .ok c
      | some s => (Overrides.ofSetting s value).map c.apply := by
  -- the key is looked up by the same table as the setting's key
  show (match Setting.ofKey? key with
    | none => .ok c
    | some s => do pure { tokenizer := ← c.tokenizer.assign s value } :
      Except InvalidOption Config) = _
  cases Setting.ofKey? key with
  | none => rfl
  | some s =>
    simp only [Options.assign_eq]
    cases Overrides.ofSetting s value <;> rfl

/-! ## The variables as a layer -/

/-- The setting that a variable names: its name less the prefix, in lower case with `-` for `_`,
is the setting's key. -/
def settingOfVariable? (name : String) : Option Setting :=
  (keyOfVariable? name).bind Setting.ofKey?

/-- The layers that the variables make, in their order: one for each variable that names a
setting, or the error of the first whose value names no choice. -/
def variableLayers (vars : List (String × String)) : Except InvalidOption (List Overrides) :=
  (vars.filterMap fun v => (settingOfVariable? v.1).map (·, v.2)).mapM
    fun sv => Overrides.ofSetting sv.1 sv.2

/-- The variables as one layer, a later variable above an earlier one: each field is given by
the last variable that names it. -/
def variableLayer (vars : List (String × String)) : Except ConfigError Overrides :=
  match variableLayers vars with
  | .ok ls => .ok (Overrides.flatten ls.reverse)
  | .error e => .error (.option e)

theorem variableLayers_cons (name value : String) (rest : List (String × String)) :
    variableLayers ((name, value) :: rest) = match settingOfVariable? name with
      | none => variableLayers rest
      | some s => Overrides.ofSetting s value >>= fun l => (l :: ·) <$> variableLayers rest := by
  unfold variableLayers
  cases h : settingOfVariable? name <;> simp [h]

theorem loadVariables_cons (c : Config) (name value : String) (rest : List (String × String)) :
    c.loadVariables ((name, value) :: rest) = match settingOfVariable? name with
      | none => c.loadVariables rest
      | some s =>
        match Overrides.ofSetting s value with
        | .ok l => (c.apply l).loadVariables rest
        | .error e => (c, some e) := by
  simp only [loadVariables, settingOfVariable?]
  cases keyOfVariable? name with
  | none => rfl
  | some key =>
    simp only [Option.bind_some, set_eq]
    cases Setting.ofKey? key with
    | none => rfl
    | some s =>
      dsimp only
      cases Overrides.ofSetting s value <;> rfl

/-- Applying the variables in turn applies their layer, and stops with the error of the first
whose value names no choice. The induction is on the variables, over any configuration they
start from. -/
theorem loadVariables_eq (c : Config) (vars : List (String × String)) :
    (match c.loadVariables vars with
      | (loaded, none) => Except.ok loaded
      | (_, some e) => .error (ConfigError.option e)) = c.apply <$> variableLayer vars := by
  induction vars generalizing c with
  | nil => rfl
  | cons v rest ih =>
    obtain ⟨name, value⟩ := v
    rw [loadVariables_cons]
    unfold variableLayer
    rw [variableLayers_cons]
    cases settingOfVariable? name with
    | none =>
      -- a variable that names no setting is passed over by both
      exact ih c
    | some s =>
      dsimp only
      cases Overrides.ofSetting s value with
      | error e => rfl
      | ok l =>
        dsimp only
        rw [ih (c.apply l)]
        unfold variableLayer
        cases variableLayers rest with
        | error e => rfl
        | ok ls =>
          -- the first variable's layer lies below those of the later ones
          have h := c.apply_flatten_append ls.reverse [l]
          rw [Overrides.flatten_singleton] at h
          show Except.ok _ = Except.ok (c.apply (Overrides.flatten (l :: ls).reverse))
          rw [List.reverse_cons, h]

/-! ## Files as layers -/

namespace Platform

variable (P : Platform)

/-- A configuration file as a layer: the fields that its text sets, or why it cannot be read or
is no valid configuration. -/
def fileLayer (fs : FileSystem) (path : String) : Except ConfigError Overrides :=
  match fs.readText path with
  | .error f => .error (.io path f)
  | .ok text =>
    match P.readOverrides text with
    | .ok o => .ok o
    | .error e => .error (.parse path e text)

/-- The user's file, in the configuration directory if there is one, is a layer when something
exists at its place. -/
def globalLayer (fs : FileSystem) : Option String → Except ConfigError Overrides
  | some dir => if fs.isPresent (globalFileIn dir) then P.fileLayer fs (globalFileIn dir) else .ok {}
  | none => .ok {}

/-- The project file is a layer when something exists at its place. -/
def projectLayer (fs : FileSystem) : Except ConfigError Overrides :=
  if fs.isPresent projectFile then P.fileLayer fs projectFile else .ok {}

/-- The file named on the command line is a layer whether or not it exists. -/
def extraLayer (fs : FileSystem) : Option String → Except ConfigError Overrides
  | some path => P.fileLayer fs path
  | none => .ok {}

/-- Merging a file applies its layer. -/
theorem mergeFile_eq (c : Config) (fs : FileSystem) (path : String) :
    P.mergeFile c fs path = c.apply <$> P.fileLayer fs path := by
  unfold mergeFile fileLayer
  cases fs.readText path with
  | error f => rfl
  | ok text =>
    simp only [pure_bind]
    cases P.readOverrides text with
    | error e => rfl
    | ok o => rfl

/-- The user's file is read as a file named on the command line would be, when it exists. -/
theorem extraLayer_filter (fs : FileSystem) (userHome : Option String)
    (vars : List (String × String)) :
    P.extraLayer fs ((P.globalFile? userHome vars).filter fs.isPresent) =
      P.globalLayer fs (P.configDir userHome vars) := by
  unfold globalFile?
  cases P.configDir userHome vars with
  | none => rfl
  | some dir =>
    by_cases h : fs.isPresent (globalFileIn dir) = true
    · simp [Option.filter, h, extraLayer, globalLayer]
    · simp [Option.filter, h, extraLayer, globalLayer]

theorem foldlM_project (c : Config) (fs : FileSystem) :
    (if fs.isPresent projectFile then [projectFile] else []).foldlM
      (fun c p => P.mergeFile c fs p) c = c.apply <$> P.projectLayer fs := by
  unfold projectLayer
  by_cases h : fs.isPresent projectFile = true
  · simp [h, mergeFile_eq]
  · simp [h]
    rfl

theorem foldlM_extra (c : Config) (fs : FileSystem) (extra : Option String) :
    extra.toList.foldlM (fun c p => P.mergeFile c fs p) c = c.apply <$> P.extraLayer fs extra := by
  cases extra with
  | none => rfl
  | some path => simp [extraLayer, mergeFile_eq]

/-- Merging files in turn and then the variables stops at the first that fails. -/
theorem mergeLayers_snd (fs : FileSystem) (vars : List (String × String)) (c : Config)
    (ps : List String) :
    (P.mergeLayers fs vars c ps).2 =
      ps.foldlM (fun c p => P.mergeFile c fs p) c >>= fun c => c.apply <$> variableLayer vars := by
  induction ps generalizing c with
  | nil =>
    -- after the last file come the variables
    rw [List.foldlM_nil, pure_bind, ← loadVariables_eq]
    unfold mergeLayers
    rcases c.loadVariables vars with ⟨loaded, _ | e⟩ <;> rfl
  | cons p ps ih =>
    simp only [mergeLayers, List.foldlM_cons]
    cases P.mergeFile c fs p with
    | error e => rfl
    | ok c' => exact ih c'

/-- Loading tries the layers from the user's file up to the variables, and stops at the first
that fails; the options it gives take each field from the highest layer that sets it. -/
theorem load_eq_layers (fs : FileSystem) (userHome : Option String)
    (vars : List (String × String)) (extra : Option String) :
    P.load fs userHome vars extra = (do
      let g ← P.globalLayer fs (P.configDir userHome vars)
      let p ← P.projectLayer fs
      let x ← P.extraLayer fs extra
      let v ← variableLayer vars
      pure ⟨Overrides.resolve [v, x, p, g]⟩) := by
  unfold load loadReporting layers
  rw [mergeLayers_snd]
  simp only [List.foldlM_append, bind_assoc, foldlM_project, foldlM_extra,
    extraLayer_filter]
  -- each layer applied in turn lies above those applied before it
  have hempty : ({} : Config) = ⟨Overrides.resolve []⟩ := rfl
  simp only [bind_map_left]
  simp only [map_eq_pure_bind, hempty, Config.apply_resolve]

end Platform

end Config

/-! ## What the outside code must do -/

/-- The fields that an item fills where a struct with these fields is expected, each with the
item it is filled from: a table's entries by their keys, a sequence's items by position, and
nothing from any other value. -/
def Toml.Item.fills (fields : List String) : Toml.Item → List (String × Toml.Item)
  | .table es _ _ _ => es.map fun e => (e.1.name, e.2)
  | .value (.inline es _ _) => es.map fun e => (e.1.name, .value e.2)
  | .tables items => fields.zip items
  | .value (.array vs _) => fields.zip (vs.map .value)
  | .value _ => []

/-- The rules of the outside code that reading the configuration relies on: how the derived
reader of a struct fills the structs `ConfigFile` and `TokenizerOverrides`, which refuse unknown
fields, and where the user's configuration directory is looked up. -/
structure Config.Platform.Lawful (P : Config.Platform) : Prop where
  /-- A struct that is read is filled as the item gives its fields: a table by its keys, a
  sequence by position. -/
  visit_fills : ∀ name fields it, (P.visit name fields it).stop = none →
    (P.visit name fields it).pairs = it.fills fields
  /-- A struct is read only when each field it is filled with is one of its own: a key that
  names no field refuses the table. -/
  visit_known : ∀ name fields it, (P.visit name fields it).stop = none →
    ∀ f ∈ it.fills fields, f.1 ∈ fields
  /-- `XDG_CONFIG_HOME`, when it is an absolute path, is the configuration directory. -/
  configDir_xdg : ∀ userHome vars d, vars.lookup "XDG_CONFIG_HOME" = some d →
    d.startsWith "/" = true → P.configDir userHome vars = some d
  /-- Otherwise the directory is `.config` in `HOME`, when that is set and not empty. -/
  configDir_home : ∀ userHome vars h,
    ((vars.lookup "XDG_CONFIG_HOME").all fun d => !d.startsWith "/") = true →
    vars.lookup "HOME" = some h → h.isEmpty = false →
    P.configDir userHome vars = some (joinPath h ".config")
  /-- Otherwise it is `.config` in the home directory that the user database gives, if any. -/
  configDir_user : ∀ userHome vars,
    ((vars.lookup "XDG_CONFIG_HOME").all fun d => !d.startsWith "/") = true →
    (vars.lookup "HOME").all (·.isEmpty) = true →
    P.configDir userHome vars = userHome.map (joinPath · ".config")

namespace Config

/-- Without an absolute `XDG_CONFIG_HOME` the configuration directory is `.config` in the home
directory. -/
theorem configDir?_of_relative {userHome : Option String} {vars : List (String × String)}
    (hx : ((vars.lookup "XDG_CONFIG_HOME").all fun d => !d.startsWith "/") = true) :
    configDir? userHome vars = (homeDir? userHome vars).map (joinPath · ".config") := by
  unfold configDir?
  cases h : vars.lookup "XDG_CONFIG_HOME" with
  | none => rfl
  | some d =>
    rw [h] at hx
    simp only [Option.all_some, Bool.not_eq_eq_eq_not, Bool.not_true] at hx
    simp [hx, configDir?.home?]

/-- A lawful platform places the configuration directory where `configDir?` does. -/
theorem Platform.Lawful.configDir_eq {P : Platform} (hP : P.Lawful) (userHome : Option String)
    (vars : List (String × String)) : P.configDir userHome vars = configDir? userHome vars := by
  -- below an absolute `XDG_CONFIG_HOME`, `HOME` is looked at before the user database
  have home : ((vars.lookup "XDG_CONFIG_HOME").all fun d => !d.startsWith "/") = true →
      P.configDir userHome vars = configDir? userHome vars := by
    intro hx
    rw [configDir?_of_relative hx]
    unfold homeDir?
    cases hh : vars.lookup "HOME" with
    | none => exact hP.configDir_user userHome vars hx (by simp [hh])
    | some h =>
      cases he : h.isEmpty with
      | true => simpa [he] using hP.configDir_user userHome vars hx (by simp [hh, he])
      | false => simpa [he] using hP.configDir_home userHome vars h hx hh he
  cases hx : vars.lookup "XDG_CONFIG_HOME" with
  | none => exact home (by simp [hx])
  | some d =>
    cases hd : d.startsWith "/" with
    | true =>
      rw [hP.configDir_xdg userHome vars d hx hd]
      simp [configDir?, hx, hd]
    | false => exact home (by simp [hx, hd])

end Config

namespace Toml

/-- The standard visit of a struct fills, from an item that it does not refuse, the fields that
the item gives, and each is one of the struct's fields. -/
theorem visitStruct_fills {name : String} {fields : List String} {it : Item}
    (h : (visitStruct name fields it).stop = none) :
    (visitStruct name fields it).pairs = it.fills fields ∧ ∀ f ∈ it.fills fields, f.1 ∈ fields := by
  -- a table is read by key up to a key that names no field, which refuses it
  have byKey : ∀ es : List (Key × Item),
      (es.find? fun e => !fields.contains e.1.name) = none →
      (es.takeWhile fun e => fields.contains e.1.name) = es ∧ ∀ e ∈ es, e.1.name ∈ fields := by
    intro es hf
    have hall : ∀ e ∈ es, fields.contains e.1.name = true := by
      intro e he
      simpa using List.find?_eq_none.mp hf e he
    exact ⟨List.takeWhile_eq_self_iff.mpr hall, fun e he => List.contains_iff_mem.mp (hall e he)⟩
  -- a sequence fills the fields by position
  have byPosition : ∀ {β : Type} (items : List β), ∀ f ∈ fields.zip items, f.1 ∈ fields :=
    fun _ _ hf => (List.of_mem_zip hf).1
  match it, h with
  | .table es _ _ _, h =>
    simp only [visitStruct, Option.map_eq_none_iff] at h
    obtain ⟨htake, hknown⟩ := byKey es h
    refine ⟨?_, ?_⟩
    · simp only [visitStruct, Visit.pairs, List.map_map, htake]
      rfl
    · intro f hf
      obtain ⟨e, he, rfl⟩ := List.mem_map.mp hf
      exact hknown e he
  | .value (.inline es _ _), h =>
    simp only [visitStruct, Option.map_eq_none_iff] at h
    obtain ⟨htake, hknown⟩ := byKey _ h
    refine ⟨?_, ?_⟩
    · simp only [visitStruct, Visit.pairs, List.map_map, htake]
      rfl
    · intro f hf
      obtain ⟨e, he, rfl⟩ := List.mem_map.mp hf
      exact hknown _ (List.mem_map_of_mem he)
  | .tables items, _ =>
    refine ⟨?_, byPosition items⟩
    simp only [visitStruct, Visit.pairs, List.map_map]
    exact List.map_id'' (fun _ => rfl) _
  | .value (.array vs _), _ =>
    refine ⟨?_, byPosition _⟩
    simp only [visitStruct, Visit.pairs, List.map_map]
    exact List.map_id'' (fun _ => rfl) _
  | .value (.string ..), h => cases h
  | .value (.integer ..), h => cases h
  | .value (.float ..), h => cases h
  | .value (.boolean ..), h => cases h
  | .value (.datetime ..), h => cases h

end Toml

/-- The standard platform keeps the rules. -/
theorem Config.Platform.standard_lawful : Config.Platform.standard.Lawful where
  visit_fills _ _ _ h := (Toml.visitStruct_fills h).1
  visit_known _ _ _ h := (Toml.visitStruct_fills h).2
  configDir_xdg userHome vars d hx hd := by
    simp [Config.Platform.standard, Config.configDir?, hx, hd]
  configDir_home userHome vars h hx hh he := by
    simp [Config.Platform.standard, Config.configDir?_of_relative hx, Config.homeDir?, hh, he]
  configDir_user userHome vars hx hh := by
    show Config.configDir? userHome vars = _
    rw [Config.configDir?_of_relative hx]
    unfold Config.homeDir?
    cases h : vars.lookup "HOME" with
    | none => rfl
    | some home =>
      rw [h] at hh
      simp only [Option.all_some] at hh
      simp [hh]

/-! ## The fields that a file sets -/

/-- The key of a setting in the `tokenizer` table. -/
def Setting.fieldName : Setting → String
  | .whitespace => "whitespace"
  | .reservedWords => "reserved_words"
  | .trailingLiteral => "trailing_literal"

/-- Whether a layer sets the setting's field. -/
def Overrides.sets (o : Overrides) : Setting → Bool
  | .whitespace => o.whitespace.isSome
  | .reservedWords => o.reservedWords.isSome
  | .trailingLiteral => o.trailingLiteral.isSome

@[simp] theorem Overrides.sets_empty (s : Setting) : ({} : Overrides).sets s = false := by
  cases s <;> rfl

namespace Toml

/-- Whether the `tokenizer` item gives a field: a table gives the fields it has an entry of, and
a sequence gives, by position, as many fields as it has items. -/
def Item.givesField (it : Item) (f : String) : Bool :=
  match it with
  | .table es _ _ _ => es.any (·.1.name == f)
  | .value (.inline es _ _) => es.any (·.1.name == f)
  | .tables items => (fieldNames.take items.length).any (· == f)
  | .value (.array vs _) => (fieldNames.take vs.length).any (· == f)
  | .value _ => false

/-- Whether a configuration document gives a field: its last entry, which must be the
`tokenizer` item, does. -/
def Table.givesField (root : Table) (f : String) : Bool :=
  match root.entries.getLast? with
  | some (_, it) => it.givesField f
  | none => false

/-- Whether every key of a configuration document names a field: its keys name `tokenizer`, and
the fields that their items fill are fields of the tokenizer table. -/
def Table.keysKnown (root : Table) : Bool :=
  root.entries.all fun e => e.1.name == "tokenizer" &&
    (e.2.fills fieldNames).all fun f => fieldNames.contains f.1

/-- The fields that a sequence's items reach, in order. -/
theorem any_zip_fieldNames {β : Type} (items : List β) (f : String) :
    (fieldNames.zip items).any (·.1 == f) = (fieldNames.take items.length).any (· == f) := by
  match items with
  | [] => rfl
  | [_] => simp [fieldNames]
  | [_, _] => simp [fieldNames]
  | _ :: _ :: _ :: _ => simp [fieldNames]

/-- The fields that the `tokenizer` item fills are those it gives. -/
theorem Item.any_fills (it : Item) (f : String) :
    (it.fills fieldNames).any (·.1 == f) = it.givesField f := by
  match it with
  | .table es _ _ _ => simp [fills, givesField, Function.comp_def]
  | .value (.inline es _ _) => simp [fills, givesField, Function.comp_def]
  | .tables items => exact any_zip_fieldNames items f
  | .value (.array vs _) => simpa [fills, givesField] using any_zip_fieldNames (vs.map Item.value) f
  | .value (.string ..) | .value (.integer ..) | .value (.float ..) | .value (.boolean ..)
  | .value (.datetime ..) => rfl

theorem placing_eq_ok {α : Type} {span : Option Span} {x : Except ReadError α} {a : α} :
    placing span x = .ok a ↔ x = .ok a := by
  cases x <;> simp [placing]

theorem exists_of_map_eq_ok {α β : Type} {g : α → β} {x : Except ReadError α} {b : β}
    (h : (do pure (g (← x))) = Except.ok b) : ∃ a, x = .ok a ∧ b = g a := by
  cases x with
  | error e => cases h
  | ok a => exact ⟨a, rfl, (Except.ok.inj h).symm⟩

/-- A fold of a visit that succeeds met no refusal, and filled each field it was given. -/
theorem Visit.fold_eq_ok {σ : Type} {v : Visit} {fill : σ → String → Item → Except ReadError σ}
    {init s : σ} (h : v.fold fill init = .ok s) :
    v.stop = none ∧ v.fills.foldlM (fun s f => placing f.2.2 (fill s f.1 f.2.1)) init = .ok s := by
  unfold Visit.fold at h
  cases hf : v.fills.foldlM (fun s f => placing f.2.2 (fill s f.1 f.2.1)) init with
  | error e => simp [hf] at h; cases h
  | ok s' =>
    simp only [hf] at h
    cases hs : v.stop with
    | none => simp [hs] at h; exact ⟨rfl, congrArg _ h⟩
    | some e => simp [hs] at h; cases h

/-- A fold whose steps each set one field sets the fields of its steps. -/
theorem foldlM_sets {α : Type} (field : α → String)
    (step : Overrides → α → Except ReadError Overrides) (xs : List α)
    (hstep : ∀ x ∈ xs, ∀ o o', step o x = .ok o' →
      ∀ s, o'.sets s = (o.sets s || field x == s.fieldName))
    {o o' : Overrides} (h : xs.foldlM step o = .ok o') (s : Setting) :
    o'.sets s = (o.sets s || xs.any (field · == s.fieldName)) := by
  -- along the steps, from whatever layer the fold has reached
  induction xs generalizing o with
  | nil =>
    cases h
    simp
  | cons x xs ih =>
    rw [List.foldlM_cons] at h
    cases hx : step o x with
    | error e => simp [hx] at h; cases h
    | ok o₁ =>
      simp only [hx] at h
      have h₁ := hstep x List.mem_cons_self o o₁ hx s
      rw [ih (fun y hy => hstep y (List.mem_cons_of_mem x hy)) h, h₁, List.any_cons,
        Bool.or_assoc]

/-- A fold whose steps, on the list's items, ignore what came before: each step succeeds, and
the fold ends with its last step, or where it started when there are none. -/
theorem foldlM_of_const {α β ε : Type} {step : β → α → Except ε β} (g : α → Except ε β)
    {xs : List α} (hg : ∀ x ∈ xs, ∀ b, step b x = g x) {acc b : β}
    (h : xs.foldlM step acc = .ok b) :
    (∀ x ∈ xs, ∃ b', g x = .ok b') ∧
      match xs.getLast? with
      | some x => g x = .ok b
      | none => b = acc := by
  induction xs generalizing acc with
  | nil => cases h; exact ⟨by simp, rfl⟩
  | cons x rest ih =>
    rw [List.foldlM_cons, hg x List.mem_cons_self acc] at h
    cases hx : g x with
    | error e => simp [hx] at h; cases h
    | ok b₁ =>
      simp only [hx] at h
      obtain ⟨hall, hlast⟩ := ih (fun y hy => hg y (List.mem_cons_of_mem x hy)) h
      refine ⟨fun y hy => ?_, ?_⟩
      · rcases List.mem_cons.mp hy with rfl | hy
        · exact ⟨b₁, hx⟩
        · exact hall y hy
      · -- this step is the last one exactly when nothing follows it
        cases rest with
        | nil =>
          have hb : b = b₁ := hlast
          rw [hb]
          exact hx
        | cons y ys =>
          rw [List.getLast?_cons_cons]
          exact hlast

end Toml

namespace Config.Platform

variable (P : Platform)

/-- Setting a field from an item sets that field and keeps the others. -/
theorem setField_sets {o o' : Overrides} {f : String} {it : Toml.Item}
    (hf : f ∈ Toml.fieldNames) (h : P.setField o f it = .ok o') (s : Setting) :
    o'.sets s = (o.sets s || f == s.fieldName) := by
  unfold setField at h
  split at h
  · obtain ⟨c, -, rfl⟩ := Toml.exists_of_map_eq_ok h
    cases s <;> simp [Overrides.sets, Setting.fieldName]
  · obtain ⟨c, -, rfl⟩ := Toml.exists_of_map_eq_ok h
    cases s <;> simp [Overrides.sets, Setting.fieldName]
  · -- the only other field name is the trailing literal's
    have hf' : f = "trailing_literal" := by
      simp only [Toml.fieldNames, List.mem_cons, List.not_mem_nil, or_false] at hf
      simp_all
    obtain ⟨c, -, rfl⟩ := Toml.exists_of_map_eq_ok h
    subst hf'
    cases s <;> simp [Overrides.sets, Setting.fieldName]

variable {P}

/-- The `tokenizer` item, read on a lawful platform, fills only fields of the tokenizer table,
and sets the fields that it gives. -/
theorem tokenizerOverrides_sets (hP : P.Lawful) {it : Toml.Item} {o : Overrides}
    (h : P.tokenizerOverrides it = .ok o) :
    ((it.fills Toml.fieldNames).all fun f => Toml.fieldNames.contains f.1) = true ∧
      ∀ s, o.sets s = it.givesField s.fieldName := by
  obtain ⟨hstop, hfold⟩ := Toml.Visit.fold_eq_ok h
  have hpairs := hP.visit_fills _ _ it hstop
  have hknown := hP.visit_known _ _ it hstop
  -- each field filled is one the item gives, so one of the table's
  have hfilled : ∀ f ∈ (P.visit "TokenizerOverrides" Toml.fieldNames it).fills,
      f.1 ∈ Toml.fieldNames := fun f hf =>
    hknown (f.1, f.2.1) (by rw [← hpairs]; exact List.mem_map_of_mem hf)
  refine ⟨by simpa using hknown, fun s => ?_⟩
  rw [Toml.foldlM_sets (·.1) _ _ (fun f hf o o' hstep =>
      setField_sets P (hfilled f hf) (Toml.placing_eq_ok.mp hstep)) hfold s,
    Overrides.sets_empty, Bool.false_or, ← Toml.Item.any_fills, ← hpairs]
  simp [Toml.Visit.pairs, Function.comp_def]

/-- The entries of a document, read on a lawful platform, are the fields that its visit fills. -/
theorem entries_of_document (hP : P.Lawful) {root : Toml.Table}
    (hstop : (P.visit "ConfigFile" ["tokenizer"] root.toItem).stop = none) :
    ((P.visit "ConfigFile" ["tokenizer"] root.toItem).fills.map fun f => (f.1, f.2.1)) =
      root.entries.map (fun e => (e.1.name, e.2)) ∧
      ∀ f ∈ (P.visit "ConfigFile" ["tokenizer"] root.toItem).fills, f.1 = "tokenizer" := by
  have hpairs := hP.visit_fills _ _ _ hstop
  refine ⟨hpairs, fun f hf => ?_⟩
  have hmem : (f.1, f.2.1) ∈ root.toItem.fills ["tokenizer"] := by
    rw [← hpairs]
    exact List.mem_map_of_mem hf
  simpa using hP.visit_known _ _ _ hstop _ hmem

/-- A document that reads on a lawful platform is a list of `tokenizer` items that each read,
and it sets what its last one sets, or nothing when it has none. -/
theorem documentOverrides_entries (hP : P.Lawful) {root : Toml.Table} {o : Overrides}
    (h : P.documentOverrides root = .ok o) :
    (∀ e ∈ root.entries, e.1.name = "tokenizer" ∧ ∃ o', P.tokenizerOverrides e.2 = .ok o') ∧
      match root.entries.getLast? with
      | some e => P.tokenizerOverrides e.2 = .ok o
      | none => o = {} := by
  obtain ⟨hstop, hfold⟩ := Toml.Visit.fold_eq_ok h
  obtain ⟨hentries, htok⟩ := entries_of_document hP hstop
  -- every field filled is `tokenizer`, so each step reads its item afresh
  obtain ⟨heach, hlast⟩ := Toml.foldlM_of_const
    (fun f => Toml.placing f.2.2 (P.tokenizerOverrides f.2.1))
    (fun f hf b => by simp [htok f hf]) hfold
  refine ⟨fun e he => ?_, ?_⟩
  · -- each entry is a field filled
    have hmem : (e.1.name, e.2) ∈
        (P.visit "ConfigFile" ["tokenizer"] root.toItem).fills.map fun f => (f.1, f.2.1) := by
      rw [hentries]
      exact List.mem_map_of_mem he
    obtain ⟨f, hf, hfe⟩ := List.mem_map.mp hmem
    simp only [Prod.mk.injEq] at hfe
    obtain ⟨o', ho'⟩ := heach f hf
    rw [← hfe.1, ← hfe.2]
    exact ⟨htok f hf, o', Toml.placing_eq_ok.mp ho'⟩
  · -- the last entry is the last field filled
    have hl := congrArg List.getLast? hentries
    rw [List.getLast?_map, List.getLast?_map] at hl
    revert hlast hl
    cases (P.visit "ConfigFile" ["tokenizer"] root.toItem).fills.getLast? <;>
      cases root.entries.getLast? <;> intro hlast hl
    · exact hlast
    · cases hl
    · cases hl
    · simp only [Option.map_some, Option.some.injEq, Prod.mk.injEq] at hl
      dsimp only at hlast ⊢
      rw [← hl.2]
      exact Toml.placing_eq_ok.mp hlast

/-- A configuration document, read on a lawful platform, has only keys that name fields, and
sets the fields that its last entry, the `tokenizer` item, gives; a document with no entries
sets nothing. -/
theorem documentOverrides_sets (hP : P.Lawful) {root : Toml.Table} {o : Overrides}
    (h : P.documentOverrides root = .ok o) :
    root.keysKnown = true ∧ ∀ s, o.sets s = root.givesField s.fieldName := by
  obtain ⟨heach, hlast⟩ := documentOverrides_entries hP h
  refine ⟨List.all_eq_true.mpr fun e he => ?_, fun s => ?_⟩
  · obtain ⟨hname, o', ho'⟩ := heach e he
    simp only [hname, (tokenizerOverrides_sets hP ho').1, beq_self_eq_true, Bool.and_self]
  · unfold Toml.Table.givesField
    revert hlast
    cases root.entries.getLast? with
    | none => intro ho; simp [ho]
    | some e => intro ho; exact (tokenizerOverrides_sets hP ho).2 s

/-- A configuration file that reads, on a lawful platform, is a document with only keys that
name fields, and sets the fields that the document gives. -/
theorem fileLayer_sets (hP : P.Lawful) {fs : FileSystem} {path : String} {o : Overrides}
    (h : P.fileLayer fs path = .ok o) :
    ∃ text root, fs.readText path = .ok text ∧ P.parse text = .ok root ∧
      root.keysKnown = true ∧ ∀ s, o.sets s = root.givesField s.fieldName := by
  unfold fileLayer at h
  cases ht : fs.readText path with
  | error f => rw [ht] at h; cases h
  | ok text =>
    rw [ht] at h
    dsimp only at h
    unfold readOverrides at h
    cases hp : P.parse text with
    | error e => rw [hp] at h; cases h
    | ok root =>
      rw [hp] at h
      split at h
      · next o' hd =>
        cases h
        exact ⟨text, root, rfl, hp, documentOverrides_sets hP hd⟩
      · cases h

end Config.Platform

/-! ## The run -/

namespace Console

@[simp] theorem out_log (c : Console) (e : Log.Event) : (c.log e).out = c.out := by
  unfold log
  split <;> rfl

@[simp] theorem out_eprintln (c : Console) (s : String) : (c.eprintln s).out = c.out := rfl

/-- Log events go to standard error, however many there are. -/
theorem out_foldl_log {α : Type} (event : α → Log.Event) (xs : List α) (c : Console) :
    (xs.foldl (fun c x => c.log (event x)) c).out = c.out := by
  induction xs generalizing c with
  | nil => rfl
  | cons x xs ih => rw [List.foldl_cons, ih, out_log]

end Console

namespace Program

variable (P : Config.Platform)

/-- A run whose configuration fails to load prints nothing on its standard output and fails. -/
theorem runOn_out_of_load_error (w : World) {argv : List String} {inv : CommandLine.Invocation}
    (hinv : CommandLine.parse argv = .ok inv) {e : ConfigError}
    (he : P.load w.fs w.userHome w.vars inv.config = .error e) :
    (runOn P w argv).1.out = "" ∧ (runOn P w argv).2 = 1 := by
  unfold Config.Platform.load at he
  unfold runOn
  rw [hinv]
  dsimp only
  rcases hl : P.loadReporting w.fs w.userHome w.vars inv.config with ⟨merged, result⟩
  rw [hl] at he
  dsimp only at he ⊢
  subst he
  -- the merged files are logged, and the error reported, on standard error only
  exact ⟨by rw [Console.out_eprintln, Console.out_foldl_log], rfl⟩

/-- With `--show-config` a run whose configuration loads prints the options it would use. -/
theorem runOn_out_of_showConfig (w : World) {argv : List String} {inv : CommandLine.Invocation}
    (hinv : CommandLine.parse argv = .ok inv) (hshow : inv.showConfig = true) {c : Config}
    (hc : P.load w.fs w.userHome w.vars inv.config = .ok c) :
    (runOn P w argv).1.out = Config.toToml ⟨inv.applyTo c.tokenizer⟩ ∧ (runOn P w argv).2 = 0 := by
  unfold Config.Platform.load at hc
  unfold runOn
  rw [hinv]
  dsimp only
  rcases hl : P.loadReporting w.fs w.userHome w.vars inv.config with ⟨merged, result⟩
  rw [hl] at hc
  dsimp only at hc ⊢
  subst hc
  simp only [hshow, if_true, and_true]
  simp only [Console.print, Console.out_foldl_log]
  rfl

end Program

/-! ## The options of a run -/

/-- How the configuration of a run comes about on the platform `P`, once its command line reads
as `inv`. -/
structure Program.LayeredConfig (P : Config.Platform) (w : Program.World) (argv : List String)
    (inv : CommandLine.Invocation) : Prop where
  /-- Each field of the options comes from the highest layer that sets it: the flags, the
  variables, the file named on the command line, the project file and the user's file in the
  configuration directory, and else its default. Loading tries the layers from the user's file
  up, and fails with the first layer that fails. -/
  options : (fun c : Config => inv.applyTo c.tokenizer) <$>
      P.load w.fs w.userHome w.vars inv.config = (do
      let g ← P.globalLayer w.fs (Config.configDir? w.userHome w.vars)
      let p ← P.projectLayer w.fs
      let x ← P.extraLayer w.fs inv.config
      let v ← Config.variableLayer w.vars
      pure (Overrides.resolve [inv.flags, v, x, p, g]))
  /-- A run whose configuration fails prints nothing on its standard output, and fails. -/
  stops : ∀ e, P.load w.fs w.userHome w.vars inv.config = .error e →
    (Program.runOn P w argv).1.out = "" ∧ (Program.runOn P w argv).2 = 1
  /-- With `--show-config`, a run whose configuration loads prints the options it uses. -/
  shows : ∀ c, P.load w.fs w.userHome w.vars inv.config = .ok c → inv.showConfig = true →
    (Program.runOn P w argv).1.out = Config.toToml ⟨inv.applyTo c.tokenizer⟩
  /-- A file that reads has only keys that name fields, and sets exactly the fields that its
  `tokenizer` item gives. -/
  files : ∀ path o, P.fileLayer w.fs path = .ok o →
    ∃ text root, w.fs.readText path = .ok text ∧ P.parse text = .ok root ∧
      root.keysKnown = true ∧ ∀ s, o.sets s = root.givesField s.fieldName

theorem effective_options_layered (P : Config.Platform) (hP : P.Lawful) (w : Program.World)
    {argv : List String} {inv : CommandLine.Invocation}
    (hinv : CommandLine.parse argv = .ok inv) : Program.LayeredConfig P w argv inv where
  options := by
    rw [Config.Platform.load_eq_layers, hP.configDir_eq]
    simp only [map_bind, map_pure, CommandLine.Invocation.applyTo_resolve]
  stops _ he := Program.runOn_out_of_load_error P w hinv he
  shows _ hc hshow := (Program.runOn_out_of_showConfig P w hinv hshow hc).1
  files _ _ h := Config.Platform.fileLayer_sets hP h

/-- Results of reading are decided by comparing them. -/
instance decEqExcept {ε α : Type} [DecidableEq ε] [DecidableEq α] : DecidableEq (Except ε α)
  | .ok a, .ok b => if h : a = b then isTrue (h ▸ rfl) else isFalse (by rintro ⟨⟩; exact h rfl)
  | .error a, .error b =>
    if h : a = b then isTrue (h ▸ rfl) else isFalse (by rintro ⟨⟩; exact h rfl)
  | .ok _, .error _ => isFalse (by rintro ⟨⟩)
  | .error _, .ok _ => isFalse (by rintro ⟨⟩)

namespace Program

/-- A run whose file `x.toml` gives `tokenizer` as an array of one choice. -/
def sequenceWorld : World where
  fs := { cwd := ["work"],
          files := [(["work", "x.toml"], "tokenizer = [\"extended\"]\n".toUTF8.toList)] }

/-- A run with every layer present: the user's file under `HOME`, the project file, a file named
on the command line and a variable, each setting some fields, and a flag. -/
def layeredWorld : World where
  fs := { cwd := ["work"],
          files := [
            (["home", "u", ".config", "phec", "config.toml"],
              ("[tokenizer]\nwhitespace = \"extended\"\nreserved_words = \"strict\"\n" ++
                "trailing_literal = \"drop\"\n").toUTF8.toList),
            (["work", "phec.toml"], "[tokenizer]\nreserved_words = \"future-reserved\"\n".toUTF8.toList),
            (["work", "extra.toml"], "tokenizer = \x7b trailing_literal = \"flush\" \x7d\n".toUTF8.toList)] }
  vars := [("HOME", "/home/u"), ("PHEC_WHITESPACE", "faithful")]

end Program

/-- Three runs on the standard platform. With `x.toml` holding `tokenizer = ["extended"]`, the
array sets whitespace by position and the run shows it. With every layer present, whitespace
comes from the variable over the user's file, the reserved words from the flag over the project
file, and the trailing literal from the named file over the user's file. When a named file is
missing, the run prints nothing and fails. -/
theorem layered_config_three_runs :
    Config.Platform.standard.Lawful ∧
    (CommandLine.parse ["--show-config", "-c", "x.toml"] =
        .ok { showConfig := true, config := some "x.toml" } ∧
      Program.LayeredConfig .standard Program.sequenceWorld ["--show-config", "-c", "x.toml"]
        { showConfig := true, config := some "x.toml" } ∧
      Config.Platform.standard.fileLayer Program.sequenceWorld.fs "x.toml" =
        .ok { whitespace := some .extended } ∧
      (Program.run Program.sequenceWorld ["--show-config", "-c", "x.toml"]).1.out =
        Config.toToml ⟨{ whitespace := .extended }⟩) ∧
    (CommandLine.parse ["--show-config", "-c", "extra.toml", "--reserved", "strict"] =
        .ok { showConfig := true, config := some "extra.toml", reservedWords := some .strict } ∧
      Program.LayeredConfig .standard Program.layeredWorld
        ["--show-config", "-c", "extra.toml", "--reserved", "strict"]
        { showConfig := true, config := some "extra.toml", reservedWords := some .strict } ∧
      Config.configDir? none Program.layeredWorld.vars = some "/home/u/.config" ∧
      (Program.run Program.layeredWorld
          ["--show-config", "-c", "extra.toml", "--reserved", "strict"]).1.out =
        Config.toToml
          ⟨{ whitespace := .faithful, reservedWords := .strict, trailingLiteral := .flush }⟩) ∧
    (CommandLine.parse ["-c", "missing.toml"] = .ok { config := some "missing.toml" } ∧
      Program.LayeredConfig .standard Program.sequenceWorld ["-c", "missing.toml"]
        { config := some "missing.toml" } ∧
      (Program.run Program.sequenceWorld ["-c", "missing.toml"]).1.out = "") := by
  have hP := Config.Platform.standard_lawful
  -- the first run: the array's one item fills the first field
  have hseq : CommandLine.parse ["--show-config", "-c", "x.toml"] =
      .ok { showConfig := true, config := some "x.toml" } := by decide +kernel
  have seq := effective_options_layered .standard hP Program.sequenceWorld hseq
  have hseqLoad : Config.Platform.standard.load Program.sequenceWorld.fs none []
      (some "x.toml") = .ok ⟨{ whitespace := .extended }⟩ := by decide +kernel
  -- the second run: each field from a different layer
  have hlay : CommandLine.parse ["--show-config", "-c", "extra.toml", "--reserved", "strict"] =
      .ok { showConfig := true, config := some "extra.toml", reservedWords := some .strict } := by
    decide +kernel
  have lay := effective_options_layered .standard hP Program.layeredWorld hlay
  have hlayLoad : Config.Platform.standard.load Program.layeredWorld.fs none
      Program.layeredWorld.vars (some "extra.toml") =
      .ok ⟨{ whitespace := .faithful, reservedWords := .futureReserved, trailingLiteral := .flush }⟩ := by
    decide +kernel
  -- the third run: the named file cannot be read
  have hmiss : CommandLine.parse ["-c", "missing.toml"] = .ok { config := some "missing.toml" } := by
    decide +kernel
  have miss := effective_options_layered .standard hP Program.sequenceWorld hmiss
  have hmissLoad : Config.Platform.standard.load Program.sequenceWorld.fs none []
      (some "missing.toml") = .error (.io "missing.toml" .notFound) := by decide +kernel
  -- the program runs on the standard platform
  have hrun : ∀ w argv, Program.run w argv = Program.runOn .standard w argv := fun _ _ => rfl
  exact ⟨hP,
    ⟨hseq, seq, by decide +kernel, by rw [hrun, seq.shows _ hseqLoad rfl]; rfl⟩,
    ⟨hlay, lay, by decide +kernel, by rw [hrun, lay.shows _ hlayLoad rfl]; rfl⟩,
    ⟨hmiss, miss, by rw [hrun]; exact (miss.stops _ hmissLoad).1⟩⟩

end ScriptLex
