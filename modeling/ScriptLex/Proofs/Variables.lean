import ScriptLex.Proofs.Layers
/-!
# Options from variables

A variable sets an option when its name is `PHEC_` followed by the option's key, in lower case
and with `-` for each `_`; other variables are passed over. The values are read leniently, like
option texts. Applied in order, the variables leave each field with the choice of the last
variable that names it, and fields that no variable names as they were (`loadVariables_of_reads`).
The first value that names no choice stops the variables with an error that carries it as it
was given; the configuration is then left with the variables before it applied and nothing of
the one that failed (`loadVariables_of_invalid`).

Main statement: `loadVariables_last_wins`.
-/

namespace ScriptLex

/-! ## The variables that name settings -/

/-- The settings that variables name, with their values, in order: the variables whose name is
`PHEC_` followed by a text that is, in lower case and with `-` for each `_`, an option's key. -/
def namedByVariables (vars : List (String × String)) : List (Setting × String) :=
  vars.filterMap fun (name, value) =>
    if name.startsWith "PHEC_" then
      (Setting.ofKey? (String.ofList ((Text.toLower (name.toList.drop 5)).map fun c =>
        if c = '_' then '-' else c))).map (·, value)
    else none

theorem namedByVariables_cons (name value : String) (rest : List (String × String)) :
    namedByVariables ((name, value) :: rest) =
      match Config.settingOfVariable? name with
      | none => namedByVariables rest
      | some s => (s, value) :: namedByVariables rest := by
  have hkey : (fun c : Char => if c == '_' then '-' else c) = fun c => if c = '_' then '-' else c := by
    funext c
    by_cases h : c = '_' <;> simp [h]
  have hlength : "PHEC_".length = 5 := rfl
  unfold namedByVariables Config.settingOfVariable? Config.keyOfVariable? Config.variablePrefix
  rw [hkey]
  by_cases hp : name.startsWith "PHEC_" = true
  · simp only [List.filterMap_cons, hp, if_true, Option.bind_some, hlength]
    cases Setting.ofKey? _ <;> rfl
  · simp only [List.filterMap_cons, hp, Bool.false_eq_true, if_false, Option.bind_none]

/-- No option key holds a lower-case sigma. -/
theorem Setting.ofKey?_of_sigma {key : String} (h : 'σ' ∈ key.toList ∨ 'ς' ∈ key.toList) :
    Setting.ofKey? key = none := by
  unfold Setting.ofKey?
  split
  · revert h; decide
  · revert h; decide
  · revert h; decide
  · rfl

/-- The option that a variable names does not hang on how a capital sigma is lowered in context:
a name with one names no option, and any other name is lowered one character at a time. -/
theorem Config.settingOfVariable?_eq (name : String) :
    Config.settingOfVariable? name =
      if name.startsWith Config.variablePrefix &&
          !(name.toList.drop Config.variablePrefix.length).contains 'Σ' then
        Setting.ofKey? (String.ofList
          (((name.toList.drop Config.variablePrefix.length).flatMap Text.Char.lower).map
            fun c => if c == '_' then '-' else c))
      else none := by
  unfold Config.settingOfVariable? Config.keyOfVariable?
  by_cases hp : name.startsWith Config.variablePrefix = true
  · by_cases hs : 'Σ' ∈ name.toList.drop Config.variablePrefix.length
    · -- the sigma lowers to a letter that no key holds, and `-` for `_` keeps it
      have hmem : ∀ l ∈ ['σ', 'ς'], l ∈ Text.toLower (name.toList.drop Config.variablePrefix.length) →
          l ∈ ((Text.toLower (name.toList.drop Config.variablePrefix.length)).map
            fun c => if c == '_' then '-' else c) := by
        intro l hl h
        refine List.mem_map.mpr ⟨l, h, ?_⟩
        simp only [List.mem_cons, List.not_mem_nil, or_false] at hl
        rcases hl with rfl | rfl <;> rfl
      have hkey := @Setting.ofKey?_of_sigma (String.ofList ((Text.toLower
        (name.toList.drop Config.variablePrefix.length)).map fun c => if c == '_' then '-' else c))
      rw [String.toList_ofList] at hkey
      have hc : (name.toList.drop Config.variablePrefix.length).contains 'Σ' = true :=
        List.contains_iff_mem.mpr hs
      rw [if_pos hp, Option.bind_some, hc, Bool.not_true, Bool.and_false, if_neg Bool.false_ne_true]
      rcases Text.sigma_lowered hs [] with h | h
      · exact hkey (.inl (hmem 'σ' (by simp) h))
      · exact hkey (.inr (hmem 'ς' (by simp) h))
    · simp [hp, hs, Text.toLower, Text.lowerAfter_of_not_sigma hs]
  · simp [hp]

/-- Whether a text names a choice of the setting, so that it makes a layer. -/
def Setting.reads (s : Setting) (v : String) : Bool := (Overrides.ofSetting s v).toBool

/-- Every reader of a choice refuses a text with the setting and the text as it was given. -/
theorem readChoice_error {α : Type} {s : Setting} {all : List α} {name : α → String}
    {v : String} {e : InvalidOption} (h : readChoice s all name v = .error e) : e = ⟨s, v⟩ := by
  unfold readChoice at h
  split at h
  · cases h
  · cases h
    rfl

theorem Except.eq_error_of_bind_pure {ε α β : Type} {f : α → β} {x : Except ε α} {e : ε}
    (h : (x >>= fun a => pure (f a)) = .error e) : x = .error e := by
  cases x with
  | error e' => cases h; rfl
  | ok a => cases h

/-- A text that names no choice makes the error that carries the setting and the text as it was
given. -/
theorem Overrides.ofSetting_of_not_reads {s : Setting} {v : String} (h : s.reads v = false) :
    Overrides.ofSetting s v = .error ⟨s, v⟩ := by
  cases hl : Overrides.ofSetting s v with
  | ok l => simp [Setting.reads, hl, Except.toBool] at h
  | error e =>
    -- each setting's layer is its reader's result, mapped
    have he : e = ⟨s, v⟩ := by
      cases s <;> rw [Overrides.ofSetting] at hl <;>
        simp only [WhitespaceMode.read, ReservedSet.read, TrailingMode.read] at hl <;>
        exact readChoice_error (Except.eq_error_of_bind_pure hl)
    rw [he]

/-- A text that names a choice sets that one field. -/
theorem Options.assign_of_reads (o : Options) {s : Setting} {v : String} (h : s.reads v = true) :
    ∃ l, Overrides.ofSetting s v = .ok l ∧ o.assign s v = .ok (Config.apply ⟨o⟩ l).tokenizer := by
  rw [Options.assign_eq]
  cases hl : Overrides.ofSetting s v with
  | error e => simp [Setting.reads, hl, Except.toBool] at h
  | ok l => exact ⟨l, rfl, rfl⟩

/-! ## The last choice of each field -/

/-- The choice of the last text for the setting `s` that `read` reads. -/
def lastChoice {α : Type} (s : Setting) (read : String → Except InvalidOption α)
    (named : List (Setting × String)) : Option α :=
  (named.filterMap fun p => if p.1 = s then (read p.2).toOption else none).getLast?

/-- The options after texts for settings: each field holds the choice of the last text for its
setting, and keeps its value where there is none. -/
def Options.withLast (o : Options) (named : List (Setting × String)) : Options where
  whitespace := (lastChoice .whitespace WhitespaceMode.read named).getD o.whitespace
  reservedWords := (lastChoice .reservedWords ReservedSet.read named).getD o.reservedWords
  trailingLiteral := (lastChoice .trailingLiteral TrailingMode.read named).getD o.trailingLiteral

@[simp] theorem Options.withLast_nil (o : Options) : o.withLast [] = o := rfl

section LastChoice

variable {α : Type} {s : Setting} {read : String → Except InvalidOption α}

theorem lastChoice_cons_self {v : String} {m : α} (named : List (Setting × String))
    (h : read v = .ok m) :
    lastChoice s read ((s, v) :: named) = some ((lastChoice s read named).getD m) := by
  simp [lastChoice, h, Except.toOption, List.getLast?_cons]

theorem lastChoice_cons_ne {s' : Setting} (v : String) (named : List (Setting × String))
    (h : s' ≠ s) : lastChoice s read ((s', v) :: named) = lastChoice s read named := by
  simp [lastChoice, h]

end LastChoice

/-- A text for a setting lies below the later texts: the options that come of it are where the
later ones start. -/
theorem Options.withLast_cons {o o' : Options} {s : Setting} {v : String}
    (named : List (Setting × String)) (h : o.assign s v = .ok o') :
    o.withLast ((s, v) :: named) = o'.withLast named := by
  cases s with
  | whitespace =>
    obtain ⟨m, hm, rfl⟩ : ∃ m, WhitespaceMode.read v = .ok m ∧ o' = { o with whitespace := m } := by
      cases hr : WhitespaceMode.read v <;> simp_all [Options.assign, bind, Except.bind, pure, Except.pure]
    simp [withLast, lastChoice_cons_self _ hm, lastChoice_cons_ne]
  | reservedWords =>
    obtain ⟨m, hm, rfl⟩ : ∃ m, ReservedSet.read v = .ok m ∧ o' = { o with reservedWords := m } := by
      cases hr : ReservedSet.read v <;> simp_all [Options.assign, bind, Except.bind, pure, Except.pure]
    simp [withLast, lastChoice_cons_self _ hm, lastChoice_cons_ne]
  | trailingLiteral =>
    obtain ⟨m, hm, rfl⟩ : ∃ m, TrailingMode.read v = .ok m ∧ o' = { o with trailingLiteral := m } := by
      cases hr : TrailingMode.read v <;> simp_all [Options.assign, bind, Except.bind, pure, Except.pure]
    simp [withLast, lastChoice_cons_self _ hm, lastChoice_cons_ne]

/-! ## Applying the variables -/

namespace Config

/-! One variable: passed over, applied, or stopping the variables. -/

theorem loadVariables_cons_of_none (c : Config) {name value : String} (rest : List (String × String))
    (hs : settingOfVariable? name = none) :
    c.loadVariables ((name, value) :: rest) = c.loadVariables rest := by
  rw [loadVariables_cons, hs]

/-- A variable whose value reads is applied, and its choice lies below those of the variables
after it. -/
theorem loadVariables_cons_of_reads (c : Config) {name value : String} {s : Setting}
    (rest : List (String × String)) (hs : settingOfVariable? name = some s)
    (h : s.reads value = true) :
    ∃ c' : Config, c.loadVariables ((name, value) :: rest) = c'.loadVariables rest ∧
      ∀ named, c'.tokenizer.withLast named = c.tokenizer.withLast ((s, value) :: named) := by
  obtain ⟨l, hl, hassign⟩ := c.tokenizer.assign_of_reads h
  refine ⟨c.apply l, ?_, fun named => (Options.withLast_cons named hassign).symm⟩
  rw [loadVariables_cons, hs]
  dsimp only
  rw [hl]

theorem loadVariables_cons_of_not_reads (c : Config) {name value : String} {s : Setting}
    (rest : List (String × String)) (hs : settingOfVariable? name = some s)
    (h : s.reads value = false) :
    c.loadVariables ((name, value) :: rest) = (c, some ⟨s, value⟩) := by
  rw [loadVariables_cons, hs]
  dsimp only
  rw [Overrides.ofSetting_of_not_reads h]

/-- When every value reads, the variables leave each field with the choice of the last variable
that names it. The induction is on the variables, over any configuration they start from. -/
theorem loadVariables_of_reads (c : Config) (vars : List (String × String))
    (h : ∀ p ∈ namedByVariables vars, p.1.reads p.2 = true) :
    c.loadVariables vars = (⟨c.tokenizer.withLast (namedByVariables vars)⟩, none) := by
  induction vars generalizing c with
  | nil => rfl
  | cons var rest ih =>
    obtain ⟨name, value⟩ := var
    rw [namedByVariables_cons] at h ⊢
    cases hs : settingOfVariable? name with
    | none =>
      simp only [hs] at h ⊢
      rw [c.loadVariables_cons_of_none rest hs, ih c h]
    | some s =>
      simp only [hs] at h ⊢
      obtain ⟨c', hstep, hlast⟩ :=
        c.loadVariables_cons_of_reads rest hs (h (s, value) List.mem_cons_self)
      rw [hstep, ih c' (fun p hp => h p (List.mem_cons_of_mem _ hp)), hlast]

/-- The first value that names no choice stops the variables with its error, and leaves the
configuration with the variables before it applied. -/
theorem loadVariables_of_invalid (c : Config) (vars : List (String × String))
    {pre post : List (Setting × String)} {s : Setting} {v : String}
    (hnamed : namedByVariables vars = pre ++ (s, v) :: post)
    (hpre : ∀ p ∈ pre, p.1.reads p.2 = true) (hbad : s.reads v = false) :
    c.loadVariables vars = (⟨c.tokenizer.withLast pre⟩, some ⟨s, v⟩) := by
  induction vars generalizing c pre with
  | nil =>
    rw [show namedByVariables [] = [] from rfl] at hnamed
    simp at hnamed
  | cons var rest ih =>
    obtain ⟨name, value⟩ := var
    rw [namedByVariables_cons] at hnamed
    cases hs : settingOfVariable? name with
    | none =>
      simp only [hs] at hnamed
      rw [c.loadVariables_cons_of_none rest hs, ih c hnamed hpre]
    | some s' =>
      simp only [hs] at hnamed
      cases pre with
      | nil =>
        -- this variable is the first invalid one
        simp only [List.nil_append, List.cons.injEq, Prod.mk.injEq] at hnamed
        obtain ⟨⟨rfl, rfl⟩, -⟩ := hnamed
        rw [c.loadVariables_cons_of_not_reads rest hs hbad]
        rfl
      | cons p pre =>
        rw [List.cons_append] at hnamed
        obtain ⟨rfl, hrest⟩ := List.cons_eq_cons.mp hnamed
        obtain ⟨c', hstep, hlast⟩ := c.loadVariables_cons_of_reads rest hs (hpre _ List.mem_cons_self)
        rw [hstep, ih c' hrest (fun q hq => hpre q (List.mem_cons_of_mem _ hq)), hlast]

end Config

/-- Applying variables in order: the variables named `PHEC_` and an option's key (in lower case,
with `-` for `_`) set that option and all others are passed over. When every such value names a
choice, each field ends with the choice of the last variable that names it, and fields that none
names keep their value. Otherwise the first value that names no choice is the error, with its
setting and the value as it was given, and the configuration is left with exactly the variables
before it applied. -/
theorem loadVariables_last_wins (c : Config) (vars : List (String × String)) :
    ((∀ p ∈ namedByVariables vars, p.1.reads p.2 = true) →
      c.loadVariables vars = (⟨c.tokenizer.withLast (namedByVariables vars)⟩, none)) ∧
    (∀ pre s v post, namedByVariables vars = pre ++ (s, v) :: post →
      (∀ p ∈ pre, p.1.reads p.2 = true) → s.reads v = false →
      c.loadVariables vars = (⟨c.tokenizer.withLast pre⟩, some ⟨s, v⟩)) :=
  ⟨Config.loadVariables_of_reads c vars,
    fun _ _ _ _ hnamed hpre hbad => Config.loadVariables_of_invalid c vars hnamed hpre hbad⟩

end ScriptLex
