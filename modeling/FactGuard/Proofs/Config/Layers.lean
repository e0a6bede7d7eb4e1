import Mathlib.Data.List.Basic
import FactGuard.Config.Load
import FactGuard.Proofs.Success

/-!
# Proofs/Config/Layers — where a loaded setting was taken from

The layers of the settings are laid one on top of the other, all settings at once. For one setting that
comes to this: its sources are asked in the order of precedence, and the first that makes it is the one
it is taken from (`load_takes_first_source`).
-/

namespace FactGuard.Config

/-! ## Settings and their sources -/

/-- A setting. -/
inductive Setting
  | level
  | format
  | maxDepth
  | rejectCoreOverrides
  | cacheEnabled
  deriving DecidableEq, Repr

namespace Setting

/-- What a setting is set to. -/
abbrev Worth : Setting → Type
  | level => String
  | format => LogFormat
  | maxDepth => Nat
  | rejectCoreOverrides => Bool
  | cacheEnabled => Bool

/-- The value of a setting. -/
def value : (setting : Setting) → Config → setting.Worth
  | level => Config.level
  | format => Config.format
  | maxDepth => Config.maxDepth
  | rejectCoreOverrides => Config.rejectCoreOverrides
  | cacheEnabled => Config.cacheEnabled

/-- What a layer makes of a setting. -/
def made : (setting : Setting) → Patch → Option setting.Worth
  | level => Patch.level
  | format => Patch.format
  | maxDepth => Patch.maxDepth
  | rejectCoreOverrides => Patch.rejectCoreOverrides
  | cacheEnabled => Patch.cacheEnabled

/-- The variables that make a setting, the foremost first. -/
def names : Setting → List String
  | level => levelVariables
  | format => formatVariables
  | maxDepth => [depthVariable]
  | rejectCoreOverrides => [rejectVariable]
  | cacheEnabled => [cacheVariable]

/-- What the value of a variable is read as. -/
def parse : (setting : Setting) → String → String → Except Error setting.Worth
  | level => fun _ value => .ok value
  | format => fun _ value => parseFormat value
  | maxDepth => parseDepth
  | rejectCoreOverrides => parseSwitch
  | cacheEnabled => parseSwitch

end Setting

/-- Where a setting may be taken from. -/
inductive Source
  /-- What the caller sets. -/
  | caller
  | environment (name : String)
  | file (path : String)
  | builtIn
  deriving DecidableEq, Repr

/-- What a source makes of a setting. -/
def Source.makes (files : Files) (environment : Environment) (options : LoadOptions)
    (setting : Setting) : Source → Option setting.Worth
  | .caller => setting.made options.overrides.patch
  | .environment name =>
    (valueOf environment name).bind fun value => (setting.parse name value).toOption
  | .file path => (readPatch files environment path).toOption.bind setting.made
  | .builtIn => some (setting.value {})

/-- The sources of a setting in the order of precedence. -/
def Setting.sources (setting : Setting) (path : Option String) : List Source :=
  .caller :: setting.names.map .environment ++ path.toList.map .file ++ [.builtIn]

/-- **The source that a setting is taken from**: the first one that makes it. -/
def Setting.source? (files : Files) (environment : Environment) (options : LoadOptions)
    (setting : Setting) : Option Source :=
  (setting.sources (resolvePath files options.path)).find? fun source =>
    (source.makes files environment options setting).isSome

/-! ## The environment -/

section

variable {environment : Environment} {names : List String}

/-- The first of several variables that is set and not blank. -/
def firstSet? (environment : Environment) (names : List String) : Option String :=
  names.find? fun name => (valueOf environment name).isSome

/-- The value of a setting is that of the first of its variables that has one. -/
theorem firstValue_eq_bind :
    firstValue environment names = (firstSet? environment names).bind (valueOf environment) := by
  rw [firstValue, firstSet?]
  induction names with
  | nil => rfl
  | cons name rest ih =>
    rw [List.findSome?_cons, List.find?_cons, ih]
    cases h : valueOf environment name with
    | none => rfl
    | some value => exact h.symm

theorem firstValue_singleton (name : String) : firstValue environment [name] = valueOf environment name := by
  rw [firstValue, List.findSome?_cons]
  cases valueOf environment name <;> rfl

/-- The variable that is read is one of the setting, and has a value. -/
theorem exists_valueOf_of_firstSet? {name : String} (h : firstSet? environment names = some name) :
    name ∈ names ∧ ∃ value, valueOf environment name = some value := by
  have hset := (List.find?_eq_some_iff_append.mp h).1
  exact ⟨List.mem_of_find?_eq_some h, Option.isSome_iff_exists.mp hset⟩

/-- A value that is read is that of the first variable, if there is any. -/
theorem cases_of_readValue {α : Type} {parse : String → String → Except Error α}
    {read : String → Except Error α} {result : Option α} (hparse : ∀ name ∈ names, parse name = read)
    (h : readValue (firstValue environment names) read = .ok result) :
    (firstSet? environment names = none ∧ result = none) ∨
      ∃ name value worth, firstSet? environment names = some name ∧
        valueOf environment name = some value ∧ parse name value = .ok worth ∧
        result = some worth := by
  rw [firstValue_eq_bind] at h
  cases hfirst : firstSet? environment names with
  | none =>
    rw [hfirst] at h
    exact .inl ⟨rfl, (Except.ok.inj h).symm⟩
  | some name =>
    obtain ⟨hname, value, hvalue⟩ := exists_valueOf_of_firstSet? hfirst
    rw [hfirst, Option.bind_some, hvalue, readValue, map_eq_ok_iff] at h
    obtain ⟨worth, hworth, rfl⟩ := h
    exact .inr ⟨name, value, worth, rfl, hvalue, hparse name hname ▸ hworth, rfl⟩

theorem readValue_ok (value : Option String) : readValue value Except.ok = .ok value := by
  cases value <;> rfl

/-- **The environment layer makes a setting by its first variable** that is set and not blank. -/
theorem made_environmentPatch {patch : Patch} (h : environmentPatch environment = .ok patch)
    (setting : Setting) :
    (firstSet? environment setting.names = none ∧ setting.made patch = none) ∨
      ∃ name value worth, firstSet? environment setting.names = some name ∧
        valueOf environment name = some value ∧ setting.parse name value = .ok worth ∧
        setting.made patch = some worth := by
  simp only [environmentPatch, bind_eq_ok_iff, pure_eq_ok_iff, ← firstValue_singleton] at h
  obtain ⟨format, hformat, maxDepth, hdepth, reject, hreject, cache, hcache, rfl⟩ := h
  cases setting with
  | level => exact cases_of_readValue (fun _ _ => rfl) (readValue_ok _)
  | format => exact cases_of_readValue (fun _ _ => rfl) hformat
  | maxDepth => exact cases_of_readValue (List.forall_mem_singleton.mpr rfl) hdepth
  | rejectCoreOverrides => exact cases_of_readValue (List.forall_mem_singleton.mpr rfl) hreject
  | cacheEnabled => exact cases_of_readValue (List.forall_mem_singleton.mpr rfl) hcache

end

/-! ## All layers -/

section

variable {files : Files} {environment : Environment} {options : LoadOptions} {setting : Setting}

/-- A patch decides a setting if it makes it, and leaves it alone otherwise. -/
theorem value_apply (setting : Setting) (config : Config) (patch : Patch) :
    setting.value (config.apply patch) = (setting.made patch).getD (setting.value config) := by
  cases setting <;> rfl

/-- The file layer makes what the file that is found makes. -/
theorem made_filePatch {patch : Patch} (h : filePatch files environment options = .ok patch)
    (setting : Setting) :
    setting.made patch = (resolvePath files options.path).bind fun path =>
      (Source.file path).makes files environment options setting := by
  rw [filePatch] at h
  cases hpath : resolvePath files options.path with
  | none =>
    rw [hpath] at h
    by_cases hrequired : options.requireFile
    · simp [hrequired] at h
    · simp only [hrequired] at h
      cases h
      cases setting <;> rfl
  | some path =>
    rw [hpath] at h
    simp only at h
    rw [Option.bind_some, Source.makes, h]
    rfl

theorem makes_caller :
    Source.caller.makes files environment options setting = setting.made options.overrides.patch := rfl

theorem makes_builtIn :
    Source.builtIn.makes files environment options setting = some (setting.value {}) := rfl

/-- A variable without a value makes nothing. -/
theorem makes_environment_of_unset {name : String} (h : valueOf environment name = none) :
    (Source.environment name).makes files environment options setting = none := by
  rw [Source.makes, h, Option.bind_none]

/-- A variable makes what its value is parsed as. -/
theorem makes_environment_of_parse {name value : String} {worth : setting.Worth}
    (h : valueOf environment name = some value) (hparse : setting.parse name value = .ok worth) :
    (Source.environment name).makes files environment options setting = some worth := by
  rw [Source.makes, h, Option.bind_some, hparse]
  rfl

/-- The first variable that makes a setting is the first that is set and not blank. -/
theorem find?_makes_environment {surroundings : Patch}
    (h : environmentPatch environment = .ok surroundings) :
    (setting.names.find? fun name =>
      ((Source.environment name).makes files environment options setting).isSome) =
      firstSet? environment setting.names := by
  obtain ⟨hfirst, -⟩ | ⟨name, value, worth, hfirst, hvalue, hparse, -⟩ :=
    made_environmentPatch h setting
  · rw [hfirst, List.find?_eq_none]
    intro name hname
    have hunset : valueOf environment name = none := by
      simpa using List.find?_eq_none.mp hfirst name hname
    simp [makes_environment_of_unset hunset]
  · rw [hfirst, List.find?_eq_some_iff_append]
    obtain ⟨-, before, after, hnames, hbefore⟩ := List.find?_eq_some_iff_append.mp hfirst
    refine ⟨by simp [makes_environment_of_parse hvalue hparse], before, after, hnames, ?_⟩
    intro earlier hearlier
    have hunset : valueOf environment earlier = none := by simpa using hbefore earlier hearlier
    simp [makes_environment_of_unset hunset]

/-- The sources are asked layer by layer. -/
theorem source?_eq {surroundings : Patch} (h : environmentPatch environment = .ok surroundings) :
    setting.source? files environment options =
      if (setting.made options.overrides.patch).isSome then some .caller
      else match firstSet? environment setting.names with
        | some name => some (.environment name)
        | none =>
          match resolvePath files options.path with
          | some path =>
            if ((Source.file path).makes files environment options setting).isSome then
              some (.file path)
            else some .builtIn
          | none => some .builtIn := by
  rw [Setting.source?, Setting.sources, List.append_assoc, List.cons_append, List.find?_cons,
    List.find?_append, List.find?_map, Function.comp_def, find?_makes_environment h]
  by_cases hcaller : (setting.made options.overrides.patch).isSome
  · simp [makes_caller, hcaller]
  · cases hfirst : firstSet? environment setting.names with
    | some name => simp [makes_caller, hcaller]
    | none =>
      cases hpath : resolvePath files options.path with
      | none => simp [makes_caller, makes_builtIn, hcaller]
      | some path =>
        by_cases hfile : ((Source.file path).makes files environment options setting).isSome
        · simp [makes_caller, hcaller, hfile]
        · simp [makes_caller, makes_builtIn, hcaller, hfile]

/-- **Settings are taken from the first source that makes them**, in the order of precedence. -/
theorem load_takes_first_source {config : Config} (h : load files environment options = .ok config)
    (setting : Setting) :
    ∃ source, setting.source? files environment options = some source ∧
      source.makes files environment options setting = some (setting.value config) := by
  simp only [load, bind_eq_ok_iff, pure_eq_ok_iff] at h
  obtain ⟨file, hfile, surroundings, hsurroundings, -, -, rfl⟩ := h
  rw [source?_eq hsurroundings, value_apply, value_apply, value_apply, made_filePatch hfile]
  cases hcaller : setting.made options.overrides.patch with
  | some worth => exact ⟨.caller, rfl, hcaller⟩
  | none =>
    obtain ⟨hfirst, hmade⟩ | ⟨name, value, worth, hfirst, hvalue, hparse, hmade⟩ :=
      made_environmentPatch hsurroundings setting
    · rw [hfirst, hmade]
      cases hpath : resolvePath files options.path with
      | none => exact ⟨.builtIn, rfl, rfl⟩
      | some path =>
        cases hworth : (Source.file path).makes files environment options setting with
        | some worth => exact ⟨.file path, by simp [hworth], by simp [hworth]⟩
        | none => exact ⟨.builtIn, by simp [hworth], by simp [hworth, makes_builtIn]⟩
    · rw [hfirst, hmade]
      exact ⟨.environment name, rfl, makes_environment_of_parse hvalue hparse⟩

end

end FactGuard.Config
