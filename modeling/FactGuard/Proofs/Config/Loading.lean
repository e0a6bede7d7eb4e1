import FactGuard.Proofs.Config.Layers

/-!
# Proofs/Config/Loading — when settings can be loaded, and what they are

Loading succeeds if and only if all its layers can be read and the outcome is valid
(`loading_follows_layers`): a setting that another layer replaces may be invalid, but a variable that is
asked must be readable. Each layer that can fail is an iff with a relation (`filePatch_eq_ok_iff`,
`environmentPatch_eq_ok_iff`), and so is the outcome, setting by setting (`settled_iff`).
-/

namespace FactGuard.Config

/-! ## The file layer -/

/-- **The settings file that is selected**: the one that is named, or else the first candidate, if it is
there. -/
inductive Selects (files : Files) : Option String → String → Prop
  | named {path : String} (there : files.present path = true) : Selects files (some path) path
  | first (there : files.present "leadguard.toml" = true) : Selects files none "leadguard.toml"
  | second (absent : files.present "leadguard.toml" = false)
    (there : files.present "config/leadguard.toml" = true) : Selects files none "config/leadguard.toml"

/-- **What the file layer supplies.** -/
inductive Supplies (files : Files) (environment : Environment) (options : LoadOptions) : Patch → Prop
  /-- The file that is selected is read, its mentions of variables are filled in, and it is parsed. -/
  | file {path raw : String} {text : List Char} {patch : Patch}
    (selected : Selects files options.path path) (read : files.read path = .ok raw)
    (filled : interpolate environment raw.toList = .ok text)
    (parsed : Patch.ofString (String.ofList text) = .ok patch) : Supplies files environment options patch
  /-- There is no file, and none is required. -/
  | nothing (absent : ∀ path, ¬Selects files options.path path) (optional : options.requireFile = false) :
    Supplies files environment options {}

section

variable {files : Files} {environment : Environment} {options : LoadOptions}

/-- A file that is named is found if it is present, and without a name the first candidate that is. -/
theorem resolvePath_eq_some_iff {explicit : Option String} {path : String} :
    resolvePath files explicit = some path ↔ Selects files explicit path := by
  cases explicit with
  | some named =>
    rw [resolvePath, Option.ite_none_right_eq_some]
    constructor
    · rintro ⟨hthere, ⟨⟩⟩
      exact .named hthere
    · rintro ⟨hthere⟩
      exact ⟨hthere, rfl⟩
  | none =>
    rw [resolvePath, candidates, List.find?_cons, List.find?_singleton]
    constructor
    · intro h
      split at h
      · next hfirst =>
        cases h
        exact .first hfirst
      · next hfirst =>
        obtain ⟨hsecond, ⟨⟩⟩ := Option.ite_none_right_eq_some.mp h
        exact .second hfirst hsecond
    · rintro (hthere | hthere | ⟨habsent, hthere⟩)
      · rw [hthere]
      · rw [habsent, if_pos hthere]

theorem resolvePath_eq_none_iff {explicit : Option String} :
    resolvePath files explicit = none ↔ ∀ path, ¬Selects files explicit path := by
  simp only [Option.eq_none_iff_forall_ne_some, ne_eq, resolvePath_eq_some_iff]

/-- A file gives a patch if it can be read, its mentions can be replaced and the result can be
parsed. -/
theorem readPatch_eq_ok_iff {path : String} {patch : Patch} :
    readPatch files environment path = .ok patch ↔
      ∃ raw text, files.read path = .ok raw ∧ interpolate environment raw.toList = .ok text ∧
        Patch.ofString (String.ofList text) = .ok patch := by
  simp only [readPatch, bind_eq_ok_iff, mapError_eq_ok_iff, exists_and_left]

/-- **The patch of the file** is that of the file selected, or the empty one where none is and none
is needed. -/
theorem filePatch_eq_ok_iff {patch : Patch} :
    filePatch files environment options = .ok patch ↔ Supplies files environment options patch := by
  rw [filePatch]
  cases hpath : resolvePath files options.path with
  | none =>
    have habsent := resolvePath_eq_none_iff.mp hpath
    cases hrequired : options.requireFile with
    | true =>
      refine iff_of_false (fun herror => by cases herror) ?_
      rintro (⟨hselected, -⟩ | ⟨-, hoptional⟩)
      · exact habsent _ hselected
      · exact Bool.false_ne_true (hoptional.symm.trans hrequired)
    | false =>
      constructor
      · rintro ⟨⟩
        exact .nothing habsent hrequired
      · rintro (⟨hselected, -⟩ | -)
        · exact absurd hselected (habsent _)
        · rfl
  | some path =>
    have hselected := resolvePath_eq_some_iff.mp hpath
    simp only [readPatch_eq_ok_iff]
    constructor
    · rintro ⟨raw, text, hread, hfilled, hparsed⟩
      exact .file hselected hread hfilled hparsed
    · rintro (⟨hselected', hread, hfilled, hparsed⟩ | ⟨habsent, -⟩)
      · obtain rfl := Option.some.inj (hpath.symm.trans (resolvePath_eq_some_iff.mpr hselected'))
        exact ⟨_, _, hread, hfilled, hparsed⟩
      · exact absurd hselected (habsent path)

end

/-! ## The environment layer -/

/-- The variables that a setting is read from, the foremost first. -/
def Setting.variables : Setting → List String
  | level => ["LEADGUARD_LOGGING_LEVEL", "LEADGUARD_LOG_LEVEL"]
  | format => ["LEADGUARD_LOGGING_FORMAT", "LEADGUARD_LOG_FORMAT"]
  | maxDepth => ["LEADGUARD_GUARDS_MAX_DEPTH"]
  | rejectCoreOverrides => ["LEADGUARD_REGISTRY_REJECT_CORE_OVERRIDES"]
  | cacheEnabled => ["LEADGUARD_REGISTRY_CACHE_ENABLED"]

/-- **The value that the environment gives a setting**: it stands in a variable of the setting, it is not
blank, and the variables before that one are not set, or blank. -/
def Setting.Given (environment : Environment) (setting : Setting) (value : String) : Prop :=
  ∃ before name after, setting.variables = before ++ name :: after ∧
    (environment.text? name = some value ∧ ¬Text.isAllBlank value) ∧
    ∀ earlier ∈ before, ∀ blank, environment.text? earlier = some blank → Text.isAllBlank blank

/-- **What a setting is read as** where the value of a variable makes it. -/
def Setting.Reads : (setting : Setting) → String → setting.Worth → Prop
  | level => fun value worth => worth = value
  | format => fun value worth => Text.asciiLower (Text.trimmed value) = worth.key
  | maxDepth => fun value worth => Text.word? value.toList = some worth
  | rejectCoreOverrides => fun value worth => value = if worth then "true" else "false"
  | cacheEnabled => fun value worth => value = if worth then "true" else "false"

theorem lookup_table_eq_some_iff {name : String} {format : LogFormat} :
    LogFormat.table.lookup name = some format ↔ name = format.key := by
  constructor
  · intro h
    obtain ⟨_, _, htable, -⟩ := List.lookup_eq_some_iff.mp h
    have hmem : (name, format) ∈ LogFormat.table := htable ▸ List.mem_append_right _ List.mem_cons_self
    obtain ⟨_, -, ⟨⟩⟩ := List.mem_map.mp hmem
    rfl
  · rintro rfl
    cases format <;> rfl

/-- Formats are named in any case of ASCII letters, and with blanks around them. -/
theorem parseFormat_eq_ok_iff {value : String} {format : LogFormat} :
    parseFormat value = .ok format ↔ Text.asciiLower (Text.trimmed value) = format.key := by
  rw [parseFormat, ← lookup_table_eq_some_iff]
  cases LogFormat.table.lookup (Text.asciiLower (Text.trimmed value)) <;> simp

/-- A depth is read without trimming, so a blank beside the digits makes it no number. -/
theorem parseDepth_eq_ok_iff {name value : String} {depth : Nat} :
    parseDepth name value = .ok depth ↔ Text.word? value.toList = some depth := by
  rw [parseDepth]
  cases Text.word? value.toList <;> simp

/-- A switch is one of two words, to the letter. -/
theorem parseSwitch_eq_ok_iff {name value : String} {worth : Bool} :
    parseSwitch name value = .ok worth ↔ value = if worth then "true" else "false" := by
  rw [parseSwitch]
  split
  · next htrue => cases worth <;> simp [htrue]
  · next htrue =>
    split
    · next hfalse => cases worth <;> simp [hfalse]
    · next hfalse => cases worth <;> simp [htrue, hfalse]

/-- **The text of a variable is accepted exactly if it reads as a value of the setting**, and as
that value. -/
theorem Setting.parse_eq_ok_iff (setting : Setting) (name : String) {value : String}
    {worth : setting.Worth} : setting.parse name value = .ok worth ↔ setting.Reads value worth := by
  cases setting with
  | level =>
    rw [parse, Except.ok.injEq]
    exact eq_comm
  | format =>
    rw [parse, Reads]
    exact parseFormat_eq_ok_iff
  | maxDepth =>
    rw [parse, Reads]
    exact parseDepth_eq_ok_iff
  | rejectCoreOverrides | cacheEnabled =>
    rw [parse, Reads]
    exact parseSwitch_eq_ok_iff

/-- No text reads as two values of a setting. -/
theorem Setting.Reads.unique {setting : Setting} {value : String} {worth other : setting.Worth}
    (h : setting.Reads value worth) (h' : setting.Reads value other) : other = worth :=
  Except.ok.inj (((setting.parse_eq_ok_iff "").mpr h').symm.trans ((setting.parse_eq_ok_iff "").mpr h))

section

variable {environment : Environment} {surroundings : Patch}

/-- A value that is absent is read as absent, and one that is there must be accepted. -/
theorem readValue_parse_eq_ok_iff (setting : Setting) (name : String) {value : Option String}
    {result : Option setting.Worth} :
    readValue value (setting.parse name) = .ok result ↔ Option.Rel setting.Reads value result := by
  cases value with
  | none =>
    rw [readValue, Except.ok.injEq]
    constructor
    · rintro rfl
      exact .none
    · rintro ⟨⟩
      rfl
  | some value =>
    rw [readValue, map_eq_ok_iff]
    constructor
    · rintro ⟨worth, hworth, rfl⟩
      exact .some ((setting.parse_eq_ok_iff name).mp hworth)
    · rintro (hreads | -)
      exact ⟨_, (setting.parse_eq_ok_iff name).mpr hreads, rfl⟩

theorem Setting.names_eq (setting : Setting) : setting.names = setting.variables := by
  cases setting <;> rfl

/-- The value that is found is the one the environment gives the setting. -/
theorem firstValue_eq_some_iff {setting : Setting} {value : String} :
    firstValue environment setting.names = some value ↔ setting.Given environment value := by
  simp only [firstValue, List.findSome?_eq_some_iff, valueOf, Option.filter_eq_some_iff,
    Option.filter_eq_none_iff, Setting.names_eq, Bool.not_eq_true', Bool.not_eq_false,
    Bool.not_eq_true, Setting.Given]

theorem firstValue_eq_none_iff {setting : Setting} :
    firstValue environment setting.names = none ↔ ∀ value, ¬setting.Given environment value := by
  simp only [Option.eq_none_iff_forall_ne_some, ne_eq, firstValue_eq_some_iff]

/-- **The environment layer makes each setting on its own**: what the first of its variables that is set
and not blank is read as, and nothing if there is none. -/
theorem environmentPatch_eq_ok_iff :
    environmentPatch environment = .ok surroundings ↔
      ∀ setting : Setting,
        Option.Rel setting.Reads (firstValue environment setting.names) (setting.made surroundings) := by
  have hlevel {value result : Option String} : value = result ↔
      Option.Rel (Setting.Reads .level) value result := by
    rw [← readValue_parse_eq_ok_iff .level "", ← Except.ok.injEq, ← readValue_ok]
    exact Iff.rfl
  have hformat {value : Option String} {result : Option LogFormat} :
      readValue value parseFormat = .ok result ↔ Option.Rel (Setting.Reads .format) value result :=
    readValue_parse_eq_ok_iff .format ""
  have hdepth {value : Option String} {result : Option Nat} :
      readValue value (parseDepth depthVariable) = .ok result ↔
        Option.Rel (Setting.Reads .maxDepth) value result :=
    readValue_parse_eq_ok_iff .maxDepth depthVariable
  have hreject {value : Option String} {result : Option Bool} :
      readValue value (parseSwitch rejectVariable) = .ok result ↔
        Option.Rel (Setting.Reads .rejectCoreOverrides) value result :=
    readValue_parse_eq_ok_iff .rejectCoreOverrides rejectVariable
  have hcache {value : Option String} {result : Option Bool} :
      readValue value (parseSwitch cacheVariable) = .ok result ↔
        Option.Rel (Setting.Reads .cacheEnabled) value result :=
    readValue_parse_eq_ok_iff .cacheEnabled cacheVariable
  simp only [environmentPatch, bind_eq_ok_iff, pure_eq_ok_iff, hformat, hdepth, hreject, hcache,
    ← firstValue_singleton]
  constructor
  · rintro ⟨format, hformat, maxDepth, hdepth, reject, hreject, cache, hcache, rfl⟩ setting
    cases setting with
    | level => exact hlevel.mp rfl
    | format => exact hformat
    | maxDepth => exact hdepth
    | rejectCoreOverrides => exact hreject
    | cacheEnabled => exact hcache
  · intro h
    have hsame : firstValue environment levelVariables = surroundings.level := hlevel.mpr (h .level)
    exact ⟨surroundings.format, h .format, surroundings.maxDepth, h .maxDepth,
      surroundings.rejectCoreOverrides, h .rejectCoreOverrides, surroundings.cacheEnabled,
      h .cacheEnabled, by rw [hsame]⟩

/-- Where the environment gives a value, its patch makes what the value reads as. -/
theorem made_of_given (h : environmentPatch environment = .ok surroundings) {setting : Setting}
    {value : String} (hgiven : setting.Given environment value) :
    ∃ worth, setting.Reads value worth ∧ setting.made surroundings = some worth := by
  have hread := environmentPatch_eq_ok_iff.mp h setting
  rw [firstValue_eq_some_iff.mpr hgiven] at hread
  generalize setting.made surroundings = made at hread
  cases hread with
  | some hreads => exact ⟨_, hreads, rfl⟩

/-- Where it gives none, its patch makes nothing. -/
theorem made_of_silent (h : environmentPatch environment = .ok surroundings) {setting : Setting}
    (hsilent : ∀ value, ¬setting.Given environment value) : setting.made surroundings = none := by
  have hread := environmentPatch_eq_ok_iff.mp h setting
  rw [firstValue_eq_none_iff.mpr hsilent] at hread
  generalize setting.made surroundings = made at hread
  cases hread
  rfl

/-- An absent value is always related to an absent result. -/
theorem exists_rel_iff {α β : Type} {r : α → β → Prop} {value : Option α} :
    (∃ made, Option.Rel r value made) ↔ ∀ a, value = some a → ∃ b, r a b := by
  cases value with
  | none => exact iff_of_true ⟨none, .none⟩ nofun
  | some a =>
    constructor
    · rintro ⟨_, hr | -⟩ _ ⟨⟩
      exact ⟨_, hr⟩
    · intro h
      obtain ⟨b, hr⟩ := h a rfl
      exact ⟨some b, .some hr⟩

/-- **The environment layer can be read** if each variable that is asked can. -/
theorem exists_environmentPatch_iff :
    (∃ surroundings, environmentPatch environment = .ok surroundings) ↔
      ∀ (setting : Setting) value, setting.Given environment value →
        ∃ worth, setting.Reads value worth := by
  simp only [environmentPatch_eq_ok_iff, ← firstValue_eq_some_iff, ← exists_rel_iff]
  constructor
  · rintro ⟨surroundings, h⟩ setting
    exact ⟨_, h setting⟩
  · intro h
    choose made hmade using h
    refine ⟨⟨made .level, made .format, made .maxDepth, made .rejectCoreOverrides, made .cacheEnabled⟩,
      fun setting => ?_⟩
    cases setting <;> exact hmade _

end

/-! ## All layers -/

/-- **What a setting comes to.** -/
inductive Setting.Settled (environment : Environment) (overrides : Overrides) (file : Patch)
    (setting : Setting) : setting.Worth → Prop
  /-- The caller has the last word. -/
  | caller {worth : setting.Worth} (chosen : setting.made overrides.patch = some worth) :
    Settled environment overrides file setting worth
  /-- The environment comes before the file. -/
  | environment {value : String} {worth : setting.Worth} (free : setting.made overrides.patch = none)
    (given : setting.Given environment value) (reads : setting.Reads value worth) :
    Settled environment overrides file setting worth
  | file {worth : setting.Worth} (free : setting.made overrides.patch = none)
    (silent : ∀ value, ¬setting.Given environment value) (made : setting.made file = some worth) :
    Settled environment overrides file setting worth
  | builtIn (free : setting.made overrides.patch = none)
    (silent : ∀ value, ¬setting.Given environment value) (unmade : setting.made file = none) :
    Settled environment overrides file setting (setting.value {})

section

variable {files : Files} {environment : Environment} {options : LoadOptions} {config : Config}

/-- **The outcome of the layers comes down to one condition for each setting.** -/
theorem settled_iff {file surroundings : Patch} {overrides : Overrides}
    (h : environmentPatch environment = .ok surroundings) {setting : Setting} {worth : setting.Worth} :
    setting.Settled environment overrides file worth ↔
      worth = setting.value (((({} : Config).apply file).apply surroundings).apply overrides.patch) := by
  rw [value_apply, value_apply, value_apply]
  constructor
  · rintro (hchosen | ⟨hfree, hgiven, hreads⟩ | ⟨hfree, hsilent, hmade⟩ | ⟨hfree, hsilent, hunmade⟩)
    · rw [hchosen, Option.getD_some]
    · obtain ⟨worth', hreads', hsurroundings⟩ := made_of_given h hgiven
      rw [hfree, hsurroundings, Option.getD_none, Option.getD_some]
      exact hreads'.unique hreads
    · rw [hfree, made_of_silent h hsilent, hmade, Option.getD_none, Option.getD_none, Option.getD_some]
    · rw [hfree, made_of_silent h hsilent, hunmade, Option.getD_none, Option.getD_none, Option.getD_none]
  · rintro rfl
    cases hcaller : setting.made overrides.patch with
    | some chosen => exact .caller hcaller
    | none =>
      by_cases hgiven : ∃ value, setting.Given environment value
      · obtain ⟨value, hgiven⟩ := hgiven
        obtain ⟨worth, hreads, hsurroundings⟩ := made_of_given h hgiven
        rw [hsurroundings]
        exact .environment hcaller hgiven hreads
      · have hsilent := not_exists.mp hgiven
        rw [made_of_silent h hsilent]
        cases hfile : setting.made file with
        | some made => exact .file hcaller hsilent hfile
        | none => exact .builtIn hcaller hsilent hfile

/-- A configuration is accepted if its level is known and its depth is between the bounds. -/
theorem check_eq_ok_iff :
    config.check = .ok () ↔
      Text.asciiLower (Text.trimmed config.level) ∈ levels ∧ 1 ≤ config.maxDepth ∧
        config.maxDepth ≤ 512 := by
  have hlevel : isLevel config.level = true ↔ Text.asciiLower (Text.trimmed config.level) ∈ levels :=
    List.contains_iff_mem
  rw [check, ← hlevel]
  cases isLevel config.level with
  | false => exact iff_of_false nofun (fun h => Bool.false_ne_true h.1)
  | true =>
    have hdepth : config.maxDepth = 0 ∨ depthCeiling < config.maxDepth ↔
        ¬(1 ≤ config.maxDepth ∧ config.maxDepth ≤ 512) := by
      rw [depthCeiling]
      omega
    simp [hdepth]

/-- **Loading**: three patches that can be had, applied in order, and a check of the result. -/
theorem load_eq_ok_iff :
    load files environment options = .ok config ↔
      ∃ file surroundings, Supplies files environment options file ∧
        environmentPatch environment = .ok surroundings ∧ config.check = .ok () ∧
        config = ((({} : Config).apply file).apply surroundings).apply options.overrides.patch := by
  simp only [load, bind_eq_ok_iff, pure_eq_ok_iff, filePatch_eq_ok_iff]
  constructor
  · rintro ⟨file, hfile, surroundings, hsurroundings, ⟨⟩, hcheck, rfl⟩
    exact ⟨file, surroundings, hfile, hsurroundings, hcheck, rfl⟩
  · rintro ⟨file, surroundings, hfile, hsurroundings, hcheck, rfl⟩
    exact ⟨file, hfile, surroundings, hsurroundings, (), hcheck, rfl⟩

/-- **Loading follows the layers.** It succeeds if and only if the file layer supplies something, each
setting that the environment gives can be read, and the level and the depth that the layers come to are
valid. Then each setting is what the layers make of it, whatever they make of the others. -/
theorem loading_follows_layers (files : Files) (environment : Environment) (options : LoadOptions) :
    ((∃ config, load files environment options = .ok config) ↔
      ∃ file, Supplies files environment options file ∧
        (∀ (setting : Setting) value, setting.Given environment value → ∃ worth, setting.Reads value worth) ∧
        (∃ level, Setting.level.Settled environment options.overrides file level ∧
          Text.asciiLower (Text.trimmed level) ∈ levels) ∧
        ∃ depth, Setting.maxDepth.Settled environment options.overrides file depth ∧
          1 ≤ depth ∧ depth ≤ 512) ∧
    ∀ config, load files environment options = .ok config →
      ∃ file, Supplies files environment options file ∧ ∀ (setting : Setting) worth,
        setting.Settled environment options.overrides file worth ↔ worth = setting.value config := by
  refine ⟨?_, fun config h => ?_⟩
  · constructor
    · rintro ⟨config, h⟩
      obtain ⟨file, surroundings, hfile, hsurroundings, hcheck, rfl⟩ := load_eq_ok_iff.mp h
      obtain ⟨hlevel, hdepth⟩ := check_eq_ok_iff.mp hcheck
      exact ⟨file, hfile, exists_environmentPatch_iff.mp ⟨surroundings, hsurroundings⟩,
        ⟨_, (settled_iff hsurroundings).mpr rfl, hlevel⟩, _, (settled_iff hsurroundings).mpr rfl, hdepth⟩
    · rintro ⟨file, hfile, hread, ⟨level, hlevel, hknown⟩, depth, hdepth, hrange⟩
      obtain ⟨surroundings, hsurroundings⟩ := exists_environmentPatch_iff.mpr hread
      obtain rfl := (settled_iff hsurroundings).mp hlevel
      obtain rfl := (settled_iff hsurroundings).mp hdepth
      exact ⟨_, load_eq_ok_iff.mpr
        ⟨file, surroundings, hfile, hsurroundings, check_eq_ok_iff.mpr ⟨hknown, hrange⟩, rfl⟩⟩
  · obtain ⟨file, surroundings, hfile, hsurroundings, -, rfl⟩ := load_eq_ok_iff.mp h
    exact ⟨file, hfile, fun setting worth => settled_iff hsurroundings⟩

end

/-- A directory where the foremost settings file is a link to itself, which leads nowhere, and the other
one takes the level from a variable. -/
def levelFile : Files where
  present path := path = "config/leadguard.toml"
  read path :=
    if path = "config/leadguard.toml" then .ok "[logging]\nlevel = \"$\x7bLEVEL\x7d\"\n"
    else if path = "leadguard.toml" then .error .linkLoop
    else .error .notFound

/-- An environment where that level is not known, and a blank stands before the level to take. -/
def loudEnvironment : Environment := .ofTexts
  [("LEVEL", "loud"), ("LEADGUARD_LOGGING_LEVEL", " "), ("LEADGUARD_LOG_LEVEL", "Debug")]

/-- The link is passed over, the level comes from the variable and the depth from the caller. -/
theorem load_levelFile :
    load levelFile loudEnvironment { overrides := { maxDepth := some 12 } } =
      .ok { level := "Debug", maxDepth := 12 } :=
  toOption_eq_some_iff.mp (by decide +kernel)

/-- A level that is not known may be replaced, but not a depth that cannot be read. -/
theorem loading_follows_layers_levelFile :
    (∃ file, Supplies levelFile loudEnvironment { overrides := { maxDepth := some 12 } } file ∧
      ∀ (setting : Setting) worth, setting.Settled loudEnvironment { maxDepth := some 12 } file worth ↔
        worth = setting.value { level := "Debug", maxDepth := 12 }) ∧
      ¬∃ config, load (.ofTexts []) (.ofTexts [("LEADGUARD_GUARDS_MAX_DEPTH", "many")])
        { overrides := { maxDepth := some 12 } } = .ok config := by
  refine ⟨(loading_follows_layers _ _ _).2 _ load_levelFile, fun h => ?_⟩
  obtain ⟨-, -, hread, -⟩ := (loading_follows_layers _ _ _).1.mp h
  obtain ⟨depth, hdepth⟩ := hread .maxDepth "many" ⟨[], _, [], rfl, ⟨rfl, by decide⟩, nofun⟩
  have hbad : Text.word? "many".toList = none := by decide
  exact absurd (hbad.symm.trans hdepth) nofun

end FactGuard.Config
