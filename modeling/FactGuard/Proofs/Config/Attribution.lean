import FactGuard.Config.Attribution
import FactGuard.Proofs.Config.Layers

/-!
# Proofs/Config/Attribution — what the listing says of where settings come from

The listing attributes settings on its own: it looks at which variables are set, and at the settings
file as it is written. The source it names is the one that loading took the setting from, save in four
cases (`Misled`): the caller set it, the foremost of its variables is blank or holds no text, or the file
has an entry as it is written where it makes no setting as it is read, or the other way round. A file
without mentions of variables is read as it is written, but for sections that are arrays
(`attribution_names_source_iff`).
-/

namespace FactGuard.Config

/-! ## The listing -/

namespace Setting

/-- The settings in the order of the listing. -/
def all : List Setting := [level, format, maxDepth, rejectCoreOverrides, cacheEnabled]

/-- The section of the settings file that a setting stands in, and its key there. -/
def address : Setting → String × String
  | level => ("logging", "level")
  | format => ("logging", "format")
  | maxDepth => ("guards", "max_depth")
  | rejectCoreOverrides => ("registry", "reject_core_overrides")
  | cacheEnabled => ("registry", "cache_enabled")

/-- The value of a setting in the listing. -/
def shown (config : Config) : Setting → String
  | level => config.level
  | format => config.format.title
  | maxDepth => toString config.maxDepth
  | rejectCoreOverrides => toString config.rejectCoreOverrides
  | cacheEnabled => toString config.cacheEnabled

/-- The line of a setting. -/
def line (config : Config) (setting : Setting) : Line :=
  ⟨[setting.address.1, setting.address.2], setting.shown config, setting.names⟩

/-- The foremost of the variables of a setting that is set, to a text or not. -/
def foremost? (environment : Environment) (setting : Setting) : Option String :=
  setting.names.find? fun name => (environment name).isSet

/-- The origin that the listing attributes a setting to. -/
def attributed (files : Files) (environment : Environment) (explicit : Option String)
    (setting : Setting) : Origin :=
  (setting.line {}).origin environment (resolvePath files explicit)
    (writtenDocument files (resolvePath files explicit))

end Setting

/-- The source that an origin stands for. -/
def Origin.source : Origin → Source
  | environment name => .environment name
  | file path => .file path
  | builtIn => .builtIn

/-- The settings file as it is written has an entry for a setting. -/
def Written (files : Files) (explicit : Option String) (setting : Setting) : Prop :=
  ∃ document, writtenDocument files (resolvePath files explicit) = some document ∧
    hasEntry document [setting.address.1, setting.address.2] = true

/-- The settings file as it is read makes a setting. -/
def Made (files : Files) (environment : Environment) (options : LoadOptions) (setting : Setting) :
    Prop :=
  ∃ path, resolvePath files options.path = some path ∧
    ((Source.file path).makes files environment options setting).isSome

/-- **Why the listing names a source that a setting was not taken from.** -/
inductive Misled (files : Files) (environment : Environment) (options : LoadOptions)
    (setting : Setting) : Prop
  /-- The caller set it; the listing knows nothing of callers. -/
  | caller (set : (setting.made options.overrides.patch).isSome)
  /-- The foremost of its variables that is set is blank, which loading counts as not set. -/
  | blank {name content : String} (foremost : setting.foremost? environment = some name)
      (held : environment name = .text content) (blank : Text.isAllBlank content = true)
  /-- The foremost of its variables that is set holds no text; loading asks for texts. -/
  | bytes {name : String} (foremost : setting.foremost? environment = some name)
      (held : environment name = .bytes)
  /-- The settings file is not read as it is written. -/
  | file {path : String} (found : resolvePath files options.path = some path)
      (unset : ∀ name ∈ setting.names, environment name = .unset)
      (differs : ¬(Written files options.path setting ↔ Made files environment options setting))

/-! ## Attribution -/

section

variable {files : Files} {environment : Environment} {options : LoadOptions} {setting : Setting}
  {explicit : Option String}

/-- A variable that is set is named as the source. -/
theorem attributed_of_set {name : String} (h : setting.foremost? environment = some name) :
    setting.attributed files environment explicit = .environment name := by
  have hforemost : ((setting.line {}).names.find? fun name => (environment name).isSet) = some name := h
  unfold Setting.attributed Line.origin
  rw [hforemost]

/-- With no variable set, the file is named if it has an entry as it is written. -/
theorem attributed_of_unset (h : setting.foremost? environment = none) :
    (∃ path, resolvePath files explicit = some path ∧ Written files explicit setting ∧
        setting.attributed files environment explicit = .file path) ∨
      ¬Written files explicit setting ∧
        setting.attributed files environment explicit = .builtIn := by
  have hforemost : ((setting.line {}).names.find? fun name => (environment name).isSet) = none := h
  have hkeys : (setting.line {}).keys = [setting.address.1, setting.address.2] := rfl
  unfold Setting.attributed Line.origin Written
  rw [hforemost, hkeys]
  cases hpath : resolvePath files explicit with
  | none => exact .inr ⟨by simp [writtenDocument], rfl⟩
  | some path =>
    cases hdocument : writtenDocument files (some path) with
    | none => exact .inr ⟨by simp, rfl⟩
    | some document =>
      by_cases hentry : hasEntry document [setting.address.1, setting.address.2] = true
      · exact .inl ⟨path, rfl, ⟨document, rfl, hentry⟩, if_pos hentry⟩
      · exact .inr ⟨by simpa using hentry, if_neg hentry⟩

/-- A setting that neither the caller nor a variable makes is taken from the file or is built in. -/
theorem source?_of_unset {surroundings : Patch} (h : environmentPatch environment = .ok surroundings)
    (hcaller : ¬(setting.made options.overrides.patch).isSome)
    (hfirst : firstSet? environment setting.names = none) :
    (∃ path, resolvePath files options.path = some path ∧ Made files environment options setting ∧
        setting.source? files environment options = some (.file path)) ∨
      ¬Made files environment options setting ∧
        setting.source? files environment options = some .builtIn := by
  unfold Made
  rw [source?_eq h, if_neg hcaller, hfirst]
  cases hpath : resolvePath files options.path with
  | none => exact .inr ⟨by simp, rfl⟩
  | some path =>
    by_cases hmade : ((Source.file path).makes files environment options setting).isSome
    · exact .inl ⟨path, rfl, ⟨path, rfl, hmade⟩, if_pos hmade⟩
    · exact .inr ⟨by simpa using hmade, if_neg hmade⟩

theorem valueOf_of_unset {name : String} (h : environment name = .unset) :
    valueOf environment name = none := by
  rw [valueOf, Environment.text?, h]
  rfl

/-- A variable that is set has no value if it is blank or holds no text. -/
theorem valueOf_eq_none_iff {name : String} (hset : (environment name).isSet = true) :
    valueOf environment name = none ↔
      (∃ content, environment name = .text content ∧ Text.isAllBlank content = true) ∨
        environment name = .bytes := by
  rw [valueOf, Environment.text?]
  cases hheld : environment name with
  | unset => exact absurd (hset.symm.trans (Variable.isSet_eq_false_iff.mpr hheld)) nofun
  | text content => simp [Variable.text?]
  | bytes => simp [Variable.text?]

/-- If the foremost variable that is set has a value, then it is the one that is read. -/
theorem firstSet?_of_set {name value : String} (h : setting.foremost? environment = some name)
    (hvalue : valueOf environment name = some value) :
    firstSet? environment setting.names = some name := by
  obtain ⟨-, before, after, hnames, hbefore⟩ := List.find?_eq_some_iff_append.mp h
  refine List.find?_eq_some_iff_append.mpr ⟨by rw [hvalue]; rfl, before, after, hnames, ?_⟩
  intro earlier hearlier
  have hunset : environment earlier = .unset := by simpa using hbefore earlier hearlier
  simp [valueOf_of_unset hunset]

/-- Without a file, nothing is written and nothing made. -/
theorem exists_path_of_differs
    (h : ¬(Written files options.path setting ↔ Made files environment options setting)) :
    ∃ path, resolvePath files options.path = some path := by
  cases hpath : resolvePath files options.path with
  | some path => exact ⟨path, rfl⟩
  | none =>
    refine absurd (iff_of_false ?_ ?_) h
    · rintro ⟨document, hdocument, -⟩
      rw [hpath] at hdocument
      cases hdocument
    · rintro ⟨path, hfound, -⟩
      rw [hpath] at hfound
      cases hfound

/-- With a variable set, the listing is misled if loading does not take its value. -/
theorem misled_iff_of_set {name : String} (hcaller : ¬(setting.made options.overrides.patch).isSome)
    (hforemost : setting.foremost? environment = some name) :
    Misled files environment options setting ↔ valueOf environment name = none := by
  have hset : (environment name).isSet = true := (List.find?_eq_some_iff_append.mp hforemost).1
  rw [valueOf_eq_none_iff hset]
  constructor
  · rintro (hcaller' | ⟨hforemost', hheld, hblank⟩ | ⟨hforemost', hheld⟩ | ⟨-, hunset, -⟩)
    · exact absurd hcaller' hcaller
    · obtain rfl := Option.some.inj (hforemost.symm.trans hforemost')
      exact .inl ⟨_, hheld, hblank⟩
    · obtain rfl := Option.some.inj (hforemost.symm.trans hforemost')
      exact .inr hheld
    · rw [hunset name (List.mem_of_find?_eq_some hforemost)] at hset
      cases hset
  · rintro (⟨content, hheld, hblank⟩ | hheld)
    · exact .blank hforemost hheld hblank
    · exact .bytes hforemost hheld

/-- With no variable set, the listing is misled if the file is not read as it is written. -/
theorem misled_iff_of_unset (hcaller : ¬(setting.made options.overrides.patch).isSome)
    (hunset : ∀ name ∈ setting.names, environment name = .unset) :
    Misled files environment options setting ↔
      ¬(Written files options.path setting ↔ Made files environment options setting) := by
  constructor
  · rintro (hcaller' | ⟨hforemost, hheld, -⟩ | ⟨hforemost, hheld⟩ | ⟨-, -, hdiffers⟩)
    · exact absurd hcaller' hcaller
    · rw [hunset _ (List.mem_of_find?_eq_some hforemost)] at hheld
      cases hheld
    · rw [hunset _ (List.mem_of_find?_eq_some hforemost)] at hheld
      cases hheld
    · exact hdiffers
  · intro hdiffers
    obtain ⟨path, hfound⟩ := exists_path_of_differs hdiffers
    exact .file hfound hunset hdiffers

/-- **The listing names the source of a setting unless it is misled.** -/
theorem source?_eq_attributed_iff {surroundings : Patch}
    (h : environmentPatch environment = .ok surroundings) :
    setting.source? files environment options =
        some (setting.attributed files environment options.path).source ↔
      ¬Misled files environment options setting := by
  by_cases hcaller : (setting.made options.overrides.patch).isSome
  · rw [source?_eq h, if_pos hcaller]
    refine iff_of_false ?_ (not_not.mpr (.caller hcaller))
    cases setting.attributed files environment options.path <;> simp [Origin.source]
  cases hset : setting.foremost? environment with
  | some name =>
    rw [attributed_of_set hset, Origin.source, misled_iff_of_set hcaller hset]
    cases hvalue : valueOf environment name with
    | some value =>
      rw [source?_eq h, if_neg hcaller, firstSet?_of_set hset hvalue]
      exact iff_of_true rfl nofun
    | none =>
      -- Whatever the setting is taken from, it is not a variable that is blank.
      refine iff_of_false ?_ (not_not.mpr rfl)
      cases hfirst : firstSet? environment setting.names with
      | some other =>
        rw [source?_eq h, if_neg hcaller, hfirst]
        rintro ⟨⟩
        obtain ⟨-, value, hother⟩ := exists_valueOf_of_firstSet? hfirst
        exact Option.some_ne_none value (hother.symm.trans hvalue)
      | none =>
        obtain ⟨path, -, -, hsource⟩ | ⟨-, hsource⟩ := source?_of_unset h hcaller hfirst
        · exact hsource ▸ nofun
        · exact hsource ▸ nofun
  | none =>
    have hunset : ∀ name ∈ setting.names, environment name = .unset := by
      simpa using List.find?_eq_none.mp hset
    have hfirst : firstSet? environment setting.names = none :=
      List.find?_eq_none.mpr fun name hname => by simp [valueOf_of_unset (hunset name hname)]
    rw [misled_iff_of_unset hcaller hunset, not_not]
    -- Both sides pass on to the file, the one as it is written and the other as it is read.
    obtain ⟨path, hpath, hwritten, hattributed⟩ | ⟨hwritten, hattributed⟩ :=
      attributed_of_unset hset <;>
    obtain ⟨path', hpath', hmade, hsource⟩ | ⟨hmade, hsource⟩ :=
      source?_of_unset h hcaller hfirst <;>
    rw [hattributed, hsource]
    · obtain rfl := Option.some.inj (hpath.symm.trans hpath')
      exact iff_of_true rfl (iff_of_true hwritten hmade)
    · exact iff_of_false nofun fun hiff => hmade (hiff.mp hwritten)
    · exact iff_of_false nofun fun hiff => hwritten (hiff.mpr hmade)
    · exact iff_of_true rfl (iff_of_false hwritten hmade)

end

/-! ## Files that are read as they are written -/

section

open Toml (Value)

/-- A file mentions no variable and holds a document without tables that stand for dates. -/
def Literal (files : Files) (path : String) (document : Value) : Prop :=
  ∃ raw, files.read path = .ok raw ∧ mentionedNames raw.toList = [] ∧
    Toml.ofString raw = .ok document ∧ document.plain? = some document

/-- A text that mentions no variable is left as it is. -/
theorem eq_of_interpolate {environment : Environment} {text result : List Char}
    (h : interpolate environment text = .ok result) (hnames : mentionedNames text = []) :
    result = text := by
  fun_induction interpolate environment text generalizing result with
  | case1 =>
    cases h
    rfl
  | case2 => cases h
  | case3 => cases h
  | case4 rest name rest' hmention =>
    rw [mentionedNames] at hnames
    split at hnames <;> simp_all
  | case5 c rest hplain ih =>
    rw [mentionedNames] at hnames
    · simp only [bind_eq_ok_iff, pure_eq_ok_iff] at h
      obtain ⟨tail, htail, rfl⟩ := h
      rw [ih htail hnames]
    · exact hplain

theorem hasEntry_pair (document : Value) (name key : String) :
    hasEntry document [name, key] =
      ((document.entry? name).bind (Value.entry? key)).isSome := by
  simp [hasEntry, List.foldlM]

/-- A setting of the file has a value in the patch exactly if the table has the key. -/
theorem isSome_of_setting {α : Type} {settings : String → Option Value} {key : String}
    {take : String → Value → Except Toml.Fault α} {result : Option α}
    (h : Patch.setting settings key take = .ok result) :
    result.isSome = (settings key).isSome := by
  rw [Patch.setting] at h
  cases hvalue : settings key with
  | none =>
    rw [hvalue] at h
    cases h
    rfl
  | some value =>
    rw [hvalue, map_eq_ok_iff] at h
    obtain ⟨worth, -, rfl⟩ := h
    rfl

/-- A section makes the settings that it has entries for; an array makes all of them. -/
theorem isSome_sectionSettings {name key : String} {keys : List String} {content : Option Value}
    {settings : String → Option Value} (hkey : key ∈ keys)
    (h : Patch.sectionSettings name keys content = .ok settings) :
    (settings key).isSome ↔
      (content.bind (Value.entry? key)).isSome ∨ ∃ items, content = some (.array items) := by
  unfold Patch.sectionSettings at h
  split at h
  · cases h
    simp
  · cases h
    simp [Value.entry?]
  · next items =>
    by_cases hshort : items.length < keys.length
    · rw [if_pos hshort] at h
      cases h
    · rw [if_neg hshort] at h
      cases h
      refine iff_of_true ?_ (.inr ⟨items, rfl⟩)
      rw [← List.map_fst_zip (Nat.not_lt.mp hshort), List.mem_map] at hkey
      obtain ⟨entry, hentry, rfl⟩ := hkey
      exact List.lookup_isSome_iff.mpr ⟨entry, hentry, beq_self_eq_true entry.1⟩
  · cases h
    simp [Value.entry?]
  · cases h

/-- What a setting comes to in a document. -/
theorem isSome_of_section {α : Type} {document : Value} {name key : String} {keys : List String}
    {settings : String → Option Value} {take : String → Value → Except Toml.Fault α}
    {result : Option α} (hkey : key ∈ keys)
    (hsection : Patch.sectionSettings name keys (document.entry? name) = .ok settings)
    (h : Patch.setting settings key take = .ok result) :
    result.isSome ↔
      hasEntry document [name, key] = true ∨
        ∃ items, document.entry? name = some (.array items) := by
  rw [isSome_of_setting h, hasEntry_pair]
  exact isSome_sectionSettings hkey hsection

/-- **A document makes the settings that it has entries for**, and those of sections that are arrays. -/
theorem isSome_made_ofDocument {document : Value} {patch : Patch}
    (h : Patch.ofDocument document = .ok patch) (setting : Setting) :
    (setting.made patch).isSome ↔
      hasEntry document [setting.address.1, setting.address.2] = true ∨
        ∃ items, document.entry? setting.address.1 = some (.array items) := by
  simp only [Patch.ofDocument, bind_eq_ok_iff, pure_eq_ok_iff] at h
  obtain ⟨logging, hlogging, guards, hguards, registry, hregistry, level, hlevel, format, hformat,
    maxDepth, hdepth, reject, hreject, cache, hcache, rfl⟩ := h
  cases setting with
  | level => exact isSome_of_section (by simp [Setting.address]) hlogging hlevel
  | format => exact isSome_of_section (by simp [Setting.address]) hlogging hformat
  | maxDepth => exact isSome_of_section (by simp [Setting.address]) hguards hdepth
  | rejectCoreOverrides => exact isSome_of_section (by simp [Setting.address]) hregistry hreject
  | cacheEnabled => exact isSome_of_section (by simp [Setting.address]) hregistry hcache

/-- A literal file is read as it is written, but for sections that are arrays. -/
theorem written_iff_made_iff {files : Files} {environment : Environment} {options : LoadOptions}
    {path : String} {document : Value} {patch : Patch}
    (hpath : resolvePath files options.path = some path) (hliteral : Literal files path document)
    (h : readPatch files environment path = .ok patch) (setting : Setting) :
    (Written files options.path setting ↔ Made files environment options setting) ↔
      ∀ items, document.entry? setting.address.1 ≠ some (.array items) := by
  obtain ⟨raw, hraw, hnames, hparse, hplain⟩ := hliteral
  have hdocument : Patch.ofDocument document = .ok patch := by
    simp only [readPatch, hraw, bind_eq_ok_iff, mapError_eq_ok_iff] at h
    obtain ⟨_, ⟨⟩, text, htext, hpatch⟩ := h
    rw [eq_of_interpolate htext hnames, String.ofList_toList, Patch.ofString, hparse] at hpatch
    exact hpatch
  have hwritten : Written files options.path setting ↔
      hasEntry document [setting.address.1, setting.address.2] = true := by
    have hread : writtenDocument files (resolvePath files options.path) = some document := by
      rw [hpath]
      simp [writtenDocument, hraw, hparse, hplain, Except.toOption]
    simp [Written, hread]
  have hmade : Made files environment options setting ↔ (setting.made patch).isSome := by
    simp [Made, hpath, Source.makes, h, Except.toOption]
  rw [hwritten, hmade, isSome_made_ofDocument hdocument]
  constructor
  · intro hsame items hitems
    have hentry := hsame.mpr (.inr ⟨items, hitems⟩)
    rw [hasEntry_pair, hitems] at hentry
    cases hentry
  · intro harray
    refine ⟨.inl, fun hmade => hmade.resolve_right ?_⟩
    rintro ⟨items, hitems⟩
    exact harray items hitems

end

/-! ## The listing as a whole -/

/-- The listing has a line for each setting, with the origin that it is attributed to. -/
theorem report_eq (config : Config) (files : Files) (environment : Environment)
    (explicit : Option String) :
    config.report files environment explicit = String.intercalate "\n" (
      "effective config (source precedence: flag > env > file > default):" ::
      Setting.all.map fun setting =>
        (setting.line config).text (setting.attributed files environment explicit)) := rfl

/-- **The listing names the source of each setting, unless it is misled.** A setting has one source, and
its value is what that source makes of it; a file that is found misleads the listing, if it is literal,
only about sections that are arrays. -/
theorem attribution_names_source_iff {files : Files} {environment : Environment}
    {options : LoadOptions} {config : Config} (h : load files environment options = .ok config) :
    (config.report files environment options.path = String.intercalate "\n" (
      "effective config (source precedence: flag > env > file > default):" ::
      Setting.all.map fun setting =>
        (setting.line config).text (setting.attributed files environment options.path))) ∧
    ∀ setting : Setting,
      (∃ source, setting.source? files environment options = some source ∧
        source.makes files environment options setting = some (setting.value config)) ∧
      (setting.source? files environment options =
          some (setting.attributed files environment options.path).source ↔
        ¬Misled files environment options setting) ∧
      ∀ path document, resolvePath files options.path = some path → Literal files path document →
        ((Written files options.path setting ↔ Made files environment options setting) ↔
          ∀ items, document.entry? setting.address.1 ≠ some (.array items)) := by
  have hload := h
  simp only [load, bind_eq_ok_iff] at hload
  obtain ⟨file, hfile, surroundings, hsurroundings, -⟩ := hload
  refine ⟨report_eq config files environment options.path, fun setting =>
    ⟨load_takes_first_source h setting, source?_eq_attributed_iff hsurroundings, ?_⟩⟩
  intro path document hpath hliteral
  rw [filePatch, hpath] at hfile
  exact written_iff_made_iff hpath hliteral hfile setting

/-- A directory with nothing but a settings file that turns off the cache. -/
def cacheOff : Files := .ofTexts [("leadguard.toml", "[registry]\ncache_enabled = false\n")]

/-- The document of the file that turns off the cache. -/
def cacheOffDocument : Toml.Value := .table [("registry", .table [("cache_enabled", .boolean false)])]

/-- Whether a document is that one. -/
def isCacheOffDocument : Toml.Value → Bool
  | .table [("registry", .table [("cache_enabled", .boolean false)])] => true
  | _ => false

theorem ofString_cacheOff :
    Toml.ofString "[registry]\ncache_enabled = false\n" = .ok cacheOffDocument := by
  refine eq_ok_of_check isCacheOffDocument (fun document h => ?_) (by decide +kernel)
  unfold isCacheOffDocument at h
  split at h
  · rfl
  · cases h

/-- Nothing in the file is interpolated, so it is read as it stands. -/
theorem literal_cacheOff : Literal cacheOff "leadguard.toml" cacheOffDocument :=
  ⟨"[registry]\ncache_enabled = false\n", rfl, by decide +kernel, ofString_cacheOff, rfl⟩

/-- The level is loaded from the variable and the switch of the cache from the file. -/
theorem load_cacheOff :
    load cacheOff (.ofTexts [("LEADGUARD_LOG_LEVEL", "debug")]) {} =
      .ok { level := "debug", cacheEnabled := false } :=
  toOption_eq_some_iff.mp (by decide +kernel)

/-- With the cache from the file and the level from a variable, the listing names all sources. -/
theorem attribution_names_source_iff_cacheOff :
    load cacheOff (.ofTexts [("LEADGUARD_LOG_LEVEL", "debug")]) {} =
        .ok { level := "debug", cacheEnabled := false } ∧
      ∀ setting : Setting,
        setting.source? cacheOff (.ofTexts [("LEADGUARD_LOG_LEVEL", "debug")]) {} =
          some (setting.attributed cacheOff (.ofTexts [("LEADGUARD_LOG_LEVEL", "debug")]) none).source := by
  refine ⟨load_cacheOff, fun setting => ?_⟩
  obtain ⟨-, hnamed, hfile⟩ := (attribution_names_source_iff load_cacheOff).2 setting
  refine hnamed.mpr ?_
  rintro (hcaller | ⟨-, hheld, hblank⟩ | ⟨-, hheld⟩ | ⟨-, -, hdiffers⟩)
  · cases setting <;> cases hcaller
  · obtain ⟨_, _, hsplit, -⟩ := List.lookup_eq_some_iff.mp (Variable.ofText?_eq_text_iff.mp hheld)
    obtain ⟨-, ⟨⟩⟩ | ⟨-, ⟨⟩⟩ := List.append_eq_singleton_iff.mp hsplit.symm
    exact absurd hblank (by decide)
  · exact Variable.ofText?_ne_bytes _ hheld
  · refine hdiffers ((hfile _ _ rfl literal_cacheOff).mpr fun items hitems => ?_)
    cases setting <;> cases hitems

/-- A variable that holds a blank is named as the source of the depth, which is the built-in one. -/
theorem not_attribution_names_source :
    ¬∀ (files : Files) (environment : Environment) (options : LoadOptions) (config : Config),
      load files environment options = .ok config → ∀ setting : Setting,
        setting.source? files environment options =
          some (setting.attributed files environment options.path).source := by
  intro h
  have hload : load (.ofTexts []) (.ofTexts [(depthVariable, " ")]) {} = .ok {} := by
    decide
  exact absurd (h _ _ _ _ hload .maxDepth) (by decide)

end FactGuard.Config
