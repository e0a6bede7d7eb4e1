import Mathlib.Data.Set.Function
import FactGuard.Fact.Cache
import FactGuard.Proofs.Json.Separation
import FactGuard.Proofs.Pointwise

/-!
# Proofs/Fact/Cache — remembered registries are current

A registry takes the name and the derivation from each definition, and both are known from the text
of the definitions (`ofDefinitions_eq_of_written_eq`). A cache holds nothing but registries of lists
it was asked for, under the fingerprints of those lists (`BuiltFrom.after`), so what it answers is
what would be built anew, unless two of the lists share a digest (`BuiltFrom.registry_getOrBuild`).
-/

namespace FactGuard.Fact

/-! ## What a registry takes from the text of definitions -/

/-- What a registry takes from a definition. -/
def Definition.heading (definition : Definition) : String × Derivation :=
  (definition.name, definition.derivation)

/-- A registry takes from a definition no more than its heading. -/
theorem Registry.define_congr (registry : Registry) {definition other : Definition}
    (h : definition.heading = other.heading) :
    registry.define definition = registry.define other := by
  obtain ⟨hname, hderivation⟩ := Prod.mk.inj h
  simp only [define, Meta.custom, hname, hderivation]

/-- Lists with the same headings make the same registry. -/
theorem Registry.ofDefinitions_congr {definitions others : List Definition}
    (h : definitions.map Definition.heading = others.map Definition.heading) :
    ofDefinitions definitions = ofDefinitions others := by
  rw [ofDefinitions, ofDefinitions]
  generalize core = registry
  induction definitions generalizing others registry with
  | nil =>
    obtain rfl := List.map_eq_nil_iff.mp h.symm
    rfl
  | cons definition rest ih =>
    obtain ⟨other, more, rfl, hhead, hrest⟩ := List.map_eq_cons_iff.mp h.symm
    rw [List.foldl_cons, List.foldl_cons, registry.define_congr hhead, ih hrest.symm]

/-- No two derivations are written with the same key. -/
theorem Derivation.key_injective : Function.Injective key := by
  intro derivation other h
  cases derivation <;> cases other <;> simp_all [key]

/-- The text of a definition determines its heading, as each of its members can be read off. -/
theorem Definition.heading_eq_of_membersText_eq {definition other : Definition}
    (h : Json.membersText definition.members = Json.membersText other.members) :
    definition.heading = other.heading := by
  obtain ⟨hname, hmore⟩ := Json.membersText_string_inj h
  obtain ⟨hkey, -⟩ := Json.membersText_string_inj hmore
  exact Prod.ext hname (Derivation.key_injective hkey)

/-- **Definitions with the same text make the same registry.** -/
theorem Registry.ofDefinitions_eq_of_written_eq {definitions others : List Definition}
    (h : written definitions = written others) :
    ofDefinitions definitions = ofDefinitions others := by
  rw [written, written, ← Function.comp_def, ← List.map_map, ← List.map_map] at h
  have hmembers := Json.text_objects_inj h
  rw [List.map_map, List.map_map] at hmembers
  exact ofDefinitions_congr
    (map_eq_map_of_imp hmembers fun _ _ => Definition.heading_eq_of_membersText_eq)

namespace Cache

/-! ## One call -/

variable {cache : Cache} {lists : Set (List Definition)} {agent : String}
  {definitions : List Definition}

/-- An entry is current if it stands under the agent and has the fingerprint of the definitions. -/
theorem current?_eq_some_iff {entry : Entry} :
    cache.current? agent definitions = some entry ↔
      cache.entries[agent]? = some entry ∧ entry.fingerprint = cache.fingerprint definitions := by
  rw [current?, Option.filter_eq_some_iff, decide_eq_true_iff]

/-- A lookup finds a current entry and counts a hit, or it makes a new entry and counts a miss. -/
theorem getOrBuild_cases (cache : Cache) (agent : String) (definitions : List Definition) :
    (∃ entry, cache.entries[agent]? = some entry ∧
      entry.fingerprint = cache.fingerprint definitions ∧
      cache.getOrBuild agent definitions = (entry, { cache with hits := cache.hits + 1 })) ∨
    (∀ entry, cache.entries[agent]? = some entry →
      entry.fingerprint ≠ cache.fingerprint definitions) ∧
      ∃ entry : Entry, entry.fingerprint = cache.fingerprint definitions ∧
        entry.registry = .ofDefinitions definitions ∧
        cache.getOrBuild agent definitions =
          (entry, { cache with
            entries := cache.entries.insert agent entry, misses := cache.misses + 1 }) := by
  cases h : cache.current? agent definitions with
  | some entry =>
    obtain ⟨hentry, hprint⟩ := current?_eq_some_iff.mp h
    exact .inl ⟨entry, hentry, hprint, by rw [getOrBuild, h]⟩
  | none =>
    refine .inr ⟨fun entry hentry hprint => ?_, _, rfl, rfl, by rw [getOrBuild, h]⟩
    have hsome := current?_eq_some_iff.mpr ⟨hentry, hprint⟩
    exact absurd (h.symm.trans hsome) (Option.some_ne_none entry).symm

/-! ## Runs of calls -/

/-- A call on a cache. -/
inductive Call
  | getOrBuild (agent : String) (definitions : List Definition)
  | invalidate (agent : String)
  | clear

/-- A cache after a call. -/
def step (cache : Cache) : Call → Cache
  | .getOrBuild agent definitions => (cache.getOrBuild agent definitions).2
  | .invalidate agent => (cache.invalidate agent).2
  | .clear => cache.clear

/-- A cache after several calls. -/
def after (cache : Cache) (history : List Call) : Cache := history.foldl step cache

/-- The lists of definitions that calls ask for. -/
def asked (history : List Call) : Set (List Definition) :=
  {definitions | ∃ agent, .getOrBuild agent definitions ∈ history}

/-- What is remembered was built from one of the lists, and has its fingerprint. -/
def BuiltFrom (cache : Cache) (lists : Set (List Definition)) : Prop :=
  ∀ (agent : String) (entry : Entry), cache.entries[agent]? = some entry → ∃ definitions ∈ lists,
    entry.fingerprint = cache.fingerprint definitions ∧ entry.registry = .ofDefinitions definitions

theorem builtFrom_new (digest : String → String) (lists : Set (List Definition)) :
    (new digest).BuiltFrom lists := by
  intro agent entry hentry
  simp [new] at hentry

@[simp]
theorem digest_getOrBuild : (cache.getOrBuild agent definitions).2.digest = cache.digest := by
  obtain ⟨entry, -, -, h⟩ | ⟨-, entry, -, -, h⟩ := cache.getOrBuild_cases agent definitions <;> rw [h]

@[simp]
theorem digest_step (call : Call) : (cache.step call).digest = cache.digest := by
  cases call <;> simp [step, invalidate, clear]

@[simp]
theorem digest_after (history : List Call) : (cache.after history).digest = cache.digest := by
  induction history generalizing cache with
  | nil => rfl
  | cons call rest ih => exact ih.trans (digest_step call)

/-- A lookup leaves registries of the lists that were asked for. -/
theorem BuiltFrom.getOrBuild (h : cache.BuiltFrom lists) (hmem : definitions ∈ lists) :
    (cache.getOrBuild agent definitions).2.BuiltFrom lists := by
  obtain ⟨entry, -, -, hcall⟩ | ⟨-, entry, hprint, hregistry, hcall⟩ :=
    cache.getOrBuild_cases agent definitions
  · rw [hcall]
    exact h
  · rw [hcall]
    intro other found hfound
    rw [Std.ExtTreeMap.getElem?_insert] at hfound
    split at hfound
    · obtain rfl := Option.some.inj hfound
      exact ⟨definitions, hmem, hprint, hregistry⟩
    · exact h other found hfound

/-- Taking an entry away leaves the others as they were. -/
theorem BuiltFrom.invalidate (h : cache.BuiltFrom lists) (agent : String) :
    (cache.invalidate agent).2.BuiltFrom lists := by
  intro other entry hentry
  rw [Cache.invalidate, Std.ExtTreeMap.getElem?_erase] at hentry
  split at hentry
  · cases hentry
  · exact h other entry hentry

theorem builtFrom_clear (cache : Cache) (lists : Set (List Definition)) :
    cache.clear.BuiltFrom lists := by
  intro agent entry hentry
  simp [clear] at hentry

/-- One call adds at most the list it asks for. -/
theorem BuiltFrom.step (h : cache.BuiltFrom lists) {call : Call}
    (hcall : ∀ agent definitions, call = .getOrBuild agent definitions → definitions ∈ lists) :
    (cache.step call).BuiltFrom lists := by
  cases call with
  | getOrBuild agent definitions => exact h.getOrBuild (hcall agent definitions rfl)
  | invalidate agent => exact h.invalidate agent
  | clear => exact builtFrom_clear cache lists

/-- **A run of calls leaves nothing behind** but registries of lists that it asked for. -/
theorem BuiltFrom.after {history : List Call} (h : cache.BuiltFrom lists)
    (hasked : asked history ⊆ lists) : (cache.after history).BuiltFrom lists := by
  induction history generalizing cache with
  | nil => exact h
  | cons call rest ih =>
    refine ih (h.step fun agent definitions hcall => hasked ⟨agent, ?_⟩) fun definitions hrest => ?_
    · exact hcall ▸ List.mem_cons_self
    · obtain ⟨agent, hmem⟩ := hrest
      exact hasked ⟨agent, List.mem_cons_of_mem call hmem⟩

/-- **A lookup answers with the current registry** if no two of the lists share a digest. -/
theorem BuiltFrom.registry_getOrBuild (h : cache.BuiltFrom lists) (hmem : definitions ∈ lists)
    (distinct : Set.InjOn cache.digest (written '' lists)) :
    (cache.getOrBuild agent definitions).1.registry = .ofDefinitions definitions := by
  obtain ⟨entry, hentry, hprint, hcall⟩ | ⟨-, entry, -, hregistry, hcall⟩ :=
    cache.getOrBuild_cases agent definitions
  · rw [hcall]
    obtain ⟨earlier, hearlier, hsame, hregistry⟩ := h agent entry hentry
    have hwritten : written earlier = written definitions :=
      distinct ⟨earlier, hearlier, rfl⟩ ⟨definitions, hmem, rfl⟩ (hsame.symm.trans hprint)
    exact hregistry.trans (Registry.ofDefinitions_eq_of_written_eq hwritten)
  · rw [hcall]
    exact hregistry

end Cache

end FactGuard.Fact
