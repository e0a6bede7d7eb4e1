import FactGuard.Fact.Registry
import FactGuard.Proofs.Pointwise
import Mathlib.Data.List.Nodup

/-!
# Proofs/Fact/Merge — what a registry holds once definitions are entered

The core registry is its table (`get?_core`). Entering definitions gives each fact that they name the
entry of its last definition and leaves the others alone (`get?_foldl_define`), records the core
facts among the names in the order of their first mention (`overridden_foldl_define`), and adds a
fact for each definition if they are all new (`size_foldl_define`). All of this together is what the
registry of an agent is (`merging_keeps_last_definitions`).
-/

namespace FactGuard.Fact.Registry

variable {registry : Registry} {fact : String}

/-- A registry grows only by facts that it did not contain. -/
theorem size_insert (info : Meta) :
    (registry.insert fact info).size =
      if registry.contains fact then registry.size else registry.size + 1 :=
  Std.ExtTreeMap.size_insert

/-! ## The core registry -/

theorem lookup_eq_none_iff {pairs : List (String × Meta)} :
    pairs.lookup fact = none ↔ fact ∉ pairs.map Prod.fst := by
  rw [List.lookup_eq_none_iff, List.mem_map, not_exists]
  refine forall_congr' fun pair => ?_
  rw [bne_iff_ne, not_and, ne_comm]

/-- Pairs of different names are entered side by side. -/
theorem get?_foldl_insert {pairs : List (String × Meta)} (distinct : (pairs.map Prod.fst).Nodup) :
    (pairs.foldl (fun registry (fact, info) => registry.insert fact info) registry).get? fact =
      (pairs.lookup fact).or (registry.get? fact) := by
  induction pairs generalizing registry with
  | nil => rfl
  | cons pair rest ih =>
    obtain ⟨name, info⟩ := pair
    obtain ⟨hname, hrest⟩ := List.nodup_cons.mp distinct
    rw [List.foldl_cons, ih hrest, get?_insert]
    by_cases h : name = fact
    · subst h
      rw [lookup_eq_none_iff.mpr hname, List.lookup_cons_self, if_pos rfl]
      rfl
    · rw [if_neg h, List.lookup_cons, beq_eq_false_iff_ne.mpr (Ne.symm h)]

/-- Distinct facts that are all new are counted one by one. -/
theorem size_foldl_insert {pairs : List (String × Meta)} (distinct : (pairs.map Prod.fst).Nodup)
    (fresh : ∀ name ∈ pairs.map Prod.fst, ¬registry.contains name) :
    (pairs.foldl (fun registry (fact, info) => registry.insert fact info) registry).size =
      registry.size + pairs.length := by
  induction pairs generalizing registry with
  | nil => rfl
  | cons pair rest ih =>
    obtain ⟨name, info⟩ := pair
    obtain ⟨hname, hrest⟩ := List.nodup_cons.mp distinct
    obtain ⟨hfresh, hmore⟩ := List.forall_mem_cons.mp fresh
    have hlater : ∀ other ∈ rest.map Prod.fst, ¬(registry.insert name info).contains other := by
      intro other hother
      rw [contains_insert, Bool.or_eq_true, not_or, beq_iff_eq]
      exact ⟨fun h => hname (h ▸ hother), hmore other hother⟩
    rw [List.foldl_cons, ih hrest hlater, size_insert, if_neg hfresh, List.length_cons]
    omega

/-- No core fact is published twice. -/
theorem nodup_coreFacts : (coreFacts.map Prod.fst).Nodup := by decide

/-- **The core registry is the core table.** -/
theorem get?_core : core.get? fact = coreFacts.lookup fact := by
  rw [core, get?_foldl_insert nodup_coreFacts]
  simp [get?, empty]

theorem size_core : core.size = coreFacts.length := by
  rw [core, size_foldl_insert nodup_coreFacts]
  · simp [size, empty]
  · simp [contains, empty]

theorem isCore_iff : isCore fact ↔ fact ∈ coreFacts.map Prod.fst := by
  rw [isCore, List.any_eq_true, List.mem_map]
  simp only [decide_eq_true_iff]

theorem contains_core : core.contains fact = isCore fact := by
  rw [Bool.eq_iff_iff, isCore_iff, contains_eq_isSome, get?_core, ← Option.ne_none_iff_isSome, Ne,
    lookup_eq_none_iff, not_not]

/-- The entries of the core registry are the published ones. -/
theorem mem_coreFacts_of_get? {info : Meta} (h : core.get? fact = some info) :
    (fact, info) ∈ coreFacts := by
  rw [get?_core, List.lookup_eq_some_iff] at h
  obtain ⟨earlier, later, hsplit, -⟩ := h
  rw [hsplit]
  exact List.mem_append_right _ List.mem_cons_self

/-- Every core fact, and no other, has its origin in the core. -/
theorem map_origin_get?_core : (core.get? fact).map Meta.origin = some .core ↔ isCore fact := by
  have horigin : ∀ pair ∈ coreFacts, pair.2.origin = .core := by decide
  rw [← contains_core, contains_eq_isSome]
  constructor
  · intro h
    rw [← Option.isSome_map, h]
    rfl
  · intro h
    obtain ⟨info, hinfo⟩ := Option.isSome_iff_exists.mp h
    rw [hinfo, Option.map_some, horigin _ (mem_coreFacts_of_get? hinfo)]

/-! ## Entering definitions -/

section Define

variable {definitions : List Definition}

/-- The last of the definitions of a fact. -/
def lastNamed? (definitions : List Definition) (fact : String) : Option Definition :=
  definitions.reverse.find? fun definition => definition.name = fact

theorem lastNamed?_cons (definition : Definition) (rest : List Definition) (fact : String) :
    lastNamed? (definition :: rest) fact =
      (lastNamed? rest fact).or (if definition.name = fact then some definition else none) := by
  rw [lastNamed?, List.reverse_cons, List.find?_append, List.find?_singleton, lastNamed?]
  simp only [decide_eq_true_eq]

theorem lastNamed?_eq_none_iff :
    lastNamed? definitions fact = none ↔ fact ∉ definitions.map Definition.name := by
  simp [lastNamed?]

/-- The last definition of a fact has none of the fact behind it. -/
theorem lastNamed?_eq_some_iff {definition : Definition} :
    lastNamed? definitions fact = some definition ↔
      definition.name = fact ∧ ∃ earlier later, definitions = earlier ++ definition :: later ∧
        fact ∉ later.map Definition.name := by
  rw [lastNamed?, List.find?_eq_some_iff_append, decide_eq_true_iff]
  refine and_congr_right fun _ => ?_
  constructor
  · rintro ⟨later, earlier, hsplit, hnone⟩
    refine ⟨earlier.reverse, later.reverse, ?_, ?_⟩
    · rw [← List.reverse_reverse definitions, hsplit]
      simp
    · simpa using hnone
  · rintro ⟨earlier, later, rfl, hnone⟩
    exact ⟨later.reverse, earlier.reverse, by simp, by simpa using hnone⟩

/-- **The last definition of a fact makes its entry**, and a fact without definition keeps its own. -/
theorem get?_foldl_define (registry : Registry) (definitions : List Definition) (fact : String) :
    (definitions.foldl define registry).get? fact =
      ((lastNamed? definitions fact).map .custom).or (registry.get? fact) := by
  induction definitions generalizing registry with
  | nil => rfl
  | cons definition rest ih =>
    rw [List.foldl_cons, ih, get?_define, lastNamed?_cons]
    cases lastNamed? rest fact with
    | some later => rfl
    | none => split <;> rfl

/-- Definitions leave the facts alone that they do not name. -/
theorem get?_foldl_define_of_notMem (h : fact ∉ definitions.map Definition.name) :
    (definitions.foldl define registry).get? fact = registry.get? fact := by
  rw [get?_foldl_define, lastNamed?_eq_none_iff.mpr h]
  rfl

/-- Definitions take no fact away. -/
theorem contains_foldl_define (h : registry.contains fact = true) :
    (definitions.foldl define registry).contains fact = true := by
  induction definitions generalizing registry with
  | nil => exact h
  | cons definition rest ih =>
    refine ih ?_
    rw [contains_define, h, Bool.or_true]

/-- A fact that definitions name is entered as the fact of one of them. -/
theorem exists_get?_foldl_define (registry : Registry) (h : fact ∈ definitions.map Definition.name) :
    ∃ definition ∈ definitions, definition.name = fact ∧
      (definitions.foldl define registry).get? fact = some (.custom definition) := by
  obtain ⟨definition, hlast⟩ :=
    Option.ne_none_iff_exists'.mp (mt lastNamed?_eq_none_iff.mp (not_not.mpr h))
  obtain ⟨hname, earlier, later, rfl, -⟩ := lastNamed?_eq_some_iff.mp hlast
  refine ⟨definition, List.mem_append_right _ List.mem_cons_self, hname, ?_⟩
  rw [get?_foldl_define, hlast]
  rfl

/-! ## The record of replaced facts -/

/-- Whether the entry of a fact is that of a core fact. -/
def holdsCore (registry : Registry) (fact : String) : Bool :=
  (registry.get? fact).map Meta.origin = some .core

/-- A core fact is held until a definition takes its name. -/
theorem holdsCore_define (registry : Registry) (definition : Definition) (fact : String) :
    (registry.define definition).holdsCore fact =
      (decide (fact ≠ definition.name) && registry.holdsCore fact) := by
  rw [holdsCore, get?_define]
  by_cases h : definition.name = fact
  · simp [h, Meta.custom]
  · simp [h, Ne.symm h, holdsCore]

/-- A definition overrides a core fact the first time that it takes its name. -/
theorem overridden_define (registry : Registry) (definition : Definition) :
    (registry.define definition).overridden =
      if registry.holdsCore definition.name then registry.overridden ++ [definition.name]
      else registry.overridden := by
  simp only [define, holdsCore, decide_eq_true_eq]

/-- **A core fact is recorded by the first definition that takes its place**, and its entry is not that
of a core fact any more. -/
theorem overridden_foldl_define (registry : Registry) (definitions : List Definition) :
    (definitions.foldl define registry).overridden =
      registry.overridden ++ ((definitions.map Definition.name).filter registry.holdsCore).eraseDups := by
  induction definitions generalizing registry with
  | nil => simp
  | cons definition rest ih =>
    have hfilter : (rest.map Definition.name).filter (registry.define definition).holdsCore =
        ((rest.map Definition.name).filter registry.holdsCore).filter (· ≠ definition.name) := by
      rw [List.filter_filter]
      exact List.filter_congr fun fact _ => holdsCore_define registry definition fact
    rw [List.foldl_cons, ih, hfilter, overridden_define, List.map_cons]
    by_cases hcore : registry.holdsCore definition.name
    · rw [if_pos hcore, List.filter_cons_of_pos hcore, eraseDups_cons_ne, List.append_assoc,
        List.singleton_append]
    · have hkept : ∀ fact ∈ (rest.map Definition.name).filter registry.holdsCore,
          decide (fact ≠ definition.name) = true := by
        intro fact hfact
        rw [decide_eq_true_iff]
        rintro rfl
        exact hcore (List.mem_filter.mp hfact).2
      rw [if_neg hcore, List.filter_cons_of_neg hcore, List.filter_eq_self.mpr hkept]

/-- **What is overridden**: the core names among the definitions, each once and in their order. -/
theorem overridden_ofDefinitions (definitions : List Definition) :
    (ofDefinitions definitions).overridden =
      ((definitions.map Definition.name).filter isCore).eraseDups := by
  have hcore : core.holdsCore = isCore := by
    funext fact
    rw [holdsCore, Bool.eq_iff_iff, decide_eq_true_iff, map_origin_get?_core]
  rw [ofDefinitions, overridden_foldl_define, hcore]
  rfl

/-- **The record of replaced facts is complete**, and holds nothing else. -/
theorem mem_overridden_ofDefinitions :
    fact ∈ (ofDefinitions definitions).overridden ↔
      isCore fact ∧ fact ∈ definitions.map Definition.name := by
  rw [overridden_ofDefinitions, List.mem_eraseDups, List.mem_filter, and_comm]

/-! ## Counting facts -/

/-- The facts that definitions enter, under their names. -/
def entries (definitions : List Definition) : List (String × Meta) :=
  definitions.map fun definition => (definition.name, .custom definition)

theorem map_fst_entries : (entries definitions).map Prod.fst = definitions.map Definition.name := by
  rw [entries, List.map_map]
  rfl

/-- Save for the record, definitions are entered as other facts are. -/
theorem facts_foldl_define {other : Registry} (h : registry.facts = other.facts) :
    (definitions.foldl define registry).facts =
      ((entries definitions).foldl (fun registry (fact, info) => registry.insert fact info)
        other).facts := by
  induction definitions generalizing registry other with
  | nil => exact h
  | cons definition rest ih => exact ih (congrArg (·.insert definition.name (.custom definition)) h)

/-- **Definitions of new facts add one fact each**, if no two of them are of the same fact. -/
theorem size_foldl_define (distinct : (definitions.map Definition.name).Nodup)
    (fresh : ∀ name ∈ definitions.map Definition.name, ¬registry.contains name) :
    (definitions.foldl define registry).size = registry.size + definitions.length := by
  rw [← map_fst_entries] at distinct fresh
  rw [size, facts_foldl_define rfl, ← size, size_foldl_insert distinct fresh, entries,
    List.length_map]

/-! ## Merging -/

theorem mem_names : fact ∈ registry.names ↔ registry.contains fact = true := by
  rw [names, contains, Std.ExtTreeMap.mem_keys, Std.ExtTreeMap.contains_iff_mem]

/-- The facts are the core facts and those that are defined. -/
theorem contains_ofDefinitions :
    (ofDefinitions definitions).contains fact = true ↔
      isCore fact = true ∨ fact ∈ definitions.map Definition.name := by
  rw [contains_eq_isSome, ofDefinitions, get?_foldl_define, Option.isSome_or, Option.isSome_map,
    Bool.or_eq_true, ← contains_eq_isSome, contains_core, or_comm, ← Option.ne_none_iff_isSome, Ne,
    lastNamed?_eq_none_iff, not_not]

/-- The record keeps the order in which the facts are first defined. -/
theorem pairwise_overridden_ofDefinitions (definitions : List Definition) :
    (ofDefinitions definitions).overridden.Pairwise fun fact later =>
      (definitions.map Definition.name).idxOf fact < (definitions.map Definition.name).idxOf later := by
  rw [overridden_ofDefinitions]
  refine (pairwise_idxOf_eraseDups _).imp_of_mem fun hfact hlater hlt => ?_
  exact idxOf_lt_of_filter (List.mem_filter.mp (List.mem_eraseDups.mp hfact)).2
    (List.mem_filter.mp (List.mem_eraseDups.mp hlater)).2 hlt

/-- Only the last definition of each fact matters for the entries. -/
theorem facts_ofDefinitions_congr {other : List Definition}
    (h : ∀ fact, lastNamed? definitions fact = lastNamed? other fact) :
    (ofDefinitions definitions).facts = (ofDefinitions other).facts := by
  refine Std.ExtTreeMap.ext_getElem? fun fact => ?_
  change (definitions.foldl define core).get? fact = (other.foldl define core).get? fact
  rw [get?_foldl_define, get?_foldl_define, h]

end Define

/-- **Merging is last-write-wins, and keeps an exact record of what it replaces.** The facts are the
core facts and those that are defined. A defined fact has the entry of a boolean, as its last definition
makes it, and every other fact is entered as in the core table. The record holds each core fact that is
defined, once, in the order in which they are first defined. So lists of definitions with the same last
definition of each fact make the same entries. -/
theorem merging_keeps_last_definitions (definitions : List Definition) :
    (∀ fact, fact ∈ (ofDefinitions definitions).names ↔
      fact ∈ coreFacts.map Prod.fst ∨ fact ∈ definitions.map Definition.name) ∧
    (∀ earlier definition later, definitions = earlier ++ definition :: later →
      definition.name ∉ later.map Definition.name →
        (ofDefinitions definitions).get? definition.name = some {
          label := definition.name
          kind := .boolean
          values := [.bool true, .bool false, .null]
          description := "Fact personalizado (" ++ definition.derivation.key ++ ")"
          origin := .custom }) ∧
    (∀ fact, fact ∉ definitions.map Definition.name →
      (ofDefinitions definitions).get? fact = coreFacts.lookup fact) ∧
    ((∀ fact, fact ∈ (ofDefinitions definitions).overridden ↔
        fact ∈ coreFacts.map Prod.fst ∧ fact ∈ definitions.map Definition.name) ∧
      (ofDefinitions definitions).overridden.Nodup ∧
      (ofDefinitions definitions).overridden.Pairwise fun fact later =>
        (definitions.map Definition.name).idxOf fact <
          (definitions.map Definition.name).idxOf later) ∧
    ∀ other, (∀ fact, lastNamed? definitions fact = lastNamed? other fact) →
      (ofDefinitions definitions).facts = (ofDefinitions other).facts := by
  refine ⟨fun fact => ?keys, ?defined, fun fact hfact => ?kept, ⟨fun fact => ?_, ?_, ?_⟩,
    fun other => facts_ofDefinitions_congr⟩
  case keys => rw [mem_names, contains_ofDefinitions, isCore_iff]
  case defined =>
    rintro earlier definition later rfl hlater
    have hlast := lastNamed?_eq_some_iff.mpr ⟨rfl, earlier, later, rfl, hlater⟩
    rw [ofDefinitions, get?_foldl_define, hlast]
    rfl
  case kept => rw [ofDefinitions, get?_foldl_define_of_notMem hfact, get?_core]
  · rw [mem_overridden_ofDefinitions, isCore_iff]
  · rw [overridden_ofDefinitions]
    exact nodup_eraseDups _
  · exact pairwise_overridden_ofDefinitions definitions

/-- Two core facts and one of an agent, defined in turns. -/
def turns : List Definition := [
  { name := "has_contact", derivation := .present, field := some "phone" },
  { name := "vip", derivation := .equals, field := some "tier" },
  { name := "operation_type", derivation := .present, field := some "search" },
  { name := "has_contact", derivation := .notPresent, field := some "phone" },
  { name := "operation_type", derivation := .equals, field := some "search" }]

/-- What is left of them in the end, in another order. -/
def lastTurns : List Definition := [turns[4], turns[1], turns[3]]

theorem lastNamed?_lastTurns (fact : String) : lastNamed? turns fact = lastNamed? lastTurns fact := by
  by_cases hcontact : "has_contact" = fact
  · subst hcontact
    rfl
  · by_cases hoperation : "operation_type" = fact
    · subst hoperation
      rfl
    · simp [lastNamed?, turns, lastTurns, List.find?_cons, hcontact, hoperation]

/-- The last definition of a fact shows in its entry, and so do the core table where there is none, and
the same entries come of the last definitions alone. -/
theorem merging_keeps_last_definitions_turns :
    (ofDefinitions turns).get? "has_contact" = some {
      label := "has_contact"
      kind := .boolean
      values := [.bool true, .bool false, .null]
      description := "Fact personalizado (not_exists)"
      origin := .custom } ∧
    (ofDefinitions turns).get? "has_budget" = coreFacts.lookup "has_budget" ∧
    (ofDefinitions turns).facts = (ofDefinitions lastTurns).facts := by
  obtain ⟨-, hlast, hkept, -, hsame⟩ := merging_keeps_last_definitions turns
  exact ⟨hlast (turns.take 3) turns[3] [turns[4]] rfl (by decide), hkept "has_budget" (by decide),
    hsame lastTurns lastNamed?_lastTurns⟩

end FactGuard.Fact.Registry
