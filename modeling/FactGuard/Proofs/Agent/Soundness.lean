import FactGuard.Proofs.Eligibility.Agreement
import FactGuard.Proofs.Fact.Merge
import Mathlib.Data.Finset.Card
import Mathlib.Data.Finset.Dedup
import Mathlib.Data.List.TakeWhile

/-!
# Proofs/Agent/Soundness — what checking an agent decides

What the flaws of an agent come to is told by two passes over names and ids that were seen before
(`definitionFlaws_eq_nil_iff`, `length_repeatedIds_add_card`). Together with the guards of its
priorities they make a verdict that is good exactly for a `Sound` agent (`valid_validate_iff_sound`),
and the registry of a sound agent that replaces no core fact is known (`Sound.size_registry`).
-/

namespace FactGuard

/-! ## Names -/

namespace Text

/-- Trimming from the front removes only what satisfies the test, so it decides nothing about it. -/
theorem forall_mem_dropWhile_iff {p : Char → Bool} {cs : List Char} :
    (∀ c ∈ cs.dropWhile p, p c) ↔ ∀ c ∈ cs, p c := by
  have htaken : ∀ c ∈ cs.takeWhile p, p c := fun c hc => List.mem_takeWhile_imp hc
  conv_rhs => rw [← List.takeWhile_append_dropWhile (p := p) (l := cs), List.forall_mem_append]
  exact (and_iff_right htaken).symm

/-- Trimming leaves nothing of a blank text, and something of every other one. -/
theorem trimmed_eq_empty_iff {s : String} : trimmed s = "" ↔ ∀ c ∈ s.toList, isBlank c := by
  rw [← String.toList_inj, trimmed, String.toList_ofList, trimmedChars, String.toList_empty,
    List.reverse_eq_nil_iff, List.dropWhile_eq_nil_iff]
  simp only [List.mem_reverse]
  exact forall_mem_dropWhile_iff

end Text

namespace Agent

variable {registry : Fact.Registry} {strictness : Strictness} {seen : List String}

/-! ## Flaws -/

/-- Only a composite definition is held to the conditions that it lists. -/
theorem conditionFlaws_eq_nil_iff {name : String} {definition : Fact.Definition} :
    conditionFlaws registry name definition = [] ↔
      (definition.derivation = .composite →
        ∀ condition ∈ definition.conditions, registry.contains condition.fact) := by
  rw [conditionFlaws]
  split
  · next hcomposite => simp [hcomposite]
  · next hother => exact iff_of_true rfl fun h => absurd h hother

/-- The names of definitions, as they are compared. -/
def trimmedNames (definitions : List Fact.Definition) : List String :=
  definitions.map fun definition => Text.trimmed definition.name

theorem forall_notMem_cons_iff {names : List String} {name : String} :
    (∀ other ∈ names, other ∉ name :: seen) ↔ name ∉ names ∧ ∀ other ∈ names, other ∉ seen := by
  simp only [List.mem_cons, not_or, forall₂_and, List.forall_mem_ne']

/-- Definitions after names that were seen have no flaw exactly if their own names are none of those,
and neither empty nor equal, and their conditions are known. -/
theorem definitionFlaws_eq_nil_iff {definitions : List Fact.Definition} :
    definitionFlaws registry seen definitions = [] ↔
      "" ∉ trimmedNames definitions ∧ (∀ name ∈ trimmedNames definitions, name ∉ seen) ∧
      (trimmedNames definitions).Nodup ∧
      ∀ definition ∈ definitions, definition.derivation = .composite →
        ∀ condition ∈ definition.conditions, registry.contains condition.fact := by
  induction definitions generalizing seen with
  | nil => simp [definitionFlaws, trimmedNames]
  | cons definition rest ih =>
    have hnames : trimmedNames (definition :: rest) =
        Text.trimmed definition.name :: trimmedNames rest := rfl
    rw [definitionFlaws, hnames]
    split
    · next hname => simp [hname]
    · next hname =>
      have hrepeated : (if seen.contains (Text.trimmed definition.name) then
          [Flaw.repeatedDefinition (Text.trimmed definition.name)] else []) = [] ↔
            Text.trimmed definition.name ∉ seen := by simp
      rw [List.append_eq_nil_iff, List.append_eq_nil_iff, hrepeated, conditionFlaws_eq_nil_iff, ih,
        forall_notMem_cons_iff, List.mem_cons, not_or, List.forall_mem_cons, List.forall_mem_cons,
        List.nodup_cons, and_iff_right (Ne.symm hname)]
      constructor
      · rintro ⟨⟨hfresh, hcondition⟩, hempty, ⟨hname, hdisjoint⟩, hnodup, hconditions⟩
        exact ⟨hempty, ⟨hfresh, hdisjoint⟩, ⟨hname, hnodup⟩, hcondition, hconditions⟩
      · rintro ⟨hempty, ⟨hfresh, hdisjoint⟩, ⟨hname, hnodup⟩, hcondition, hconditions⟩
        exact ⟨⟨hfresh, hcondition⟩, hempty, ⟨hname, hdisjoint⟩, hnodup, hconditions⟩

/-- Each priority repeats an id, or it is the first one of an id that was not seen before. -/
theorem length_repeatedIds_add_card (priorities : List Priority) :
    (repeatedIds seen priorities).length +
      ((priorities.map Priority.id).toFinset \ seen.toFinset).card = priorities.length := by
  induction priorities generalizing seen with
  | nil => simp [repeatedIds]
  | cons priority rest ih =>
    have hrest := @ih (priority.id :: seen)
    rw [List.toFinset_cons] at hrest
    rw [repeatedIds, List.length_append, List.map_cons, List.toFinset_cons, List.length_cons]
    by_cases hseen : priority.id ∈ seen
    · rw [Finset.insert_eq_of_mem (List.mem_toFinset.mpr hseen)] at hrest
      rw [if_pos (List.contains_iff_mem.mpr hseen), List.length_singleton,
        Finset.insert_sdiff_of_mem _ (List.mem_toFinset.mpr hseen)]
      omega
    · have hfresh : priority.id ∉ seen.toFinset := fun h => hseen (List.mem_toFinset.mp h)
      rw [if_neg (mt List.contains_iff_mem.mp hseen), List.length_nil,
        Finset.insert_sdiff_of_notMem _ hfresh]
      have hcard := Finset.card_erase_add_one (Finset.mem_insert_self priority.id
        ((rest.map Priority.id).toFinset \ seen.toFinset))
      rw [Finset.erase_insert_eq_erase, ← Finset.sdiff_insert] at hcard
      omega

/-- No identifier is reported exactly if no two priorities share one. -/
theorem repeatedIds_eq_nil_iff {priorities : List Priority} :
    repeatedIds [] priorities = [] ↔ (priorities.map Priority.id).Nodup := by
  have hcount := @length_repeatedIds_add_card [] priorities
  rw [List.toFinset_nil, Finset.sdiff_empty, List.card_toFinset] at hcount
  rw [← List.length_eq_zero_iff, ← List.dedup_eq_self]
  constructor
  · intro hnone
    refine (List.dedup_sublist _).eq_of_length ?_
    rw [List.length_map]
    omega
  · intro hsame
    rw [hsame, List.length_map] at hcount
    omega

/-- **An agent without flaws**, one clause for each of the checks that report them. -/
theorem flaws_eq_nil_iff {agent : Agent} :
    agent.flaws registry strictness = [] ↔
      definitionFlaws registry [] agent.definitions = [] ∧
      (strictness.rejectCoreOverrides → registry.overridden = []) ∧
      (agent.priorities.map Priority.id).Nodup := by
  rw [flaws, List.append_eq_nil_iff, List.append_eq_nil_iff, repeatedIds_eq_nil_iff, and_assoc]
  cases strictness.rejectCoreOverrides <;> simp

/-! ## Counting repeated ids -/

/-- The code of a flaw in the ids of priorities. -/
def repeatedPriorityCode : String := "DUPLICATE_PRIORITY_ID"

/-- The definitions never report a flaw with the code of a repeated priority, so those can be
counted. -/
theorem code_ne_of_mem_definitionFlaws {definitions : List Fact.Definition} {flaw : Flaw}
    (h : flaw ∈ definitionFlaws registry seen definitions) : flaw.code ≠ repeatedPriorityCode := by
  induction definitions generalizing seen with
  | nil => cases h
  | cons definition rest ih =>
    rw [definitionFlaws] at h
    split at h
    · obtain rfl | h := List.mem_cons.mp h
      · simp [Flaw.code, repeatedPriorityCode]
      · exact ih h
    · obtain h | h := List.mem_append.mp h
      · obtain h | h := List.mem_append.mp h
        · split at h <;> simp_all [Flaw.code, repeatedPriorityCode]
        · rw [conditionFlaws] at h
          split at h
          · obtain ⟨condition, -, rfl⟩ := List.mem_map.mp h
            simp [Flaw.code, repeatedPriorityCode]
          · cases h
      · exact ih h

theorem code_of_mem_repeatedIds {priorities : List Priority} {flaw : Flaw}
    (h : flaw ∈ repeatedIds seen priorities) : flaw.code = repeatedPriorityCode := by
  induction priorities generalizing seen with
  | nil => cases h
  | cons priority rest ih =>
    obtain h | h := List.mem_append.mp h
    · split at h <;> simp_all [Flaw.code, repeatedPriorityCode]
    · exact ih h

/-- **Every priority beyond the first of its id is reported.** -/
theorem countP_code_issues (agent : Agent) (registry : Fact.Registry) (strictness : Strictness) :
    (agent.validate registry strictness).issues.countP (·.code = repeatedPriorityCode) +
      (agent.priorities.map Priority.id).toFinset.card = agent.priorities.length := by
  have hcount := @length_repeatedIds_add_card [] agent.priorities
  rw [List.toFinset_nil, Finset.sdiff_empty] at hcount
  have hissues : (agent.validate registry strictness).issues =
      (agent.flaws registry strictness).map Flaw.issue := rfl
  have hdefinitions : (definitionFlaws registry [] agent.definitions).countP
      (fun flaw => flaw.code = repeatedPriorityCode) = 0 :=
    List.countP_eq_zero.mpr fun flaw hflaw => by simpa using code_ne_of_mem_definitionFlaws hflaw
  have hoverrides : (if strictness.rejectCoreOverrides then registry.overridden.map Flaw.coreOverride
      else []).countP (fun flaw => flaw.code = repeatedPriorityCode) = 0 := by
    refine List.countP_eq_zero.mpr fun flaw hflaw => ?_
    split at hflaw
    · obtain ⟨fact, -, rfl⟩ := List.mem_map.mp hflaw
      simp [Flaw.code, repeatedPriorityCode]
    · cases hflaw
  have hids : (repeatedIds [] agent.priorities).countP
      (fun flaw => flaw.code = repeatedPriorityCode) = (repeatedIds [] agent.priorities).length :=
    List.countP_eq_length.mpr fun flaw hflaw => by simpa using code_of_mem_repeatedIds hflaw
  have hcode : (fun issue : Issue => decide (issue.code = repeatedPriorityCode)) ∘ Flaw.issue =
      fun flaw => decide (flaw.code = repeatedPriorityCode) := rfl
  rw [hissues, List.countP_map, hcode, flaws, List.countP_append, List.countP_append, hdefinitions,
    hoverrides, hids]
  omega

/-! ## Verdicts -/

/-- **A sound agent.** -/
structure Sound (agent : Agent) (registry : Fact.Registry) (strictness : Strictness) : Prop where
  /-- No name of a definition is blank. -/
  named : ∀ definition ∈ agent.definitions, ∃ c ∈ definition.name.toList, ¬Text.isBlank c
  /-- No two definitions have one name, outer blanks apart. -/
  distinctNames : (agent.definitions.map fun definition => Text.trimmed definition.name).Nodup
  /-- Composite definitions build on known facts. -/
  knownConditions : ∀ definition ∈ agent.definitions, definition.derivation = .composite →
    ∀ condition ∈ definition.conditions, registry.contains condition.fact
  coreKept : strictness.rejectCoreOverrides → registry.overridden = []
  distinctIds : (agent.priorities.map Priority.id).Nodup
  /-- Each guard is absent, or it is valid and can be read. -/
  usableGuards : ∀ priority ∈ agent.priorities,
    priority.guard = none ∨ priority.guard = some .null ∨ ∃ node, priority.guard = some node ∧
      (strictness.validator.validateStored registry Guard.rootPath (some node)).valid ∧
      ∃ guard, Guard.ofStored node = .ok guard

/-- A name that trimming leaves empty is one of blanks alone. -/
theorem empty_notMem_trimmedNames_iff {definitions : List Fact.Definition} :
    "" ∉ trimmedNames definitions ↔
      ∀ definition ∈ definitions, ∃ c ∈ definition.name.toList, ¬Text.isBlank c := by
  rw [trimmedNames, List.mem_map, not_exists]
  refine forall_congr' fun definition => ?_
  rw [not_and, Text.trimmed_eq_empty_iff]
  simp only [not_forall, exists_prop]

/-- A priority passes its check without a guard, with a null one, or with one that is both valid and
readable. -/
theorem valid_checkPriority_iff {priority : Priority} :
    (checkPriority strictness.validator registry priority).valid ↔
      priority.guard = none ∨ priority.guard = some .null ∨ ∃ node, priority.guard = some node ∧
        (strictness.validator.validateStored registry Guard.rootPath (some node)).valid ∧
        ∃ guard, Guard.ofStored node = .ok guard := by
  rw [Eligibility.valid_checkPriority, Eligibility.errors_checkPriority, List.isEmpty_iff,
    Eligibility.refusals_eq_nil_iff]
  obtain (hnone | hnull) | ⟨node, hnode, there⟩ := Guard.absent_or_some priority.guard
  · rw [hnone]
    exact iff_of_true ⟨rfl, none, rfl⟩ (.inl rfl)
  · rw [hnull]
    exact iff_of_true ⟨rfl, none, rfl⟩ (.inr (.inl rfl))
  · rw [hnode, Guard.ofStored?_some there]
    simp only [Guard.Validator.valid_validateStored, List.isEmpty_iff, map_eq_ok_iff, reduceCtorEq,
      Option.some.injEq, there, false_or, exists_eq_left']
    refine and_congr_right fun _ => ⟨?_, ?_⟩
    · rintro ⟨_, guard, hguard, -⟩
      exact ⟨guard, hguard⟩
    · rintro ⟨guard, hguard⟩
      exact ⟨some guard, guard, hguard, rfl⟩

/-- **Checking accepts sound agents, and no others.** -/
theorem valid_validate_iff_sound (agent : Agent) (registry : Fact.Registry)
    (strictness : Strictness) :
    (agent.validate registry strictness).valid ↔ agent.Sound registry strictness := by
  have hguards : (agent.priorities.map (checkPriority strictness.validator registry)).all
      Priority.Report.valid ↔ ∀ priority ∈ agent.priorities,
        (checkPriority strictness.validator registry priority).valid := by
    rw [List.all_map, List.all_eq_true]
    rfl
  rw [validate, Bool.and_eq_true, List.isEmpty_map, List.isEmpty_iff, hguards, flaws_eq_nil_iff,
    definitionFlaws_eq_nil_iff, empty_notMem_trimmedNames_iff]
  simp only [valid_checkPriority_iff]
  constructor
  · rintro ⟨⟨⟨named, -, distinctNames, knownConditions⟩, coreKept, distinctIds⟩, usableGuards⟩
    exact ⟨named, distinctNames, knownConditions, coreKept, distinctIds, usableGuards⟩
  · rintro ⟨named, distinctNames, knownConditions, coreKept, distinctIds, usableGuards⟩
    exact ⟨⟨⟨named, fun _ _ => List.not_mem_nil, distinctNames, knownConditions⟩, coreKept,
      distinctIds⟩, usableGuards⟩

/-! ## The registry of a sound agent -/

namespace Sound

variable {agent : Agent}

/-- Under strict checking against its own registry, a sound agent defines no core fact. -/
theorem notMem_of_isCore (sound : agent.Sound agent.registry strictness)
    (strict : strictness.rejectCoreOverrides) {fact : String} (hcore : Fact.isCore fact) :
    fact ∉ agent.definitions.map Fact.Definition.name := by
  intro hname
  have hmem := Fact.Registry.mem_overridden_ofDefinitions.mpr ⟨hcore, hname⟩
  rw [← Agent.registry, sound.coreKept strict] at hmem
  cases hmem

/-- Names that differ after trimming differ as they stand. -/
theorem nodup_names (sound : agent.Sound registry strictness) :
    (agent.definitions.map Fact.Definition.name).Nodup := by
  refine List.Nodup.of_map Text.trimmed ?_
  rw [List.map_map]
  exact sound.distinctNames

/-- **A sound agent has the core facts and one for each of its definitions.** -/
theorem size_registry (sound : agent.Sound agent.registry strictness)
    (strict : strictness.rejectCoreOverrides) :
    agent.registry.size = Fact.coreFacts.length + agent.definitions.length := by
  rw [Agent.registry, Fact.Registry.ofDefinitions,
    Fact.Registry.size_foldl_define sound.nodup_names, Fact.Registry.size_core]
  intro name hname hknown
  rw [Fact.Registry.contains_core] at hknown
  exact sound.notMem_of_isCore strict hknown hname

/-- Where overrides of core facts are refused, a sound agent sees every core fact as it is
published. -/
theorem get?_registry_of_isCore (sound : agent.Sound agent.registry strictness)
    (strict : strictness.rejectCoreOverrides) {fact : String} (hcore : Fact.isCore fact) :
    agent.registry.get? fact = Fact.Registry.core.get? fact :=
  Fact.Registry.get?_foldl_define_of_notMem (sound.notMem_of_isCore strict hcore)

end Sound

/-- **Checking an agent is sound and complete.** It accepts sound agents and no others, and counts the
priorities beyond the first of each id. An agent that is checked strictly, against its own registry,
keeps the core facts and adds one for each of its definitions. -/
theorem checking_is_sound_and_complete (agent : Agent) (registry : Fact.Registry)
    (strictness : Strictness) :
    ((agent.validate registry strictness).valid = true ↔ agent.Sound registry strictness) ∧
    (agent.validate registry strictness).issues.countP (·.code = "DUPLICATE_PRIORITY_ID") +
      (agent.priorities.map Priority.id).toFinset.card = agent.priorities.length ∧
    (strictness.rejectCoreOverrides = true →
      (agent.validate agent.registry strictness).valid = true →
        agent.registry.size = 8 + agent.definitions.length ∧
          ∀ fact, Fact.isCore fact →
            agent.registry.get? fact = Fact.Registry.core.get? fact) := by
  refine ⟨valid_validate_iff_sound agent registry strictness,
    countP_code_issues agent registry strictness, fun strict hvalid => ?_⟩
  have sound := (valid_validate_iff_sound agent agent.registry strictness).mp hvalid
  exact ⟨sound.size_registry strict, fun fact hcore => sound.get?_registry_of_isCore strict hcore⟩

/-- An agent with a fact of its own, and two priorities that go by it. -/
def vipAgent : Agent where
  id := "a1"
  name := "Ana"
  orchestration := {
    definitions := [{ name := "is_vip", derivation := .equals, field := some "vip" }]
    priorities := [
      { id := "p1", name := "P", guard := some (.object [("exists", .string "is_vip")]) },
      { id := "p2", name := "Q", guard := some .null }] }

/-- The agent of the example is valid, so all that soundness says holds of it. -/
theorem checking_is_sound_and_complete_vipAgent :
    (vipAgent.validate vipAgent.registry { rejectCoreOverrides := true }).valid = true ∧
    vipAgent.registry.size = 9 ∧
      vipAgent.registry.get? "has_contact" = Fact.Registry.core.get? "has_contact" := by
  have hvalid : (vipAgent.validate vipAgent.registry { rejectCoreOverrides := true }).valid = true := by
    decide +kernel
  obtain ⟨-, -, hregistry⟩ :=
    checking_is_sound_and_complete vipAgent vipAgent.registry { rejectCoreOverrides := true }
  obtain ⟨hsize, hcore⟩ := hregistry rfl hvalid
  exact ⟨hvalid, hsize, hcore "has_contact" (by decide)⟩

end Agent

end FactGuard
