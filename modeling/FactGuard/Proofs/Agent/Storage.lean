import FactGuard.Eligibility
import FactGuard.Fact.Derivation
import FactGuard.Proofs.Fact.Cache
import FactGuard.Proofs.Guard.Reading
import FactGuard.Proofs.Json.Record

/-!
# Proofs/Agent/Storage — agents survive being stored

Each record is followed through its document member by member, so what is written is read again, save
that an operand or a guard that is null is read as nothing (`Agent.read_toJson`). Reading leaves
neither (`Agent.nullFree_of_read`), and nothing that looks at an agent tells null from nothing.
-/

namespace FactGuard

open Json (Refusal Source Record)

/-- What a stored operand is read as: null is read as nothing. -/
def Json.withoutNull (value : Option Json) : Option Json := value.filter fun json => !json.isNull

/-- A slot that is filled and joined again has lost its null. -/
theorem Json.join_map_withoutNull (value : Option Json) :
    (value.map fun json => withoutNull (some json)).join = withoutNull value := by
  cases value <;> rfl

theorem Json.join_map_some {α : Type} (value : Option α) : (value.map some).join = value := by
  cases value <;> rfl

/-- An operand that may be absent is read as such where it is null. -/
theorem Json.Source.optional_json (json : Json) :
    Source.optional Source.json (.value json) = .ok (Json.withoutNull (some json)) := by
  cases json <;> rfl

theorem Json.Source.optional_string (content : String) :
    Source.optional Source.string (.value (.string content)) = .ok (some content) := rfl

/-! ## Definitions -/

namespace Fact

/-- A condition has no part that could be null, so it is read as it was written. -/
theorem Condition.read_toJson (condition : Condition) :
    read (.value condition.toJson) = .ok condition := rfl

theorem Derivation.choice_key (derivation : Derivation) :
    Source.choice table (.value (.string derivation.key)) = .ok derivation := by
  cases derivation <;> rfl

theorem Logic.optional_choice_key (logic : Logic) :
    Source.optional (Source.choice table) (.value (.string logic.key)) = .ok (some logic) := by
  cases logic <;> rfl

namespace Definition

/-- The definition without a value that is null. -/
def withoutNull (definition : Definition) : Definition :=
  { definition with value := Json.withoutNull definition.value }

section Members

variable {slots : Slots}

/-- The conditions of a definition, whose member is not written if there are none. -/
theorem takeMembers_conditions (conditions : List Condition) (h : slots.conditions = none) :
    record.takeMembers (Json.membersOf "conditions" (conditions.map Condition.toJson)) slots =
      .ok { slots with conditions := if conditions = [] then none else some conditions } := by
  have hread : Source.list Condition.read (.value (.array (conditions.map Condition.toJson))) =
      .ok conditions := by
    rw [Source.list_toJson fun condition _ => condition.read_toJson, List.map_id']
  exact Record.takeMembers_membersOf (fun conditions => { slots with conditions }) hread rfl
    (congrArg Option.isSome h) (by rw [← h]) (fun _ => rfl) rfl

theorem takeMembers_fields (fields : List String) (h : slots.fields = none) :
    record.takeMembers (Json.membersOf "fields" (fields.map .string)) slots =
      .ok { slots with fields := if fields = [] then none else some fields } := by
  have hread : Source.list Source.string (.value (.array (fields.map .string))) = .ok fields := by
    rw [Source.list_toJson fun path _ => Source.string_eq_ok_iff.mpr rfl, List.map_id']
  exact Record.takeMembers_membersOf (fun fields => { slots with fields }) hread rfl
    (congrArg Option.isSome h) (by rw [← h]) (fun _ => rfl) rfl

theorem takeMembers_field (field : Option String) (h : slots.field = none) :
    record.takeMembers (Json.memberOf "field" (field.map .string)) slots =
      .ok { slots with field := field.map some } :=
  Record.takeMembers_memberOf (fun field => { slots with field }) Source.optional_string rfl
    (congrArg Option.isSome h) (by rw [← h]) (fun _ => rfl) rfl

theorem takeMembers_logic (logic : Option Logic) (h : slots.logic = none) :
    record.takeMembers (Json.memberOf "logic" (logic.map fun logic => .string logic.key)) slots =
      .ok { slots with logic := logic.map some } :=
  Record.takeMembers_memberOf (fun logic => { slots with logic }) Logic.optional_choice_key rfl
    (congrArg Option.isSome h) (by rw [← h]) (fun _ => rfl) rfl

/-- The operand, the one member of a definition in which null is lost. -/
theorem takeMembers_value (value : Option Json) (h : slots.value = none) :
    record.takeMembers (Json.memberOf "value" value) slots =
      .ok { slots with value := value.map fun json => Json.withoutNull (some json) } := by
  conv_lhs => rw [← @Option.map_id' _ value]
  exact Record.takeMembers_memberOf (fun value => { slots with value }) Source.optional_json rfl
    (congrArg Option.isSome h) (by rw [← h]) (fun _ => rfl) rfl

/-- The two members that every definition has. -/
theorem takeMembers_heading (name : String) (derivation : Derivation) (hname : slots.name = none)
    (hderivation : slots.derivation = none) :
    record.takeMembers [("name", .string name), ("type", .string derivation.key)] slots =
      .ok { slots with name := some name, derivation := some derivation } := by
  refine (Record.takeMembers_cons rfl (by simp [hname])).trans ?_
  refine (Record.takeMembers_singleton rfl (by simp [hderivation])).trans ?_
  exact congrArg (· >>= fun derivation =>
    .ok { slots with name := some name, derivation := some derivation }) derivation.choice_key

end Members

/-- **A definition is read as it was written**, save that an operand that is null is gone. -/
theorem read_toJson (definition : Definition) :
    read (.value definition.toJson) = .ok definition.withoutNull := by
  have hslots : record.read {} (.value definition.toJson) = .ok {
      name := some definition.name, derivation := some definition.derivation
      field := definition.field.map some
      fields := if definition.fields = [] then none else some definition.fields
      value := definition.value.map fun json => Json.withoutNull (some json)
      logic := definition.logic.map some
      conditions := if definition.conditions = [] then none else some definition.conditions } := by
    rw [toJson, Record.read_object]
    simp only [Record.takeMembers_append, takeMembers_conditions, takeMembers_field, takeMembers_fields,
      takeMembers_logic, takeMembers_heading, takeMembers_value, ok_bind]
  rw [read, hslots]
  simp only [ok_bind, Record.require, Record.getD_unless_nil, Json.join_map_withoutNull,
    Json.join_map_some]
  rfl

end Definition

end Fact

/-! ## Priorities -/

namespace Priority

/-- The priority without a guard that is null. -/
def withoutNull (priority : Priority) : Priority :=
  { priority with guard := Json.withoutNull priority.guard }

section Members

variable {slots : Slots}

theorem takeMembers_description (description : Option String) (h : slots.description = .none) :
    record.takeMembers (Json.memberOf "description" (description.map .string)) slots =
      .ok { slots with description := description.map some } :=
  Record.takeMembers_memberOf (fun description => { slots with description }) Source.optional_string
    rfl (congrArg Option.isSome h) (by rw [← h]) (fun _ => rfl) rfl

/-- The guard of a priority, the one member in which null is lost. -/
theorem takeMembers_guard (guard : Option Json) (h : slots.guard = .none) :
    record.takeMembers (Json.memberOf "guard" guard) slots =
      .ok { slots with guard := guard.map fun json => Json.withoutNull (some json) } := by
  conv_lhs => rw [← @Option.map_id' _ guard]
  exact Record.takeMembers_memberOf (fun guard => { slots with guard }) Source.optional_json rfl
    (congrArg Option.isSome h) (by rw [← h]) (fun _ => rfl) rfl

theorem takeMembers_name (id name : String) (hid : slots.id = .none) (hname : slots.name = .none) :
    record.takeMembers [("id", .string id), ("name", .string name)] slots =
      .ok { slots with id := some id, name := some name } := by
  refine (Record.takeMembers_cons rfl (by simp [hid])).trans ?_
  refine (Record.takeMembers_singleton rfl (by simp [hname])).trans ?_
  rfl

end Members

/-- **A priority is read as it was written**, save that a guard that is null is gone. -/
theorem read_toJson (priority : Priority) :
    read (.value priority.toJson) = .ok priority.withoutNull := by
  have hslots : record.read {} (.value priority.toJson) = .ok {
      id := some priority.id, name := some priority.name
      description := priority.description.map some
      guard := priority.guard.map fun json => Json.withoutNull (some json) } := by
    rw [toJson, Record.read_object]
    simp only [Record.takeMembers_append, takeMembers_description, takeMembers_guard,
      takeMembers_name, ok_bind]
  rw [read, hslots]
  simp only [ok_bind, Record.require, Json.join_map_withoutNull, Json.join_map_some]
  rfl

end Priority

/-! ## Agents -/

/-- The orchestration without operands and guards that are null. -/
def Orchestration.withoutNulls (orchestration : Orchestration) : Orchestration where
  definitions := orchestration.definitions.map Fact.Definition.withoutNull
  priorities := orchestration.priorities.map Priority.withoutNull

/-- What an agent orchestrates is read record by record. -/
theorem Orchestration.read_toJson (orchestration : Orchestration) :
    read (.value orchestration.toJson) = .ok orchestration.withoutNulls := by
  have hslots : record.read {} (.value orchestration.toJson) = .ok {
      definitions := some (orchestration.definitions.map Fact.Definition.withoutNull)
      priorities := some (orchestration.priorities.map Priority.withoutNull) } := by
    rw [toJson, Record.read_object]
    refine (Record.takeMembers_cons rfl rfl).trans ?_
    have hdefinitions := Source.list_toJson fun definition
      (_ : definition ∈ orchestration.definitions) => definition.read_toJson
    have hpriorities := Source.list_toJson fun priority
      (_ : priority ∈ orchestration.priorities) => priority.read_toJson
    simp only [hdefinitions, ok_bind, pure_bind]
    refine (Record.takeMembers_singleton rfl rfl).trans ?_
    simp only [hpriorities, ok_bind]
    rfl
  rw [read, hslots]
  rfl

namespace Agent

/-- The agent without operands and guards that are null. -/
def withoutNulls (agent : Agent) : Agent :=
  { agent with orchestration := agent.orchestration.withoutNulls }

/-- **An agent is read as it was written**, without the nulls among its operands and guards. -/
theorem read_toJson (agent : Agent) : read (.value agent.toJson) = .ok agent.withoutNulls := by
  have hslots : record.read {} (.value agent.toJson) = .ok {
      id := some agent.id, name := some agent.name
      orchestration := some agent.orchestration.withoutNulls } := by
    rw [toJson, Record.read_object]
    refine (Record.takeMembers_cons rfl rfl).trans ?_
    refine (Record.takeMembers_cons rfl rfl).trans ?_
    change record.takeMembers [("orchestration", agent.orchestration.toJson)]
      { id := some agent.id, name := some agent.name } = _
    refine (Record.takeMembers_singleton rfl rfl).trans ?_
    simp only [agent.orchestration.read_toJson, ok_bind]
    rfl
  rw [read, hslots]
  rfl

end Agent

/-! ## What reading never leaves -/

/-- Only null is read as something else than itself. -/
theorem Json.withoutNull_eq_self_iff {value : Option Json} :
    withoutNull value = value ↔ value ≠ some .null := by
  rcases value with _ | json
  · exact iff_of_true rfl nofun
  · cases json <;> simp [withoutNull, isNull]

/-- What a slot holds is never null if the slot was not filled with null. -/
theorem Json.join_ne_null {slot : Option (Option Json)} (h : slot ≠ some (some .null)) :
    slot.join ≠ some .null := by
  rintro hjoin
  exact h (Option.join_eq_some_iff.mp hjoin)

/-- The definitions that survive unchanged are those whose operand is not null. -/
theorem Fact.Definition.withoutNull_eq_self_iff {definition : Fact.Definition} :
    definition.withoutNull = definition ↔ definition.value ≠ some .null := by
  rw [← Json.withoutNull_eq_self_iff]
  exact ⟨congrArg value, fun h => by rw [withoutNull, h]⟩

theorem Priority.withoutNull_eq_self_iff {priority : Priority} :
    priority.withoutNull = priority ↔ priority.guard ≠ some .null := by
  rw [← Json.withoutNull_eq_self_iff]
  exact ⟨congrArg guard, fun h => by rw [withoutNull, h]⟩

/-- Reading any member of a definition, from any source, leaves the operand other than null. -/
theorem Fact.Definition.keeps_value :
    record.Keeps fun slots => slots.value ≠ some (some .null) := by
  intro field hfield source slots filled h hslots
  simp only [record, List.mem_cons, List.not_mem_nil, or_false] at hfield
  rcases hfield with rfl | rfl | rfl | rfl | rfl | rfl | rfl <;>
    obtain ⟨taken, htaken, h⟩ := bind_eq_ok_iff.mp h <;>
    obtain rfl := pure_eq_ok_iff.mp h
  -- of all fields, only that of the value could fill its slot with null
  case inr.inr.inr.inr.inl =>
    exact fun hnull => Source.optional_json_ne_null htaken (Option.some.inj hnull)
  all_goals exact hslots

/-- The operand of a definition that was read is not null. -/
theorem Fact.Definition.value_ne_null_of_read {source : Source} {definition : Fact.Definition}
    (h : read source = .ok definition) : definition.value ≠ some .null := by
  obtain ⟨slots, hslots, h⟩ := bind_eq_ok_iff.mp h
  obtain ⟨name, -, h⟩ := bind_eq_ok_iff.mp h
  obtain ⟨derivation, -, h⟩ := bind_eq_ok_iff.mp h
  obtain rfl := pure_eq_ok_iff.mp h
  exact Json.join_ne_null (keeps_value.read hslots nofun)

theorem Priority.keeps_guard : record.Keeps fun slots => slots.guard ≠ some (some .null) := by
  intro field hfield source slots filled h hslots
  simp only [record, List.mem_cons, List.not_mem_nil, or_false] at hfield
  rcases hfield with rfl | rfl | rfl | rfl <;>
    obtain ⟨taken, htaken, h⟩ := bind_eq_ok_iff.mp h <;>
    obtain rfl := pure_eq_ok_iff.mp h
  case inr.inr.inr =>
    exact fun hnull => Source.optional_json_ne_null htaken (Option.some.inj hnull)
  all_goals exact hslots

/-- The guard of a priority that was read is not null. -/
theorem Priority.guard_ne_null_of_read {source : Source} {priority : Priority}
    (h : read source = .ok priority) : priority.guard ≠ some .null := by
  obtain ⟨slots, hslots, h⟩ := bind_eq_ok_iff.mp h
  obtain ⟨id, -, h⟩ := bind_eq_ok_iff.mp h
  obtain ⟨name, -, h⟩ := bind_eq_ok_iff.mp h
  obtain rfl := pure_eq_ok_iff.mp h
  exact Json.join_ne_null (keeps_guard.read hslots nofun)

/-- No operand of a definition and no guard of a priority is null. -/
structure Orchestration.NullFree (orchestration : Orchestration) : Prop where
  definitions : ∀ definition ∈ orchestration.definitions, definition.value ≠ some .null
  priorities : ∀ priority ∈ orchestration.priorities, priority.guard ≠ some .null

theorem Orchestration.withoutNulls_eq_self_iff {orchestration : Orchestration} :
    orchestration.withoutNulls = orchestration ↔ orchestration.NullFree := by
  have hdefinitions : orchestration.definitions.map Fact.Definition.withoutNull =
      orchestration.definitions ↔ ∀ definition ∈ orchestration.definitions,
        definition.value ≠ some .null := by
    simp only [map_eq_self_iff, Fact.Definition.withoutNull_eq_self_iff]
  have hpriorities : orchestration.priorities.map Priority.withoutNull = orchestration.priorities ↔
      ∀ priority ∈ orchestration.priorities, priority.guard ≠ some .null := by
    simp only [map_eq_self_iff, Priority.withoutNull_eq_self_iff]
  constructor
  · intro h
    exact ⟨hdefinitions.mp (congrArg definitions h), hpriorities.mp (congrArg priorities h)⟩
  · rintro ⟨definitions, priorities⟩
    rw [withoutNulls, hdefinitions.mpr definitions, hpriorities.mpr priorities]

/-- Reading any member of it leaves records without nulls only. -/
theorem Orchestration.keeps_nullFree :
    record.Keeps fun slots => NullFree ⟨slots.definitions.getD [], slots.priorities.getD []⟩ := by
  intro field hfield source slots filled h hslots
  simp only [record, List.mem_cons, List.not_mem_nil, or_false] at hfield
  rcases hfield with rfl | rfl <;>
    obtain ⟨taken, htaken, h⟩ := bind_eq_ok_iff.mp h <;>
    obtain rfl := pure_eq_ok_iff.mp h
  · refine ⟨fun definition hdefinition => ?_, hslots.priorities⟩
    obtain ⟨source, hsource⟩ := Source.exists_read_of_mem_list htaken hdefinition
    exact Fact.Definition.value_ne_null_of_read hsource
  · refine ⟨hslots.definitions, fun priority hpriority => ?_⟩
    obtain ⟨source, hsource⟩ := Source.exists_read_of_mem_list htaken hpriority
    exact Priority.guard_ne_null_of_read hsource

/-- No record that was read with an orchestration holds a null. -/
theorem Orchestration.nullFree_of_read {source : Source} {orchestration : Orchestration}
    (h : read source = .ok orchestration) : orchestration.NullFree := by
  obtain ⟨slots, hslots, h⟩ := bind_eq_ok_iff.mp h
  obtain rfl := pure_eq_ok_iff.mp h
  exact keeps_nullFree.read hslots ⟨nofun, nofun⟩

namespace Agent

/-- An agent has its nulls in what it orchestrates, and nowhere else. -/
theorem withoutNulls_eq_self_iff {agent : Agent} :
    agent.withoutNulls = agent ↔ agent.orchestration.NullFree := by
  rw [← Orchestration.withoutNulls_eq_self_iff]
  exact ⟨congrArg orchestration, fun h => by rw [withoutNulls, h]⟩

theorem keeps_nullFree :
    record.Keeps fun slots => (slots.orchestration.getD {}).NullFree := by
  intro field hfield source slots filled h hslots
  simp only [record, List.mem_cons, List.not_mem_nil, or_false] at hfield
  rcases hfield with rfl | rfl | rfl <;>
    obtain ⟨taken, htaken, h⟩ := bind_eq_ok_iff.mp h <;>
    obtain rfl := pure_eq_ok_iff.mp h
  case inr.inr => exact Orchestration.nullFree_of_read htaken
  all_goals exact hslots

/-- **No operand and no guard of an agent that was read is null**, whatever it was read from. -/
theorem nullFree_of_read {source : Source} {agent : Agent} (h : read source = .ok agent) :
    agent.orchestration.NullFree := by
  obtain ⟨slots, hslots, h⟩ := bind_eq_ok_iff.mp h
  obtain ⟨id, -, h⟩ := bind_eq_ok_iff.mp h
  obtain ⟨name, -, h⟩ := bind_eq_ok_iff.mp h
  obtain rfl := pure_eq_ok_iff.mp h
  exact keeps_nullFree.read hslots ⟨nofun, nofun⟩

end Agent

/-! ## What does not tell null from nothing -/

/-- What takes null for nothing does not see the difference that storing makes. -/
theorem Json.apply_withoutNull {α : Type} (f : Option Json → α) (h : f (some .null) = f none)
    (value : Option Json) : f (withoutNull value) = f value := by
  by_cases hnull : value = some .null
  · rw [hnull, h]
    rfl
  · rw [withoutNull_eq_self_iff.mpr hnull]

theorem Json.getD_withoutNull (value : Option Json) :
    (withoutNull value).getD .null = value.getD .null :=
  apply_withoutNull (·.getD .null) rfl value

namespace Fact

/-- A definition holds alike with a null operand and with none. -/
theorem Definition.holds_withoutNull (definition : Definition) (snapshot : Snapshot) (fields : Json) :
    definition.withoutNull.holds snapshot fields = definition.holds snapshot fields := by
  simp only [holds, withoutNull, Json.getD_withoutNull]

theorem resolve_map_withoutNull (definitions : List Definition) (base : Snapshot) (fields : Json) :
    resolve (definitions.map Definition.withoutNull) base fields = resolve definitions base fields := by
  rw [resolve, List.foldl_map]
  simp only [Definition.holds_withoutNull]
  rfl

end Fact

section Guards

variable (validator : Guard.Validator) (registry : Fact.Registry) (guard : Option Json)

/-- The validator takes a null guard for none. -/
theorem validateStored_withoutNull (path : String) :
    validator.validateStored registry path (Json.withoutNull guard) =
      validator.validateStored registry path guard :=
  Json.apply_withoutNull (validator.validateStored registry path) rfl guard

theorem previewStored_withoutNull :
    Guard.previewStored registry (Json.withoutNull guard) = Guard.previewStored registry guard :=
  Json.apply_withoutNull (Guard.previewStored registry) rfl guard

theorem ofStored?_withoutNull : Guard.ofStored? (Json.withoutNull guard) = Guard.ofStored? guard :=
  Json.apply_withoutNull Guard.ofStored? rfl guard

/-- A priority is checked alike with a null guard and with none. -/
theorem checkPriority_withoutNull (priority : Priority) :
    Agent.checkPriority validator registry priority.withoutNull =
      Agent.checkPriority validator registry priority := by
  simp only [Agent.checkPriority, Priority.readGuard, Priority.withoutNull, validateStored_withoutNull,
    previewStored_withoutNull, ofStored?_withoutNull]

theorem decide_withoutNull (snapshot : Fact.Snapshot) (priority : Priority) :
    Eligibility.decide validator registry snapshot priority.withoutNull =
      Eligibility.decide validator registry snapshot priority := by
  simp only [Eligibility.decide, Priority.readGuard, Priority.withoutNull, validateStored_withoutNull,
    previewStored_withoutNull, ofStored?_withoutNull]

end Guards

namespace Agent

/-- No flaw of a definition is about its operand. -/
theorem definitionFlaws_map_withoutNull (registry : Fact.Registry) (seen : List String)
    (definitions : List Fact.Definition) :
    definitionFlaws registry seen (definitions.map Fact.Definition.withoutNull) =
      definitionFlaws registry seen definitions := by
  induction definitions generalizing seen with
  | nil => rfl
  | cons definition rest ih =>
    rw [List.map_cons, definitionFlaws, definitionFlaws, ih, ih]
    rfl

theorem repeatedIds_map_withoutNull (seen : List String) (priorities : List Priority) :
    repeatedIds seen (priorities.map Priority.withoutNull) = repeatedIds seen priorities := by
  induction priorities generalizing seen with
  | nil => rfl
  | cons priority rest ih =>
    rw [List.map_cons, repeatedIds, repeatedIds, ih]
    rfl

variable (agent : Agent)

/-- The registry describes facts by the heading of their definitions, which has no operand. -/
theorem registry_withoutNulls : agent.withoutNulls.registry = agent.registry := by
  refine Fact.Registry.ofDefinitions_congr ?_
  exact List.map_map

theorem flaws_withoutNulls (registry : Fact.Registry) (strictness : Strictness) :
    agent.withoutNulls.flaws registry strictness = agent.flaws registry strictness := by
  rw [flaws, flaws, ← definitionFlaws_map_withoutNull registry [] agent.definitions,
    ← repeatedIds_map_withoutNull [] agent.priorities]
  rfl

/-- The report of an agent is that of the agent without its nulls. -/
theorem validate_withoutNulls (registry : Fact.Registry) (strictness : Strictness) :
    agent.withoutNulls.validate registry strictness = agent.validate registry strictness := by
  have hpriorities : agent.withoutNulls.priorities.map (checkPriority strictness.validator registry) =
      agent.priorities.map (checkPriority strictness.validator registry) := by
    change (agent.priorities.map Priority.withoutNull).map _ = _
    rw [List.map_map]
    exact List.map_congr_left fun priority _ => checkPriority_withoutNull _ _ priority
  rw [validate, validate, flaws_withoutNulls, hpriorities]
  rfl

/-- An agent decides as it does without its nulls. -/
theorem evaluate_withoutNulls (validator : Guard.Validator) (registry : Fact.Registry)
    (snapshot : Fact.Snapshot) :
    Eligibility.evaluate validator agent.withoutNulls registry snapshot =
      Eligibility.evaluate validator agent registry snapshot := by
  change (agent.priorities.map Priority.withoutNull).map _ = agent.priorities.map _
  rw [List.map_map]
  exact List.map_congr_left fun priority _ => decide_withoutNull _ _ snapshot priority

/-- **Agents survive being stored.** An agent that was read is read again as it was, whatever form its
document had. An agent that was made otherwise is read again without the operands and the guards that
are null, and nothing tells the two apart: not the registry, no check, no derivation of facts and no
decision. -/
theorem reading_inverts_storing :
    (∀ (source : Source) (agent : Agent), read source = .ok agent →
      read (.value agent.toJson) = .ok agent) ∧
    ∀ agent : Agent, read (.value agent.toJson) = .ok agent.withoutNulls ∧
      (read (.value agent.toJson) = .ok agent ↔
        (∀ definition ∈ agent.definitions, definition.value ≠ some .null) ∧
          ∀ priority ∈ agent.priorities, priority.guard ≠ some .null) ∧
      agent.withoutNulls.registry = agent.registry ∧
      (∀ registry strictness, agent.withoutNulls.validate registry strictness =
        agent.validate registry strictness) ∧
      (∀ base fields, Fact.resolve agent.withoutNulls.definitions base fields =
        Fact.resolve agent.definitions base fields) ∧
      ∀ validator registry snapshot, Eligibility.evaluate validator agent.withoutNulls registry snapshot =
        Eligibility.evaluate validator agent registry snapshot := by
  constructor
  · intro source agent h
    rw [read_toJson, withoutNulls_eq_self_iff.mpr (nullFree_of_read h)]
  · intro agent
    refine ⟨agent.read_toJson, ?_, agent.registry_withoutNulls, agent.validate_withoutNulls,
      Fact.resolve_map_withoutNull agent.definitions, agent.evaluate_withoutNulls⟩
    rw [read_toJson, Except.ok.injEq, withoutNulls_eq_self_iff]
    exact ⟨fun ⟨definitions, priorities⟩ => ⟨definitions, priorities⟩,
      fun ⟨definitions, priorities⟩ => ⟨definitions, priorities⟩⟩

/-- The document of an agent in list form, with a value and a guard that are null. -/
def listDocument : Json :=
  .array [.string "a1", .string "Ana", .object [
    ("factDefinitions", .array [.array [.string "is_vip", .string "equals", .string "vip",
      .array [], .null]]),
    ("priorities", .array [.object [("guard", .null), ("id", .string "p1"), ("name", .string "P")]])]]

/-- The agent that is read from it. -/
def listAgent : Agent where
  id := "a1"
  name := "Ana"
  orchestration := {
    definitions := [{ name := "is_vip", derivation := .equals, field := some "vip" }]
    priorities := [{ id := "p1", name := "P" }] }

/-- The agent in list form is read from its document, and from what it is written as. -/
theorem reading_inverts_storing_listAgent :
    read (.value listDocument) = .ok listAgent ∧ read (.value listAgent.toJson) = .ok listAgent := by
  have hread : read (.value listDocument) = .ok listAgent := rfl
  exact ⟨hread, reading_inverts_storing.1 _ _ hread⟩

end Agent

end FactGuard
