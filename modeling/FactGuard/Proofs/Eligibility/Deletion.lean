import FactGuard.Proofs.Eligibility.Decision
import FactGuard.Proofs.Fact.Frame
import FactGuard.Proofs.Guard.Footprint

/-!
# Proofs/Eligibility/Deletion — deleting the definitions of a fact

Before the definitions of a fact are deleted, the editor warns about the priorities that mention it.
The warning leaves nothing out: whatever is stored with a priority, the decision on it depends on
the facts it mentions and on nothing else (`decide_congr`), and deleting the definitions does not
show in any other fact.
-/

namespace FactGuard

open Guard (Validator AgreeOn factsOfStored storedMentions ofStored ofStored?)

namespace Eligibility

/-! ## What a decision depends on -/

variable {validator : Validator} {registry other : Fact.Registry} {snapshot live : Fact.Snapshot}

/-- Registries that agree on the facts of a guard refuse it alike. -/
theorem refusals_congr {guard : Option Json}
    (h : AgreeOn (factsOfStored guard) registry.contains other.contains) :
    refusals validator registry guard = refusals validator other guard := by
  simp only [refusals, Validator.validateStored, Guard.problems_congr h]

/-- Together with snapshots that agree on them, they rule it alike. -/
theorem ruling_congr {guard : Option Json}
    (hregistry : AgreeOn (factsOfStored guard) registry.contains other.contains)
    (hsnapshot : AgreeOn (factsOfStored guard) snapshot.valueOf live.valueOf) :
    ruling validator registry snapshot guard = ruling validator other live guard := by
  rw [ruling, ruling, refusals_congr hregistry]
  split
  · rfl
  · cases hread : ofStored? guard with
    | error malformed => rfl
    | ok found =>
      cases found with
      | none => rfl
      | some found =>
        obtain ⟨node, rfl, hnode⟩ := Guard.exists_of_ofStored? hread
        rw [Guard.agreeOn_factsOfStored_some, Guard.storedMentions_eq hnode] at hsnapshot
        dsimp only
        rw [Guard.holds_congr hsnapshot]

/-- **A decision depends only on the facts that the stored guard mentions**: on which of them are
known, on their labels, and on their values. -/
theorem decide_congr {priority : Priority}
    (hcontains : AgreeOn (factsOfStored priority.guard) registry.contains other.contains)
    (hlabel : AgreeOn (factsOfStored priority.guard) registry.label other.label)
    (hvalue : AgreeOn (factsOfStored priority.guard) snapshot.valueOf live.valueOf) :
    decide validator registry snapshot priority = decide validator other live priority := by
  rw [decide_eq, decide_eq, refusals_congr hcontains, ruling_congr hcontains hvalue,
    Guard.previewStored_congr hlabel]

end Eligibility

/-! ## Deleting the definitions of a fact -/

/-- An agent without its definitions of a fact. -/
def Agent.forget (agent : Agent) (fact : String) : Agent :=
  { agent with
    orchestration := { agent.orchestration with definitions := Fact.others fact agent.definitions } }

theorem Agent.mem_prioritiesMentioning {agent : Agent} {fact : String} {priority : Priority} :
    priority ∈ agent.prioritiesMentioning fact ↔
      priority ∈ agent.priorities ∧ fact ∈ factsOfStored priority.guard := by
  rw [Agent.prioritiesMentioning, List.mem_filter, List.contains_iff_mem]

/-- Agreement off a fact is agreement on facts that it is not among. -/
theorem Fact.AgreeOff.agreeOn {α : Type} {fact : String} {f g : String → α} {facts : List String}
    (h : Fact.AgreeOff fact f g) (hfact : fact ∉ facts) : AgreeOn facts f g :=
  fun other hother => h other fun heq => hfact (heq ▸ hother)

namespace Eligibility

/-- **The warning before a deletion is sound.** If no composite fact that remains builds on the
fact, then deleting its definitions changes nothing in the decision on a priority without a warning,
whatever is stored with it. -/
theorem decide_forget {agent : Agent} {fact : String} {priority : Priority}
    (unused : ∀ definition ∈ (agent.forget fact).definitions, definition.derivation = .composite →
      ∀ condition ∈ definition.conditions, condition.fact ≠ fact)
    (mine : priority ∈ agent.priorities) (unwarned : priority ∉ agent.prioritiesMentioning fact)
    (validator : Validator) (base : Fact.Snapshot) (fields : Json) :
    decide validator agent.registry (Fact.resolve agent.definitions base fields) priority =
      decide validator (agent.forget fact).registry
        (Fact.resolve (agent.forget fact).definitions base fields) priority := by
  have hfact : fact ∉ factsOfStored priority.guard := fun h =>
    unwarned (Agent.mem_prioritiesMentioning.mpr ⟨mine, h⟩)
  have hregistry := Fact.agreeOff_ofDefinitions fact agent.definitions
  have hsnapshot := Fact.agreeOff_resolve unused base fields
  exact decide_congr (hregistry.contains.agreeOn hfact) (hregistry.label.agreeOn hfact)
    (hsnapshot.valueOf.agreeOn hfact)

/-- A priority whose guard has two operators. -/
def twofoldPriority : Priority where
  id := "visit"
  name := "Agendar visita"
  guard := some (.object [("eq", .array [.string "ready", .bool true]), ("exists", .string "has_email")])

/-- An agent that replaces the core fact about contacts and does not build on it. -/
def overridingAgent : Agent where
  id := "agent"
  name := "Asistente"
  orchestration := {
    definitions := [
      { name := "has_contact", derivation := .present, field := some "contact.phone" },
      { name := "has_email", derivation := .present, field := some "contact.email" },
      { name := "ready", derivation := .composite, conditions := [⟨"has_email"⟩] }]
    priorities := [twofoldPriority] }

/-- The guard does not name the overridden fact, so it is decided alike when the definition goes. -/
theorem decide_forget_overridingAgent :
    twofoldPriority ∈ overridingAgent.priorities ∧
    twofoldPriority ∉ overridingAgent.prioritiesMentioning "has_contact" ∧
    decide {} overridingAgent.registry (Fact.resolve overridingAgent.definitions .empty .null)
        twofoldPriority =
      decide {} (overridingAgent.forget "has_contact").registry
        (Fact.resolve (overridingAgent.forget "has_contact").definitions .empty .null)
        twofoldPriority := by
  have mine : twofoldPriority ∈ overridingAgent.priorities := List.mem_singleton_self _
  have unwarned : twofoldPriority ∉ overridingAgent.prioritiesMentioning "has_contact" := by
    rw [Agent.mem_prioritiesMentioning, twofoldPriority, factsOfStored, List.mem_eraseDups]
    simp [Guard.storedMentions_object, Guard.operands, Guard.Operator.list, Guard.Operator.key,
      List.lookup_cons, Guard.operandMentions, Guard.pairMention, Guard.nameMention]
  refine ⟨mine, unwarned, decide_forget (fun definition hmem _ condition hcondition => ?_) mine unwarned
    {} .empty .null⟩
  obtain ⟨hmem, -⟩ := Fact.mem_others.mp hmem
  simp only [overridingAgent, Agent.definitions, List.mem_cons, List.not_mem_nil, or_false] at hmem
  obtain rfl | rfl | rfl := hmem <;> simp_all

end Eligibility

end FactGuard
