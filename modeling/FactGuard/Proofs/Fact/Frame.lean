import FactGuard.Fact.Derivation
import FactGuard.Fact.Registry
import FactGuard.Proofs.Pointwise

/-!
# Proofs/Fact/Frame — a definition is felt only where its fact is

Entering a definition in a registry, or giving its fact a value in a snapshot, leaves the other
facts as they are. So two passes over the same definitions, one of them without the definitions of a
fact, stay in agreement on all other facts: `agreeOff_ofDefinitions` for registries, and
`agreeOff_resolve` for snapshots, if what remains does not build on the fact.
-/

namespace FactGuard.Fact

/-- Two accounts of facts agree, but for one fact. -/
def AgreeOff {α : Type} (fact : String) (f g : String → α) : Prop :=
  ∀ other, other ≠ fact → f other = g other

/-- The definitions of other facts. -/
def others (fact : String) (definitions : List Definition) : List Definition :=
  definitions.filter fun definition => definition.name ≠ fact

/-- The other definitions are those with other names. -/
theorem mem_others {fact : String} {definitions : List Definition} {definition : Definition} :
    definition ∈ others fact definitions ↔ definition ∈ definitions ∧ definition.name ≠ fact := by
  rw [others, List.mem_filter, decide_eq_true_iff]

/-- A pass over all definitions and a pass over those of other facts agree off the fact if a step
keeps them in agreement, be it taken in both passes, or in the first alone for a definition of the
fact. -/
theorem agreeOff_foldl_others {σ α : Type} (account : σ → String → α) {step : σ → Definition → σ}
    {fact : String} {definitions : List Definition}
    (both : ∀ definition ∈ others fact definitions, ∀ s t, AgreeOff fact (account s) (account t) →
      AgreeOff fact (account (step s definition)) (account (step t definition)))
    (first : ∀ definition : Definition, definition.name = fact →
      ∀ s t, AgreeOff fact (account s) (account t) →
        AgreeOff fact (account (step s definition)) (account t)) (start : σ) :
    AgreeOff fact (account (definitions.foldl step start))
      (account ((others fact definitions).foldl step start)) := by
  have hstart : AgreeOff fact (account start) (account start) := fun _ _ => rfl
  -- Both become passes over all definitions, the second of which stands still at those of the fact.
  rw [others, List.foldl_filter]
  refine List.foldl_rel (r := fun s t => AgreeOff fact (account s) (account t)) hstart
    fun definition hmem s t hst => ?_
  by_cases hname : definition.name = fact
  · rw [if_neg (by simpa using hname)]
    exact first definition hname s t hst
  · rw [if_pos (by simpa using hname)]
    exact both definition (mem_others.mpr ⟨hmem, hname⟩) s t hst

/-! ## Registries -/

section Registry

variable {registry other : Registry} {fact : String} {definition : Definition}

/-- Defining alike keeps an agreement off a fact. -/
theorem agreeOff_define (h : AgreeOff fact registry.get? other.get?) :
    AgreeOff fact (registry.define definition).get? (other.define definition).get? := by
  intro name hname
  rw [Registry.get?_define, Registry.get?_define, h name hname]

/-- Defining the fact itself on one side keeps an agreement off it. -/
theorem agreeOff_define_left (h : AgreeOff fact registry.get? other.get?)
    (hfact : definition.name = fact) : AgreeOff fact (registry.define definition).get? other.get? := by
  intro name hname
  rw [Registry.get?_define, hfact, if_neg hname.symm, h name hname]

/-- **Definitions of one fact do not show in the entries of the others.** -/
theorem agreeOff_ofDefinitions (fact : String) (definitions : List Definition) :
    AgreeOff fact (Registry.ofDefinitions definitions).get?
      (Registry.ofDefinitions (others fact definitions)).get? := by
  rw [Registry.ofDefinitions, Registry.ofDefinitions]
  refine agreeOff_foldl_others Registry.get? (fun definition _ registry other h => ?_)
    (fun definition hfact registry other h => ?_) .core
  · exact agreeOff_define h
  · exact agreeOff_define_left h hfact

/-- Registries with the same entries off a fact contain the same other facts. -/
theorem AgreeOff.contains (h : AgreeOff fact registry.get? other.get?) :
    AgreeOff fact registry.contains other.contains := by
  intro name hname
  rw [Registry.contains_eq_isSome, Registry.contains_eq_isSome, h name hname]

theorem AgreeOff.label (h : AgreeOff fact registry.get? other.get?) :
    AgreeOff fact registry.label other.label := by
  intro name hname
  rw [Registry.label, Registry.label, h name hname]

end Registry

/-! ## Snapshots -/

section Snapshot

variable {snapshot other : Snapshot} {fact : String} {definition : Definition} {fields : Json}

/-- A definition looks at the snapshot only for the conditions of a composite fact. -/
theorem Definition.holds_congr (h : definition.derivation = .composite →
      ∀ condition ∈ definition.conditions, snapshot.get? condition.fact = other.get? condition.fact) :
    definition.holds snapshot fields = definition.holds other fields := by
  rw [Definition.holds, Definition.holds]
  cases hderivation : definition.derivation with
  | composite =>
    have htrue : ∀ condition ∈ definition.conditions,
        snapshot.isTrue condition.fact = other.isTrue condition.fact := by
      intro condition hcondition
      rw [Snapshot.isTrue, Snapshot.isTrue, h hderivation condition hcondition]
    dsimp only
    rw [all_congr_mem htrue, any_congr_mem htrue]
  | _ => rfl

theorem agreeOff_set (h : AgreeOff fact snapshot.get? other.get?) (name : String) (value : Value) :
    AgreeOff fact (snapshot.set name value).get? (other.set name value).get? := by
  intro another hname
  rw [Snapshot.get?_set, Snapshot.get?_set, h another hname]

theorem agreeOff_set_left (h : AgreeOff fact snapshot.get? other.get?) (value : Value) :
    AgreeOff fact (snapshot.set fact value).get? other.get? := by
  intro name hname
  rw [Snapshot.get?_set, if_neg hname.symm, h name hname]

/-- **Definitions of one fact do not show in the values of the others**, if no other composite fact
builds on it. -/
theorem agreeOff_resolve {definitions : List Definition}
    (unused : ∀ definition ∈ others fact definitions, definition.derivation = .composite →
      ∀ condition ∈ definition.conditions, condition.fact ≠ fact)
    (base : Snapshot) (fields : Json) :
    AgreeOff fact (resolve definitions base fields).get?
      (resolve (others fact definitions) base fields).get? := by
  refine agreeOff_foldl_others Snapshot.get? (fun definition hmem snapshot other h => ?_)
    (fun definition hfact snapshot other h => ?_) base
  · have hholds : definition.holds snapshot fields = definition.holds other fields :=
      Definition.holds_congr fun hcomposite condition hcondition =>
        h condition.fact (unused definition hmem hcomposite condition hcondition)
    rw [hholds]
    exact agreeOff_set h _ _
  · rw [hfact]
    exact agreeOff_set_left h _

/-- Snapshots with the same entries off a fact have the same values there. -/
theorem AgreeOff.valueOf (h : AgreeOff fact snapshot.get? other.get?) :
    AgreeOff fact snapshot.valueOf other.valueOf := by
  intro name hname
  rw [Snapshot.valueOf, Snapshot.valueOf, h name hname]

end Snapshot

end FactGuard.Fact
