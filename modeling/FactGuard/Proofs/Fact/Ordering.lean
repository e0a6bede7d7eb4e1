import FactGuard.Proofs.Fact.Positions

/-!
# Proofs/Fact/Ordering — the order of definitions does not matter as long as it respects dependency

If no fact is defined twice and every definition comes after those it builds on, then working off the
definitions leaves each defined fact worth what its definition makes of the outcome itself
(`Ordered.settled_resolve`). Only one snapshot is settled in this sense (`Ordered.eq_of_settled`), so
another such order of the same definitions leads to the same snapshot, and so does going over them
again.
-/

namespace FactGuard.Fact

/-- A definition builds on a fact if it is composite and a condition of it is about the fact. -/
def Definition.BuildsOn (definition : Definition) (fact : String) : Prop :=
  definition.derivation = .composite ∧ ∃ condition ∈ definition.conditions, condition.fact = fact

instance (definition : Definition) (fact : String) : Decidable (definition.BuildsOn fact) :=
  inferInstanceAs (Decidable (_ ∧ _))

/-- **Definitions in an order of dependency**: no fact is defined twice, and a definition that builds
on a defined fact comes strictly after the definition of that fact. -/
structure Ordered (definitions : List Definition) : Prop where
  distinct : (definitions.map Definition.name).Nodup
  earlier : ∀ position other : Fin definitions.length,
    (definitions.get position).BuildsOn (definitions.get other).name → other < position

/-- **Settled snapshots**: each defined fact is worth what its definition makes of the snapshot
itself, and every other fact what it is worth in the base. -/
structure Settled (definitions : List Definition) (base : Snapshot) (fields : Json)
    (snapshot : Snapshot) : Prop where
  defined : ∀ definition ∈ definitions,
    snapshot.get? definition.name = some (.bool (definition.holds snapshot fields))
  others : ∀ fact, fact ∉ definitions.map Definition.name → snapshot.get? fact = base.get? fact

variable {definitions : List Definition} {base snapshot another : Snapshot} {fields : Json}

/-! ## Working off definitions in order -/

/-- A definition does not depend on a fact that it does not build on. -/
theorem Definition.holds_set {definition : Definition} {fact : String}
    (h : ¬definition.BuildsOn fact) (value : Value) :
    definition.holds (snapshot.set fact value) fields = definition.holds snapshot fields := by
  refine Definition.holds_congr fun hcomposite condition hcondition => ?_
  rw [Snapshot.get?_set, if_neg]
  rintro rfl
  exact h ⟨hcomposite, condition, hcondition, rfl⟩

theorem Ordered.name_ne (ordered : Ordered definitions) (position other : Fin definitions.length)
    (h : position < other) : definitions[other].name ≠ definitions[position].name := by
  have hpairwise := List.pairwise_map.mp ordered.distinct
  exact (List.pairwise_iff_getElem.mp hpairwise _ _ position.isLt other.isLt h).symm

/-- In an ordered list, no definition builds on itself or on a later one. -/
theorem Ordered.not_buildsOn (ordered : Ordered definitions)
    (position other : Fin definitions.length) (h : position ≤ other) :
    ¬definitions[position].BuildsOn definitions[other].name :=
  fun hbuilds => Nat.not_lt.mpr h (ordered.earlier position other hbuilds)

/-- On the way, the facts defined so far are worth what their definitions make of what is there. -/
theorem Ordered.get?_resolve_take (ordered : Ordered definitions) (base : Snapshot) (fields : Json)
    (position : Fin definitions.length) {bound : Nat} (hbound : bound ≤ definitions.length)
    (h : position < bound) :
    (resolve (definitions.take bound) base fields).get? definitions[position].name =
      some (.bool (definitions[position].holds
        (resolve (definitions.take bound) base fields) fields)) := by
  induction bound with
  | zero => exact absurd h (Nat.not_lt_zero _)
  | succ bound ih =>
    -- The definition at `bound` is felt neither by itself nor by those before it.
    have hunfelt : ¬definitions[position].BuildsOn definitions[bound].name :=
      ordered.not_buildsOn position ⟨bound, hbound⟩ (Nat.le_of_lt_succ h)
    rw [List.take_succ_eq_append_getElem hbound, resolve_append, resolve_cons, resolve_nil,
      Snapshot.get?_set, Definition.holds_set hunfelt]
    obtain hlt | heq := Nat.lt_succ_iff_lt_or_eq.mp h
    · have hname : definitions[bound].name ≠ definitions[position].name :=
        ordered.name_ne position ⟨bound, hbound⟩ hlt
      rw [if_neg hname, ih (Nat.le_of_succ_le hbound) hlt]
    · subst heq
      exact if_pos rfl

/-- Resolving an ordered list settles every definition, since what it builds on stays as it was. -/
theorem Ordered.settled_resolve (ordered : Ordered definitions) (base : Snapshot) (fields : Json) :
    Settled definitions base fields (resolve definitions base fields) where
  defined definition hmem := by
    obtain ⟨position, hposition, rfl⟩ := List.getElem_of_mem hmem
    have hget := ordered.get?_resolve_take base fields ⟨position, hposition⟩ (Nat.le_refl _) hposition
    rwa [List.take_length] at hget
  others _ h := get?_resolve_of_notMem h

/-! ## One settled snapshot -/

/-- **Only one snapshot is settled.** -/
theorem Ordered.eq_of_settled (ordered : Ordered definitions)
    (h : Settled definitions base fields snapshot) (h' : Settled definitions base fields another) :
    snapshot = another := by
  have hdefined : ∀ position : Fin definitions.length,
      snapshot.get? definitions[position].name = another.get? definitions[position].name := by
    intro position
    induction position using WellFoundedLT.induction with
    | _ position ih =>
      -- What the definition builds on is defined earlier, or it is as in the base.
      have hholds : definitions[position].holds snapshot fields =
          definitions[position].holds another fields := by
        refine Definition.holds_congr fun hcomposite condition hcondition => ?_
        by_cases hmem : condition.fact ∈ definitions.map Definition.name
        · obtain ⟨definition, hdefinition, hname⟩ := List.mem_map.mp hmem
          obtain ⟨other, hother, rfl⟩ := List.getElem_of_mem hdefinition
          rw [← hname]
          exact ih ⟨other, hother⟩
            (ordered.earlier position ⟨other, hother⟩ ⟨hcomposite, condition, hcondition, hname.symm⟩)
        · rw [h.others _ hmem, h'.others _ hmem]
      have hmem : definitions[position] ∈ definitions := List.getElem_mem position.isLt
      rw [h.defined _ hmem, h'.defined _ hmem, hholds]
  refine Snapshot.ext_get? fun fact => ?_
  by_cases hmem : fact ∈ definitions.map Definition.name
  · obtain ⟨definition, hdefinition, rfl⟩ := List.mem_map.mp hmem
    obtain ⟨position, hposition, rfl⟩ := List.getElem_of_mem hdefinition
    exact hdefined ⟨position, hposition⟩
  · rw [h.others _ hmem, h'.others _ hmem]

/-- **The outcome depends on the definitions, not on which order of dependency they are in**, and it
is not changed by working them off again: it is the one settled snapshot. -/
theorem resolve_is_settled_snapshot (ordered : Ordered definitions) (base : Snapshot)
    (fields : Json) :
    (∀ snapshot, Settled definitions base fields snapshot ↔
      snapshot = resolve definitions base fields) ∧
    (∀ others, Ordered others → others.Perm definitions →
      resolve others base fields = resolve definitions base fields) ∧
    resolve definitions (resolve definitions base fields) fields =
      resolve definitions base fields := by
  have hsettled := ordered.settled_resolve base fields
  refine ⟨fun snapshot => ?_, fun others ordered' hperm => ?_, ?_⟩
  · exact ⟨fun h => ordered.eq_of_settled h hsettled, fun h => h ▸ hsettled⟩
  · have hothers := ordered'.settled_resolve base fields
    refine ordered.eq_of_settled ⟨fun definition hmem => ?_, fun fact hmem => ?_⟩ hsettled
    · exact hothers.defined definition (hperm.mem_iff.mpr hmem)
    · exact hothers.others fact fun h => hmem ((hperm.map _).mem_iff.mp h)
  · have hagain := ordered.settled_resolve (resolve definitions base fields) fields
    refine ordered.eq_of_settled ⟨hagain.defined, fun fact hmem => ?_⟩ hsettled
    rw [hagain.others fact hmem, hsettled.others fact hmem]

/-- Definitions of which the later ones build on the earlier ones and on core facts. -/
def leadDefinitions : List Definition := [
  { name := "has_phone", derivation := .present, field := some "contact.phone" },
  { name := "qualified", derivation := .composite, conditions := [⟨"has_phone"⟩, ⟨"has_contact"⟩] },
  { name := "hot", derivation := .composite, logic := some .any,
    conditions := [⟨"qualified"⟩, ⟨"visit_scheduled"⟩] },
  { name := "has_email", derivation := .present, field := some "contact.email" }]

/-- The same definitions in another order. -/
def shuffledDefinitions : List Definition :=
  leadDefinitions.drop 3 ++ leadDefinitions.take 3

/-- A definition that builds on none of the others may be moved to the front. -/
theorem resolve_is_settled_snapshot_leadDefinitions :
    Ordered leadDefinitions ∧ Ordered shuffledDefinitions ∧
    shuffledDefinitions ≠ leadDefinitions ∧ shuffledDefinitions.Perm leadDefinitions ∧
    ∀ base fields, resolve shuffledDefinitions base fields = resolve leadDefinitions base fields ∧
      resolve leadDefinitions (resolve leadDefinitions base fields) fields =
        resolve leadDefinitions base fields := by
  have hlead : Ordered leadDefinitions := ⟨by decide, by decide⟩
  have hshuffled : Ordered shuffledDefinitions := ⟨by decide, by decide⟩
  have hperm : shuffledDefinitions.Perm leadDefinitions := List.perm_append_comm
  have hmoved : shuffledDefinitions ≠ leadDefinitions := by
    simp [shuffledDefinitions, leadDefinitions]
  refine ⟨hlead, hshuffled, hmoved, hperm, fun base fields => ?_⟩
  obtain ⟨-, hsame, hagain⟩ := resolve_is_settled_snapshot hlead base fields
  exact ⟨hsame _ hshuffled hperm, hagain⟩

end FactGuard.Fact
