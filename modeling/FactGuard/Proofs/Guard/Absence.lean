import FactGuard.Proofs.Guard.Language

/-!
# Proofs/Guard/Absence — where guards are absent

`AbsentAt` says how deep in a stored value a guard is absent. Taking absent guards out changes what
operators are applied to and nothing else (`sole_settled_iff`), so a stored value is well formed
exactly if what is left of it is, and no guard is absent beyond the depth limit
(`wellFormed_iff_withoutAbsent`).
-/

namespace FactGuard.Guard

/-- The guards that an operator is applied to. -/
def Operator.children : Operator → Json → List Json
  | .all, .array children => children
  | .any, .array children => children
  | .not, child => [child]
  | _, _ => []

/-- **Absent guards by depth.** A stored value is absent itself, or a guard so many levels below it
is. -/
inductive AbsentAt : Nat → Json → Prop
  | root : AbsentAt 0 .null
  | child {level : Nat} {members : List (String × Json)} {operator : Operator} {body child : Json}
      (found : members.lookup operator.key = some body) (member : child ∈ operator.children body)
      (inner : AbsentAt level child) : AbsentAt (level + 1) (.object members)

variable {level : Nat} {operator other : Operator} {body found : Json}

theorem Operator.IsGroup.key (h : operator.IsGroup) : operator.key = "all" ∨ operator.key = "any" :=
  h.imp (congrArg Operator.key) (congrArg Operator.key)

theorem Operator.IsGroup.children_array (h : operator.IsGroup) (items : List Json) :
    operator.children (.array items) = items := by
  obtain rfl | rfl := h <;> rfl

theorem Operator.IsComparison.children (h : operator.IsComparison) (body : Json) :
    operator.children body = [] := by
  obtain rfl | rfl := h <;> rfl

/-- An operator is applied to the items of a list, or to one guard. -/
theorem Operator.mem_children_cases {child : Json} (h : child ∈ operator.children body) :
    (∃ items, operator.IsGroup ∧ body = .array items ∧ child ∈ items) ∨
      operator = .not ∧ body = child := by
  unfold Operator.children at h
  split at h
  · exact .inl ⟨_, .inl rfl, rfl, h⟩
  · exact .inl ⟨_, .inr rfl, rfl, h⟩
  · exact .inr ⟨rfl, (List.mem_singleton.mp h).symm⟩
  · cases h

theorem lookup_singleton_iff :
    [(operator.key, body)].lookup other.key = some found ↔ other = operator ∧ found = body := by
  rw [← mem_operands, operands_singleton, List.mem_singleton, Prod.mk.injEq]

/-- Below a single operator, a child is absent one level deeper than its parent says. -/
theorem absentAt_singleton_iff (operator : Operator) :
    AbsentAt level (.object [(operator.key, body)]) ↔
      ∃ lower, level = lower + 1 ∧ ∃ child ∈ operator.children body, AbsentAt lower child := by
  constructor
  · intro h
    cases h with
    | child found member inner =>
      obtain ⟨rfl, rfl⟩ := lookup_singleton_iff.mp found
      exact ⟨_, rfl, _, member, inner⟩
  · rintro ⟨lower, rfl, child, member, inner⟩
    exact .child (lookup_singleton_iff.mpr ⟨rfl, rfl⟩) member inner

/-! ## What is left of a node -/

/-- Only objects are rewritten. -/
theorem withoutAbsent_of_ne_object {node : Json} (h : ∀ members, node ≠ .object members) :
    withoutAbsent node = node := by
  rw [withoutAbsent]
  exact h

/-- A group loses its absent children, and the others are rewritten. -/
theorem settled_group (h : operator.IsGroup) (items : List Json) :
    settled operator.key (.array items) = .array ((given items).map withoutAbsent) := by
  obtain rfl | rfl := h <;> rfl

theorem settled_not (there : body ≠ .null) :
    settled Operator.not.key body = withoutAbsent body := by
  rw [Operator.key, settled]
  exact there

/-- A comparison is left as it is, whatever its operand holds. -/
theorem settled_comparison (h : operator.IsComparison) (body : Json) :
    settled operator.key body = body := by
  obtain rfl | rfl := h <;> simp [Operator.key, settled]

theorem settled_present (body : Json) : settled Operator.present.key body = body := by
  simp [Operator.key, settled]

theorem lookup_settled (members : List (String × Json)) (name : String) :
    (members.map fun (name, body) => (name, settled name body)).lookup name =
      (members.lookup name).map (settled name) := by
  induction members with
  | nil => rfl
  | cons member rest ih =>
    obtain ⟨first, body⟩ := member
    rw [List.map_cons, List.lookup_cons, List.lookup_cons]
    split
    · next heq => rw [eq_of_beq heq, Option.map_some]
    · exact ih

/-- Taking absent guards out keeps the operators of a node. -/
theorem sole_settled_iff {members : List (String × Json)} :
    Sole (members.map fun (name, body) => (name, settled name body)) operator found ↔
      ∃ body, Sole members operator body ∧ settled operator.key body = found := by
  simp only [Sole, lookup_settled, Option.map_eq_some_iff, Option.map_eq_none_iff]
  constructor
  · rintro ⟨⟨body, hbody, hfound⟩, hnone⟩
    exact ⟨body, ⟨hbody, hnone⟩, hfound⟩
  · rintro ⟨body, ⟨hbody, hnone⟩, hfound⟩
    exact ⟨⟨body, hbody, hfound⟩, hnone⟩

/-! ## Depth of absent guards -/

section WellFormed

variable {registry : Fact.Registry} {limit depth : Nat} {node : Json}

/-- Beside a sole operator, no other operator can be found. -/
theorem Sole.eq_of_lookup {members : List (String × Json)} (sole : Sole members operator body)
    (h : members.lookup other.key = some found) : other = operator ∧ found = body := by
  by_cases hother : other = operator
  · subst hother
    exact ⟨rfl, Option.some.inj (h.symm.trans sole.1)⟩
  · exact absurd (h.symm.trans (sole.2 other hother)) (Option.some_ne_none found)

/-- What is well formed at a depth is within the limit there. -/
theorem WellFormed.depth_le (h : WellFormed registry limit depth node) : depth ≤ limit := by
  cases h <;> assumption

/-- A well-formed node has one operator, and what that is applied to is well formed one level below. -/
theorem WellFormed.of_mem_children {members : List (String × Json)} {child : Json}
    (h : WellFormed registry limit depth (.object members))
    (found : members.lookup operator.key = some body) (member : child ∈ operator.children body) :
    Sole members operator body ∧ WellFormed registry limit (depth + 1) child := by
  cases h with
  | group _ grouping sole each =>
    obtain ⟨rfl, rfl⟩ := sole.eq_of_lookup found
    rw [grouping.children_array] at member
    exact ⟨sole, each child member⟩
  | not _ sole inner =>
    obtain ⟨rfl, rfl⟩ := sole.eq_of_lookup found
    obtain rfl := List.mem_singleton.mp member
    exact ⟨sole, inner⟩
  | comparison _ comparing sole =>
    obtain ⟨rfl, rfl⟩ := sole.eq_of_lookup found
    rw [comparing.children] at member
    cases member
  | present _ sole =>
    obtain ⟨rfl, rfl⟩ := sole.eq_of_lookup found
    cases member

/-- In a well-formed value no guard is absent beyond the limit. -/
theorem WellFormed.add_le_of_absentAt (h : WellFormed registry limit depth node)
    (habsent : AbsentAt level node) : depth + level ≤ limit := by
  induction habsent generalizing depth with
  | root => exact h.depth_le
  | child found member _ ih =>
    have := ih (h.of_mem_children found member).2
    omega

/-- What is left of a well-formed value is well formed. -/
theorem WellFormed.withoutAbsent (h : WellFormed registry limit depth node) :
    WellFormed registry limit depth (withoutAbsent node) := by
  induction h with
  | absent deep => exact .absent deep
  | group deep grouping sole _ ih =>
    rw [withoutAbsent_object]
    refine .group deep grouping (sole_settled_iff.mpr ⟨_, sole, settled_group grouping _⟩) ?_
    intro child hchild
    obtain ⟨item, hitem, rfl⟩ := List.mem_map.mp hchild
    exact ih item (mem_given.mp hitem).1
  | @not depth members child deep sole inner ih =>
    rw [withoutAbsent_object]
    by_cases hchild : child = .null
    · subst hchild
      refine .not deep (sole_settled_iff.mpr ⟨_, sole, rfl⟩) ?_
      exact .group inner.depth_le (.inl rfl) (sole_singleton_iff.mpr ⟨rfl, rfl⟩) nofun
    · exact .not deep (sole_settled_iff.mpr ⟨_, sole, settled_not hchild⟩) ih
  | comparison deep comparing sole known =>
    rw [withoutAbsent_object]
    exact .comparison deep comparing
      (sole_settled_iff.mpr ⟨_, sole, settled_comparison comparing _⟩) known
  | present deep sole known =>
    rw [withoutAbsent_object]
    exact .present deep (sole_settled_iff.mpr ⟨_, sole, settled_present _⟩) known

/-- **Absent children within the limit do no harm**: what is well formed without them is so with
them. -/
theorem wellFormed_of_withoutAbsent (h : WellFormed registry limit depth (withoutAbsent node))
    (hlevel : ∀ level, AbsentAt level node → depth + level ≤ limit) :
    WellFormed registry limit depth node := by
  induction node using storedInduction generalizing depth with
  | other node hother => rwa [withoutAbsent_of_ne_object hother] at h
  | node members hbody hitem =>
    rw [withoutAbsent_object] at h
    -- What is absent in a child is one level further up there than here.
    have hbelow : ∀ {operator : Operator} {body child : Json},
        members.lookup operator.key = some body → child ∈ operator.children body →
        ∀ level, AbsentAt level child → depth + 1 + level ≤ limit := by
      intro operator body child hfound hchild level habsent
      have := hlevel _ (.child hfound hchild habsent)
      omega
    cases h with
    | group deep grouping sole each =>
      obtain ⟨body, hsole, hsettled⟩ := sole_settled_iff.mp sole
      obtain ⟨items, rfl, rfl⟩ := (settled_array_iff grouping.key).mp hsettled
      refine .group deep grouping hsole fun item hmem => ?_
      have hdeeper := hbelow hsole.1 (grouping.children_array items ▸ hmem)
      by_cases hnull : item = .null
      · subst hnull
        exact .absent (hdeeper 0 .root)
      · have hkept := List.mem_map_of_mem (f := withoutAbsent) (mem_given.mpr ⟨hmem, hnull⟩)
        exact hitem _ _ (mem_operands.mpr hsole.1) item hmem (each _ hkept) hdeeper
    | not deep sole inner =>
      obtain ⟨body, hsole, rfl⟩ := sole_settled_iff.mp sole
      have hdeeper := hbelow hsole.1 (List.mem_singleton_self body)
      refine .not deep hsole ?_
      by_cases hnull : body = .null
      · subst hnull
        exact .absent (hdeeper 0 .root)
      · rw [settled_not hnull] at inner
        exact hbody _ _ (mem_operands.mpr hsole.1) inner hdeeper
    | comparison deep comparing sole known =>
      obtain ⟨body, hsole, hsettled⟩ := sole_settled_iff.mp sole
      rw [settled_comparison comparing] at hsettled
      exact .comparison deep comparing (hsettled ▸ hsole) known
    | present deep sole known =>
      obtain ⟨body, hsole, hsettled⟩ := sole_settled_iff.mp sole
      rw [settled_present] at hsettled
      exact .present deep (hsettled ▸ hsole) known

/-- **A value is well formed exactly if what is left of it is, and nothing is absent beyond the
limit.** -/
theorem wellFormed_iff_withoutAbsent :
    WellFormed registry limit depth node ↔
      WellFormed registry limit depth (withoutAbsent node) ∧
        ∀ level, AbsentAt level node → depth + level ≤ limit := by
  constructor
  · intro h
    exact ⟨h.withoutAbsent, fun level => h.add_le_of_absentAt⟩
  · rintro ⟨h, hlevel⟩
    exact wellFormed_of_withoutAbsent h hlevel

end WellFormed

end FactGuard.Guard
