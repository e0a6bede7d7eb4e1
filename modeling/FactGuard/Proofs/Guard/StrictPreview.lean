import FactGuard.Proofs.Guard.StoredPreview

/-!
# Proofs/Guard/StrictPreview — what a preview does not know

A preview makes something of every stored value: where it cannot read a node, it says that the
condition is unknown. `previewWith` puts something else in that place, or nothing at all, so that the
whole preview fails. On a valid guard the two part only where a guard is absent
(`valid_guards_preview_without_fallback`).
-/

namespace FactGuard.Guard

/-! ## Previews with another fallback -/

/-- A comparison in words; `unknown` stands for one that cannot be read. -/
def comparisonTextWith (unknown : Option String) (label : String → String) (verb : String) :
    Json → Option String
  | .array [.string fact, value] => some (label fact ++ " " ++ verb ++ " " ++ valueText value)
  | _ => unknown

mutual

/-- **A node in words, where `unknown` stands for what cannot be read**: some text, or none, and then
nothing that it is part of can be put in words either. -/
def nodeTextWith (unknown : Option String) (label : String → String) (level : Nat) (node : Json) :
    Option String :=
  match node with
  | .object members =>
    match h : leading? members with
    | some (.all, .array children) =>
      (childTextsWith unknown label (level + 1) children).map (joined level "Y")
    | some (.any, .array children) =>
      (childTextsWith unknown label (level + 1) children).map (joined level "O")
    | some (.not, child) => (nodeTextWith unknown label (level + 1) child).map ("NO " ++ ·)
    | some (.equals, body) => comparisonTextWith unknown label "sea" body
    | some (.differs, body) => comparisonTextWith unknown label "NO sea" body
    | some (.present, .string fact) => some (label fact ++ " exista")
    | _ => unknown
  | _ => unknown
termination_by sizeOf node
decreasing_by
  all_goals
    have := sizeOf_lt_of_leading? h
    simp_all only [Json.object.sizeOf_spec, Json.array.sizeOf_spec]
    omega

/-- The children of a group in words, if all of them can be put so. -/
def childTextsWith (unknown : Option String) (label : String → String) (level : Nat)
    (children : List Json) : Option (List String) :=
  match children with
  | [] => some []
  | child :: rest => do
    let text ← nodeTextWith unknown label level child
    let texts ← childTextsWith unknown label level rest
    return text :: texts
termination_by sizeOf children

end

/-- The preview of a stored guard, where `unknown` stands for what cannot be read. -/
def previewWith (unknown : Option String) (registry : Fact.Registry) : Option Json → Option String
  | none => some unrestrictedText
  | some .null => some unrestrictedText
  | some node => nodeTextWith unknown registry.label 0 node

/-! ## Node by node -/

section

variable {unknown : Option String} {label : String → String} {level : Nat}

/-- The preview of what the leading operator of a node is applied to. -/
def leadingTextWith (unknown : Option String) (label : String → String) (level : Nat) :
    Operator → Json → Option String
  | .all, .array children =>
    (childTextsWith unknown label (level + 1) children).map (joined level "Y")
  | .any, .array children =>
    (childTextsWith unknown label (level + 1) children).map (joined level "O")
  | .not, child => (nodeTextWith unknown label (level + 1) child).map ("NO " ++ ·)
  | .equals, body => comparisonTextWith unknown label "sea" body
  | .differs, body => comparisonTextWith unknown label "NO sea" body
  | .present, .string fact => some (label fact ++ " exista")
  | _, _ => unknown

theorem nodeTextWith_object (unknown : Option String) (label : String → String) (level : Nat)
    (members : List (String × Json)) :
    nodeTextWith unknown label level (.object members) =
      match leading? members with
      | some (operator, body) => leadingTextWith unknown label level operator body
      | none => unknown := by
  rw [nodeTextWith]
  split
  case h_1 h | h_2 h | h_3 h | h_4 h | h_5 h | h_6 h =>
    rw [h]
    rfl
  · cases h : leading? members with
    | none => rfl
    | some operand =>
      obtain ⟨operator, body⟩ := operand
      change unknown = leadingTextWith unknown label level operator body
      rw [leadingTextWith] <;> simp_all

theorem nodeTextWith_other {node : Json} (h : ∀ members, node ≠ .object members) :
    nodeTextWith unknown label level node = unknown := by
  rw [nodeTextWith]
  exact h

/-- A group is in words if its children are. -/
theorem childTextsWith_eq_some {children : List Json}
    (h : ∀ child ∈ children,
      nodeTextWith unknown label level child = some (nodeText label level child)) :
    childTextsWith unknown label level children = some (childTexts label level children) := by
  induction children with
  | nil => rw [childTextsWith, childTexts]
  | cons child rest ih =>
    obtain ⟨hchild, hrest⟩ := List.forall_mem_cons.mp h
    rw [childTextsWith, childTexts, hchild, ih hrest]
    rfl

/-- One child that cannot be put in words is enough. -/
theorem childTextsWith_eq_none {children : List Json} {child : Json} (hchild : child ∈ children)
    (h : nodeTextWith unknown label level child = none) :
    childTextsWith unknown label level children = none := by
  induction hchild with
  | head rest => rw [childTextsWith, h]; rfl
  | tail first _ ih =>
    rw [childTextsWith, ih]
    cases nodeTextWith unknown label level first <;> rfl

/-- With the fallback in place, the text of a comparison is the usual one. -/
theorem comparisonTextWith_unknownText (verb : String) (body : Json) :
    comparisonTextWith (some unknownText) label verb body = some (comparisonText label verb body) := by
  by_cases hpair : ∃ fact value, body = .array [.string fact, value]
  · obtain ⟨fact, value, rfl⟩ := hpair
    rfl
  · rw [not_exists] at hpair
    have hother (fact : String) (value : Json) : body ≠ .array [.string fact, value] :=
      fun h => hpair fact ⟨value, h⟩
    rw [comparisonTextWith, comparisonText]
    · exact hother
    · exact hother

/-- **With the text for unknown conditions, this is the preview itself.** -/
theorem nodeTextWith_unknownText (node : Json) (level : Nat) :
    nodeTextWith (some unknownText) label level node = some (nodeText label level node) := by
  induction node using storedInduction generalizing level with
  | other node hother =>
    rw [nodeTextWith_other hother, nodeText_other label level hother]
  | node members hbody hitem =>
    rw [nodeTextWith_object, nodeText_object]
    cases hleading : leading? members with
    | none => rfl
    | some operand =>
      obtain ⟨operator, body⟩ := operand
      have hmem := List.mem_of_find?_eq_some hleading
      change leadingTextWith (some unknownText) label level operator body =
        some (leadingText label level operator body)
      fun_cases leadingText label level operator body with
      | case1 items | case2 items =>
        rw [leadingTextWith, childTextsWith_eq_some fun item hi => hitem _ items hmem item hi _,
          childTexts_eq, Option.map_some]
      | case3 => rw [leadingTextWith, hbody _ _ hmem, Option.map_some]
      | case4 | case5 => rw [leadingTextWith, comparisonTextWith_unknownText]
      | case6 fact => rw [leadingTextWith]
      | case7 => rw [leadingTextWith] <;> simp_all

/-! ## Well-formed guards -/

/-- The text of an object with a sole operator is the one that this operator leads. -/
theorem Sole.nodeTextWith_eq {members : List (String × Json)} {operator : Operator} {body : Json}
    (sole : Sole members operator body) (there : body ≠ .null) (unknown : Option String)
    (label : String → String) (level : Nat) :
    nodeTextWith unknown label level (.object members) =
      leadingTextWith unknown label level operator body := by
  rw [nodeTextWith_object, sole.leading?_eq_some there]

section

variable {registry : Fact.Registry} {limit depth : Nat} {node : Json}

/-- **A well-formed value in which nothing is absent has no unknown condition**: whatever stands for
one, it is put in words in the same way. -/
theorem WellFormed.nodeTextWith_eq (h : WellFormed registry limit depth node)
    (there : ∀ lower, ¬AbsentAt lower node) (unknown : Option String) (level : Nat) :
    nodeTextWith unknown label level node = some (nodeText label level node) := by
  induction h generalizing level with
  | absent => exact absurd .root (there 0)
  | @group _ _ operator children _ grouping sole _ ih =>
    have hbelow : ∀ child ∈ children, ∀ lower, ¬AbsentAt lower child :=
      fun child hchild lower habsent =>
        there _ (.child sole.1 (by rwa [grouping.children_array]) habsent)
    have hchildren := childTextsWith_eq_some fun child hchild =>
      ih child hchild (hbelow child hchild) (level + 1)
    rw [sole.nodeTextWith_eq (by simp), sole.nodeText_eq (by simp)]
    obtain rfl | rfl := grouping <;>
      rw [leadingTextWith, hchildren, leadingText, childTexts_eq, Option.map_some]
  | @not _ _ child _ sole _ ih =>
    have hbelow : ∀ lower, ¬AbsentAt lower child := fun lower habsent =>
      there _ (.child sole.1 (List.mem_singleton_self child) habsent)
    have hchild : child ≠ .null := by
      rintro rfl
      exact hbelow 0 .root
    rw [sole.nodeTextWith_eq hchild, sole.nodeText_eq hchild, leadingTextWith, ih hbelow,
      leadingText, Option.map_some]
  | comparison _ comparing sole =>
    rw [sole.nodeTextWith_eq (by simp), sole.nodeText_eq (by simp)]
    obtain rfl | rfl := comparing <;> rfl
  | present _ sole =>
    rw [sole.nodeTextWith_eq (by simp), sole.nodeText_eq (by simp)]
    rfl

/-- An operator cannot be put in words if a guard that it is applied to cannot. -/
theorem leadingTextWith_eq_none {operator : Operator} {body child : Json}
    (member : child ∈ operator.children body)
    (h : nodeTextWith unknown label (level + 1) child = none) :
    leadingTextWith unknown label level operator body = none := by
  obtain ⟨items, grouping, rfl, hitem⟩ | ⟨rfl, rfl⟩ := Operator.mem_children_cases member
  · have hitems := childTextsWith_eq_none hitem h
    obtain rfl | rfl := grouping <;> rw [leadingTextWith, hitems, Option.map_none]
  · rw [leadingTextWith, h, Option.map_none]

/-- An absent guard in a well-formed value is an unknown condition. -/
theorem WellFormed.nodeTextWith_none (h : WellFormed registry limit depth node) {lower : Nat}
    (habsent : AbsentAt lower node) (level : Nat) : nodeTextWith none label level node = none := by
  induction habsent generalizing depth level with
  | root => exact nodeTextWith_other nofun
  | @child _ _ _ body child found member _ ih =>
    obtain ⟨sole, hchild⟩ := h.of_mem_children found member
    by_cases hnull : body = .null
    · subst hnull
      rw [nodeTextWith_object, sole.leading?_eq_none]
    · rw [sole.nodeTextWith_eq hnull]
      exact leadingTextWith_eq_none member (ih hchild (level + 1))

end

end

/-! ## Valid guards -/

theorem previewWith_some (unknown : Option String) (registry : Fact.Registry) {node : Json}
    (there : node ≠ .null) :
    previewWith unknown registry (some node) = nodeTextWith unknown registry.label 0 node := by
  rw [previewWith]
  exact there

/-- **With the fallback in place, the strict preview is the usual one.** -/
theorem previewWith_unknownText (registry : Fact.Registry) (guard : Option Json) :
    previewWith (some unknownText) registry guard = some (previewStored registry guard) := by
  fun_cases previewStored registry guard with
  | case1 | case2 => rfl
  | case3 node there => rw [previewWith_some _ _ there, nodeTextWith_unknownText]

/-- **A valid guard is previewed without fallback.** A preview says of what it cannot read that the
condition is unknown; a strict one fails there, and is otherwise the same. On a valid guard in which no
child is absent, whatever else its nodes hold and its facts are compared with, the strict preview
succeeds with the same text, and so does one with any other fallback. An absent child makes the strict
preview fail. -/
theorem valid_guards_preview_without_fallback (registry : Fact.Registry) :
    (∀ guard : Option Json,
      previewWith (some unknownText) registry guard = some (previewStored registry guard)) ∧
    ∀ (validator : Validator) (path : String) (node : Json),
      (validator.validateStored registry path (some node)).valid = true →
      ((∀ level, ¬AbsentAt (level + 1) node) → ∀ unknown : Option String,
        previewWith unknown registry (some node) = some (previewStored registry (some node))) ∧
      ((∃ level, AbsentAt (level + 1) node) → previewWith none registry (some node) = none) := by
  refine ⟨previewWith_unknownText registry, fun validator path node hvalid => ?_⟩
  have hwell := valid_iff_wellFormed.mp hvalid
  by_cases hnull : node = .null
  · subst hnull
    refine ⟨fun _ unknown => rfl, ?_⟩
    rintro ⟨level, ⟨⟩⟩
  · constructor
    · intro hchild unknown
      have hthere : ∀ level, ¬AbsentAt level node := by
        rintro (_ | level) habsent
        · cases habsent
          exact hnull rfl
        · exact hchild level habsent
      rw [previewWith_some _ _ hnull, previewStored_some _ hnull, hwell.nodeTextWith_eq hthere]
    · rintro ⟨level, habsent⟩
      rw [previewWith_some _ _ hnull, hwell.nodeTextWith_none habsent]

/-- The members of a comparison that bears a note, with a value that no fact can be worth. -/
def notedMembers : List (String × Json) :=
  [("eq", .array [.string "has_contact", .array [.number (.whole 1), .object []]]), ("note", .null)]

/-- A group of that comparison and a negation. -/
def notedGuard : Json := .object [
  ("all", .array [.object notedMembers, (Guard.not (.present "operation_type")).toJson])]

theorem not_absentAt_notedMembers (level : Nat) : ¬AbsentAt level (.object notedMembers) := by
  obtain ⟨body, sole⟩ : ∃ body, Sole notedMembers .equals body :=
    ⟨_, operands_eq_singleton_iff.mp rfl⟩
  rintro (_ | ⟨found, member, -⟩)
  obtain ⟨rfl, rfl⟩ := sole.eq_of_lookup found
  cases member

theorem not_absentAt_notedGuard (level : Nat) : ¬AbsentAt level notedGuard := by
  intro h
  obtain ⟨lower, -, child, hchild, habsent⟩ := (absentAt_singleton_iff .all).mp h
  obtain rfl | hchild := List.mem_cons.mp hchild
  · exact not_absentAt_notedMembers lower habsent
  · obtain rfl := List.mem_singleton.mp hchild
    exact not_absentAt_toJson _ lower habsent

/-- A valid guard with an odd operand needs no fallback, but one with an absent child does. -/
theorem valid_guards_preview_without_fallback_notedGuard :
    (Validator.validateStored ⟨2⟩ .core rootPath (some notedGuard)).valid = true ∧
    (∀ unknown, previewWith unknown .core (some notedGuard) =
      some "Tiene contacto sea 1,[object Object]\n✓ Y NO Tipo de operación exista") ∧
    (Validator.validateStored ⟨2⟩ .core rootPath (some (contactGroup [.null]))).valid = true ∧
    previewWith none .core (some (contactGroup [.null])) = none := by
  have hvalid : (Validator.validateStored ⟨2⟩ .core rootPath (some notedGuard)).valid = true := by
    decide +kernel
  have hnull : (Validator.validateStored ⟨2⟩ .core rootPath (some (contactGroup [.null]))).valid =
      true := by
    decide +kernel
  have htext : previewStored .core (some notedGuard) =
      "Tiene contacto sea 1,[object Object]\n✓ Y NO Tipo de operación exista" := by
    decide +kernel
  obtain ⟨-, hguards⟩ := valid_guards_preview_without_fallback .core
  have hnoted := (hguards ⟨2⟩ rootPath notedGuard hvalid).1 fun level =>
    not_absentAt_notedGuard (level + 1)
  rw [htext] at hnoted
  exact ⟨hvalid, hnoted, hnull, (hguards ⟨2⟩ rootPath _ hnull).2 ⟨0, absentAt_contactGroup⟩⟩

end FactGuard.Guard
