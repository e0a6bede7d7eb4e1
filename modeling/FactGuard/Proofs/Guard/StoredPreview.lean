import FactGuard.Proofs.Guard.RoundTrip
import FactGuard.Proofs.Guard.Verdict
import FactGuard.Proofs.Guard.Wording

/-!
# Proofs/Guard/StoredPreview — what a preview shows of absent guards

A guard is decided without its absent children, and previewed with them: an absent guard is shown as
an unknown condition. So taking absent guards out of a stored guard leaves it as it is, or makes its
preview shorter (`Readable.same_or_shorter`), and the preview is that of the guard read from it
exactly if no guard is absent (`preview_stored_eq_preview_read_iff`).
-/

namespace FactGuard.Guard

/-! ## Lengths of groups -/

/-- The length of several texts one after the other. -/
def totalLength (parts : List String) : Nat := (parts.flatMap String.toList).length

theorem totalLength_cons (part : String) (parts : List String) :
    totalLength (part :: parts) = part.length + totalLength parts := by
  rw [totalLength, List.flatMap_cons, List.length_append, String.length_toList, totalLength]

/-- The length of parts with a gap between them. -/
theorem length_intercalate (gap : String) (parts : List String) :
    (String.intercalate gap parts).length = totalLength parts + gap.length * (parts.length - 1) := by
  induction parts with
  | nil => simp [totalLength]
  | cons part parts ih =>
    cases parts with
    | nil => simp [totalLength, String.length_toList]
    | cons next more =>
      rw [String.intercalate_cons_cons, String.length_append, String.length_append, ih]
      simp only [totalLength_cons, List.length_cons, Nat.add_sub_cancel, Nat.mul_succ]
      omega

/-- A text joined from fewer letters, and no more parts, is shorter. -/
theorem length_joined_lt {level : Nat} {word : String} {kept parts : List String}
    (hcount : kept.length ≤ parts.length)
    (hletters : totalLength kept < totalLength parts) :
    (joined level word kept).length < (joined level word parts).length := by
  have hgaps (gap : String) :
      (String.intercalate gap kept).length < (String.intercalate gap parts).length := by
    rw [length_intercalate, length_intercalate]
    exact Nat.add_lt_add_of_lt_of_le hletters
      (Nat.mul_le_mul_left _ (Nat.sub_le_sub_right hcount 1))
  rw [joined, joined]
  split
  · exact hgaps _
  · simpa using hgaps _

/-! ## Stored guards without what is absent -/

section

variable {label : String → String} {items : List Json}

/-- A preview that is not changed by taking absent guards out, or gets shorter. -/
def SameOrShorter (label : String → String) (level : Nat) (node : Json) : Prop :=
  withoutAbsent node = node ∨
    (nodeText label level (withoutAbsent node)).length < (nodeText label level node).length

theorem nodeText_null (level : Nat) : nodeText label level .null = unknownText :=
  nodeText_other label level (by simp)

theorem given_cons_null (items : List Json) : given (.null :: items) = given items := rfl

theorem given_cons {item : Json} (there : item ≠ .null) (items : List Json) :
    given (item :: items) = item :: given items := by
  rw [given, List.filter_cons_of_pos, given]
  rwa [Bool.not_eq_true', ← Bool.not_eq_true, Json.isNull_iff]

/-- An absent child of a group takes room in its preview. -/
theorem totalLength_given (level : Nat)
    (each : ∀ item ∈ items, item ≠ .null → SameOrShorter label level item) :
    (given items).map withoutAbsent = items ∨
      totalLength (((given items).map withoutAbsent).map (nodeText label level)) <
        totalLength (items.map (nodeText label level)) := by
  induction items with
  | nil => exact .inl rfl
  | cons item rest ih =>
    have hrest := ih fun item hitem => each item (.tail _ hitem)
    by_cases hnull : item = .null
    · subst hnull
      have hlength : 0 < (nodeText label level .null).length := by
        rw [nodeText_null]
        decide
      right
      rw [given_cons_null, List.map_cons, totalLength_cons]
      rcases hrest with heq | hlt
      · rw [heq]
        omega
      · omega
    · rw [given_cons hnull]
      simp only [List.map_cons, totalLength_cons]
      rcases each item List.mem_cons_self hnull with hsame | hshorter <;>
        rcases hrest with heq | hlt
      · exact .inl (by rw [hsame, heq])
      · exact .inr (by rw [hsame]; omega)
      · exact .inr (by rw [heq]; omega)
      · exact .inr (by omega)

theorem nodeText_not_null (level : Nat) :
    nodeText label level (.object [(Operator.not.key, .null)]) = unknownText := by
  have sole : Sole [(Operator.not.key, .null)] .not .null := sole_singleton_iff.mpr ⟨rfl, rfl⟩
  rw [nodeText_object, sole.leading?_eq_none]

/-- An unknown condition is longer than the negation of the empty group. -/
theorem length_not_emptyGroup_lt (level : Nat) :
    (nodeText label level (Guard.not (.all [])).toJson).length < unknownText.length := by
  have hgroup : nodeText label (level + 1) (Guard.all []).toJson = joined (level + 1) "Y" [] :=
    nodeText_group .all []
  rw [nodeText_not, hgroup, joined, if_neg level.succ_ne_zero]
  decide

theorem withoutAbsent_ne_null {node : Json} (there : node ≠ .null) : withoutAbsent node ≠ .null := by
  by_cases hobject : ∃ members, node = .object members
  · obtain ⟨members, rfl⟩ := hobject
    rw [withoutAbsent_object]
    nofun
  · rwa [withoutAbsent_of_ne_object fun members h => hobject ⟨members, h⟩]

/-- **Without its absent guards a stored guard is the same, or its preview is shorter.** -/
theorem Readable.same_or_shorter {node : Json} (h : Readable node) (level : Nat) :
    SameOrShorter label level node := by
  induction h generalizing level with
  | @group operator items grouping each ih =>
    rw [SameOrShorter, withoutAbsent_singleton, settled_group grouping]
    refine (totalLength_given (level + 1) fun item hitem hnull =>
      ih item hitem hnull (level + 1)).imp (fun heq => by rw [heq]) fun hlt => ?_
    have hcount : (((given items).map withoutAbsent).map (nodeText label (level + 1))).length ≤
        (items.map (nodeText label (level + 1))).length := by
      simpa [given] using List.length_filter_le _ items
    have htext (items : List Json) : nodeText label level (.object [(operator.key, .array items)]) =
        leadingText label level operator (.array items) :=
      nodeText_singleton operator (by simp)
    rw [htext, htext]
    obtain rfl | rfl := grouping
    · exact length_joined_lt hcount hlt
    · exact length_joined_lt hcount hlt
  | @not child _ ih =>
    rw [SameOrShorter, withoutAbsent_singleton]
    by_cases hnull : child = .null
    · subst hnull
      right
      rw [nodeText_not_null]
      exact length_not_emptyGroup_lt level
    · rw [settled_not hnull]
      refine (ih hnull (level + 1)).imp (fun hsame => by rw [hsame]) fun hshorter => ?_
      rw [nodeText_singleton .not hnull, nodeText_singleton .not (withoutAbsent_ne_null hnull)]
      simpa [leadingText] using hshorter
  | comparison comparing => exact .inl (by rw [withoutAbsent_singleton, settled_comparison comparing])
  | present => exact .inl (by rw [withoutAbsent_singleton, settled_present])

end

/-! ## Previews of stored guards -/

section

variable {registry : Fact.Registry} {node : Json} {guard : Guard}

/-- A readable guard is its own rewriting exactly if it has no absent children. -/
theorem withoutAbsent_eq_self_iff (h : ofStored node = .ok guard) :
    withoutAbsent node = node ↔ ∀ level, ¬AbsentAt level node := by
  constructor
  · intro hsame
    rw [← hsame, ofStored_eq_ok_iff.mp h]
    exact not_absentAt_toJson guard
  · exact (readable_of_ofStored h).withoutAbsent_eq_self

/-- The preview of the guard that is read is that of what is stored without its absent guards. -/
theorem preview_eq_previewStored_withoutAbsent (h : ofStored node = .ok guard) :
    preview registry (some guard) = previewStored registry (some (withoutAbsent node)) := by
  rw [ofStored_eq_ok_iff.mp h, preview, Option.map_some]

theorem ne_null_of_ofStored (h : ofStored node = .ok guard) : node ≠ .null := by
  rintro rfl
  exact toJson_ne_null guard (ofStored_eq_ok_iff.mp h).symm

/-- **What is stored has the preview of the guard that is decided, exactly if nothing in it is
absent.** The preview of the guard is always that of what is stored without its absent guards. -/
theorem preview_stored_eq_preview_read_iff (registry : Fact.Registry) (node : Json) (guard : Guard)
    (h : ofStored node = .ok guard) :
    (previewStored registry (some node) = preview registry (some guard) ↔
      ∀ level, ¬AbsentAt level node) ∧
    previewStored registry (some (withoutAbsent node)) = preview registry (some guard) := by
  refine ⟨?_, (preview_eq_previewStored_withoutAbsent h).symm⟩
  rw [← withoutAbsent_eq_self_iff h, preview_eq_previewStored_withoutAbsent h]
  constructor
  · intro hsame
    have there := ne_null_of_ofStored h
    rw [previewStored_some _ there, previewStored_some _ (withoutAbsent_ne_null there)] at hsame
    have hshorter : SameOrShorter registry.label 0 node :=
      (readable_of_ofStored h).same_or_shorter 0
    exact hshorter.resolve_right (hsame ▸ Nat.lt_irrefl _)
  · intro hsame
    rw [hsame]

end

/-- The group of the example is read alike with and without nulls. -/
theorem ofStored_contactGroup (absent : List Json) (hnull : ∀ item ∈ absent, item = .null) :
    ofStored (contactGroup absent) = .ok (.all [.present "has_contact"]) := by
  refine ofStored_all_iff.mpr ⟨_, rfl, ?_⟩
  have hgiven : given (absent ++ [.object [("exists", .string "has_contact")]]) =
      [.object [("exists", .string "has_contact")]] := by
    rw [given, List.filter_append, List.filter_eq_nil_iff.mpr fun item hitem => by
      rw [hnull item hitem]; decide]
    rfl
  rw [hgiven]
  exact .cons (ofStored_present_iff.mpr rfl) .nil

theorem absentAt_contactGroup : AbsentAt 1 (contactGroup [.null]) :=
  (absentAt_singleton_iff .all).mpr ⟨0, rfl, .null, List.mem_cons_self, .root⟩

/-- One absent child makes the difference. -/
theorem preview_stored_eq_preview_read_iff_contactGroup :
    previewStored .core (some (contactGroup [])) =
      preview .core (some (.all [.present "has_contact"])) ∧
    previewStored .core (some (contactGroup [.null])) ≠
      preview .core (some (.all [.present "has_contact"])) := by
  constructor
  · refine (preview_stored_eq_preview_read_iff .core _ _ (ofStored_contactGroup [] nofun)).1.mpr ?_
    exact not_absentAt_toJson (.all [.present "has_contact"])
  · intro hsame
    have hread := ofStored_contactGroup [.null] fun item hitem => List.mem_singleton.mp hitem
    exact (preview_stored_eq_preview_read_iff .core _ _ hread).1.mp hsame 1 absentAt_contactGroup

/-- A valid stored guard does not always have the preview of the guard that is decided. -/
theorem not_preview_stored_eq_preview_read :
    ¬∀ (registry : Fact.Registry) (validator : Validator) (node : Json) (guard : Guard),
      (validator.validateStored registry rootPath (some node)).valid = true →
        ofStored node = .ok guard →
          previewStored registry (some node) = preview registry (some guard) := by
  intro h
  have hread := ofStored_contactGroup [.null] fun item hitem => List.mem_singleton.mp hitem
  have hvalid : (Validator.validateStored ⟨64⟩ .core rootPath (some (contactGroup [.null]))).valid =
      true := by
    decide +kernel
  have htext := h .core ⟨64⟩ _ _ hvalid hread
  have hstored : previewStored .core (some (contactGroup [.null])) =
      "Condición desconocida\n✓ Y Tiene contacto exista" := by
    decide +kernel
  have hguard : preview .core (some (.all [.present "has_contact"])) = "Tiene contacto exista" := by
    decide +kernel
  rw [hstored, hguard] at htext
  exact absurd htext (by decide)

end FactGuard.Guard
