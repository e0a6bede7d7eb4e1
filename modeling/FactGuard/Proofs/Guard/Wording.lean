import FactGuard.Proofs.Guard.Composition
import FactGuard.Proofs.Guard.RoundTrip

/-!
# Proofs/Guard/Wording — the preview of a guard, kind by kind

A guard is previewed from its document. `nodeText_group`, `nodeText_not` and `nodeText_about` say
what comes out for each of the three kinds of guards, with no document in between.
-/

namespace FactGuard.Guard

/-- The word between the children of a group. -/
def Connective.word : Connective → String
  | all => "Y"
  | any => "O"

/-- What a condition says of its fact, in words. -/
def Predicate.text : Predicate → String
  | equals value => "sea " ++ valueText value.toJson
  | differs value => "NO sea " ++ valueText value.toJson
  | present => "exista"

section

variable {label : String → String} {level : Nat}

/-- The preview of a node with one member goes by its operator. -/
theorem nodeText_singleton (operator : Operator) {body : Json} (there : body ≠ .null) :
    nodeText label level (.object [(operator.key, body)]) = leadingText label level operator body :=
  (sole_singleton_iff.mpr ⟨rfl, rfl⟩).nodeText_eq there label level

/-- A group is worded as its children, joined by the connective. -/
theorem nodeText_group (connective : Connective) (children : List Guard) :
    nodeText label level (connective.group children).toJson =
      joined level connective.word
        (children.map fun child => nodeText label (level + 1) child.toJson) := by
  have there : Json.array (children.map toJson) ≠ .null := nofun
  cases connective with
  | all =>
    rw [Connective.group, toJson_all, nodeText_singleton .all there, leadingText, List.map_map]
    rfl
  | any =>
    rw [Connective.group, toJson_any, nodeText_singleton .any there, leadingText, List.map_map]
    rfl

theorem nodeText_not (child : Guard) :
    nodeText label level (Guard.not child).toJson = "NO " ++ nodeText label (level + 1) child.toJson :=
  nodeText_singleton .not (toJson_ne_null child)

/-- A predicate is worded as the label of its fact and its own text. -/
theorem nodeText_about (fact : String) (predicate : Predicate) :
    nodeText label level (predicate.about fact).toJson = label fact ++ " " ++ predicate.text := by
  have hpair (value : Fact.Value) : Json.array [.string fact, value.toJson] ≠ .null := nofun
  have hname : Json.string fact ≠ .null := nofun
  cases predicate with
  | equals value =>
    refine (nodeText_singleton .equals (hpair value)).trans ?_
    simp [leadingText, comparisonText, Predicate.text, ← String.toList_inj]
  | differs value =>
    refine (nodeText_singleton .differs (hpair value)).trans ?_
    simp [leadingText, comparisonText, Predicate.text, ← String.toList_inj]
  | present =>
    refine (nodeText_singleton .present hname).trans ?_
    simp [leadingText, Predicate.text, ← String.toList_inj]

/-- Below the root, a guard has the same text at every level. -/
theorem nodeText_succ_congr (guard : Guard) (level other : Nat) :
    nodeText label (level + 1) guard.toJson = nodeText label (other + 1) guard.toJson := by
  induction guard using kindInduction generalizing level other with
  | group connective children ih =>
    rw [nodeText_group, nodeText_group, joined, joined, if_neg (Nat.succ_ne_zero level),
      if_neg (Nat.succ_ne_zero other),
      List.map_congr_left fun child hchild => ih child hchild (level + 1) (other + 1)]
  | not child ih => rw [nodeText_not, nodeText_not, ih (level + 1) (other + 1)]
  | condition fact predicate => rw [nodeText_about, nodeText_about]

end

end FactGuard.Guard
