import FactGuard.Fact.Derivation

/-!
# Proofs/Fact/Paths — where dotted paths lead

A path is followed segment by segment, and its segments are what stands between its dots
(`pathSegments_eq`). So a path that is put together with a dot is followed in two stages
(`Json.at?_append`), and steps none of which has a dot in it lead to the same node one by one and as a
path (`Json.Leads.at?_intercalate`).
-/

namespace FactGuard

/-- A path is split at every dot. -/
theorem pathSegments_eq (path : List Char) : pathSegments path = path.splitOn '.' := by
  induction path with
  | nil => rfl
  | cons c rest ih =>
    rw [pathSegments, List.splitOn_cons_eq_if_modifyHead, ih]
    by_cases hdot : c = '.'
    · rw [if_pos hdot, if_pos (beq_iff_eq.mpr hdot)]
    · rw [if_neg hdot, if_neg (mt beq_iff_eq.mp hdot)]
      cases hsegments : List.splitOn '.' rest with
      | nil => exact absurd hsegments (List.splitOn_ne_nil _ _)
      | cons => rfl

/-! ## Indices -/

namespace Text

variable {digits : List Char} {n : Nat}

/-- Digits that write a number in decimal. Zeros at the front do not matter. -/
structure Decimal (digits : List Char) (n : Nat) : Prop where
  nonempty : digits ≠ []
  isDigit : ∀ c ∈ digits, c.isDigit = true
  value : Nat.ofDigitChars 10 digits 0 = n

theorem decimal_toDigits (n : Nat) : Decimal (Nat.toDigits 10 n) n :=
  ⟨Nat.toDigits_ne_nil, fun _ => Nat.isDigit_of_mem_toDigits (by decide) (by decide),
    Nat.ofDigitChars_ten_toDigits⟩

theorem digitsValue_eq (digits : List Char) : digitsValue digits = Nat.ofDigitChars 10 digits 0 := by
  rw [digitsValue, Nat.ofDigitChars_eq_foldl]
  congr 1
  funext value c
  rw [Nat.mul_comm]

/-- A numeral consists of digits, so no other character occurs in it. -/
theorem Decimal.notMem {c : Char} (h : Decimal digits n) (hc : c.isDigit = false) : c ∉ digits := by
  intro hmem
  rw [h.isDigit c hmem] at hc
  cases hc

/-- A number in decimal is read as what it is. -/
theorem Decimal.numeral?_eq (h : Decimal digits n) : numeral? digits = some n := by
  have hunsigned : unsignedDigits digits = digits := by
    unfold unsignedDigits
    split
    · exact absurd List.mem_cons_self (h.notMem rfl)
    · rfl
  rw [numeral?, hunsigned, if_pos ⟨h.nonempty, List.all_eq_true.mpr h.isDigit⟩, digitsValue_eq, h.value]

end Text

/-! ## Following a path -/

namespace Json

/-- **Steps that lead from a value to a node in it** — the names of members, as far as they have no
dots in them, and the indices of items in decimal. -/
inductive Leads : Json → List String → Json → Prop
  | here (value : Json) : Leads value [] value
  | member {members : List (String × Json)} {name : String} {child node : Json} {steps : List String}
    (undotted : '.' ∉ name.toList) (found : members.lookup name = some child)
    (rest : Leads child steps node) : Leads (.object members) (name :: steps) node
  | item {items : List Json} {digits : String} {index : Nat} {child node : Json} {steps : List String}
    (written : Text.Decimal digits.toList index) (found : items[index]? = some child)
    (rest : Leads child steps node) : Leads (.array items) (digits :: steps) node

section

variable {value node : Json} {steps : List String}

/-- Following a path is a fold over its steps that may fail. -/
theorem at?_eq (value : Json) (path : String) :
    value.at? path = (path.toList.splitOn '.').foldlM step? value := by
  rw [at?, pathSegments_eq]

/-- **A path that is put together with a dot is followed in two stages.** -/
theorem at?_append (value : Json) (first second : String) :
    value.at? (first ++ "." ++ second) = (value.at? first).bind fun found => found.at? second := by
  have hsegments : (first ++ "." ++ second).toList.splitOn '.' =
      first.toList.splitOn '.' ++ second.toList.splitOn '.' := by
    rw [String.toList_append, String.toList_append, List.append_assoc]
    exact List.splitOn_append_cons_self _ _
  rw [at?_eq, hsegments, List.foldlM_append, at?_eq]
  exact congrArg _ (funext fun found => (found.at?_eq second).symm)

/-- The steps that lead somewhere have no dots. -/
theorem Leads.undotted (h : Leads value steps node) : ∀ step ∈ steps, '.' ∉ step.toList := by
  induction h with
  | here => exact nofun
  | member undotted _ _ ih => exact List.forall_mem_cons.mpr ⟨undotted, ih⟩
  | item written _ _ ih => exact List.forall_mem_cons.mpr ⟨written.notMem rfl, ih⟩

/-- Steps are followed one by one. -/
theorem Leads.foldlM_step? (h : Leads value steps node) :
    (steps.map String.toList).foldlM step? value = some node := by
  induction h with
  | here => rfl
  | @member members name child node steps _ found _ ih =>
    have hstep : step? (.object members) name.toList = some child := by
      rw [step?, String.ofList_toList, found]
    rw [List.map_cons, List.foldlM_cons, hstep]
    exact ih
  | @item items digits index child node steps written found _ ih =>
    have hstep : step? (.array items) digits.toList = some child := by
      rw [step?, written.numeral?_eq]
      exact found
    rw [List.map_cons, List.foldlM_cons, hstep]
    exact ih

/-- **Joined with dots, steps lead where they lead one by one.** -/
theorem Leads.at?_intercalate (h : Leads value steps node) (hsteps : steps ≠ []) :
    value.at? (String.intercalate "." steps) = some node := by
  have hundotted : ∀ segment ∈ steps.map String.toList, '.' ∉ segment :=
    List.forall_mem_map.mpr h.undotted
  have hsegments : (String.intercalate "." steps).toList.splitOn '.' = steps.map String.toList := by
    rw [String.toList_intercalate]
    exact List.splitOn_intercalate '.' hundotted (mt List.map_eq_nil_iff.mp hsteps)
  rw [at?_eq, hsegments, h.foldlM_step?]

/-- **Paths compose, and they reach every node that can be addressed.** A path followed by a dot and
another path leads where the other path leads from there, and nowhere if the first one leads nowhere.
Steps that lead to a node, joined with dots, are a path that leads to this node. -/
theorem paths_compose_and_reach (value : Json) :
    (∀ first second : String, value.at? (first ++ "." ++ second) =
      (value.at? first).bind fun found => found.at? second) ∧
    ∀ steps node, steps ≠ [] → Leads value steps node →
      value.at? (String.intercalate "." steps) = some node :=
  ⟨value.at?_append, fun _ _ hsteps h => h.at?_intercalate hsteps⟩

end

/-- A visit under an empty name, second in a list. -/
def namelessVisit : Json :=
  .object [("visits", .array [.null, .object [("", .string "2026-10-20")]])]

/-- A member with the empty name is reached through an array. -/
theorem paths_compose_and_reach_namelessVisit :
    Leads namelessVisit ["visits", "1", ""] (.string "2026-10-20") ∧
      namelessVisit.at? (String.intercalate "." ["visits", "1", ""]) = some (.string "2026-10-20") := by
  have hindex : Text.Decimal "1".toList 1 := Text.decimal_toDigits 1
  have hleads : Leads namelessVisit ["visits", "1", ""] (.string "2026-10-20") :=
    .member (by decide) rfl (.item hindex rfl (.member (by decide) rfl (.here _)))
  exact ⟨hleads, (paths_compose_and_reach namelessVisit).2 _ _ (by decide) hleads⟩

end Json

end FactGuard
