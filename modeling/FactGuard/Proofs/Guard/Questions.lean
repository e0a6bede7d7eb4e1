import FactGuard.Proofs.Guard.Footprint
import FactGuard.Proofs.Guard.Occurrences

/-!
# Proofs/Guard/Questions — the facts that a guard asks about

A guard mentions a fact once for each condition in it that asks about the fact, in pre-order
(`mentions_eq_asked`), whether it is searched as it is stored or as it was read. So the facts of a
guard are those that its conditions ask about, in the order of the first question about each, and
nothing else in a snapshot decides whether the guard lets anything through.
-/

namespace FactGuard.Guard

/-- The facts that the conditions in a guard ask about, condition by condition, in pre-order. -/
def asked (guard : Guard) : List String :=
  guard.occurrences.filterMap fun occurrence => occurrence.node.question?.map Prod.snd

section Asked

variable {guard : Guard} {fact : String}

/-- What a guard asks for: its own fact, then those of its branches. -/
theorem asked_eq (guard : Guard) :
    guard.asked = (guard.question?.map Prod.snd).toList ++
      guard.branches.flatMap fun branch => branch.2.asked := by
  rw [asked, List.filterMap_eq_flatMap_toList, occurrences_eq, List.flatMap_cons, List.flatMap_assoc]
  congr 1
  refine List.flatMap_congr fun branch _ => ?_
  rw [asked, List.filterMap_eq_flatMap_toList, List.flatMap_map]
  rfl

/-- **A fact is mentioned by each condition that asks about it**, and by nothing else. -/
theorem mentions_eq_asked (guard : Guard) : guard.mentions = guard.asked := by
  induction guard using branchInduction with
  | _ guard ih =>
    rw [mentions_eq, asked_eq]
    congr 1
    exact List.flatMap_congr ih

/-- A fact is asked for by the node at some address. -/
theorem mem_asked_iff :
    fact ∈ guard.asked ↔ ∃ address node operator,
      guard.at? address = some node ∧ node.question? = some (operator, fact) := by
  rw [asked, List.mem_filterMap]
  constructor
  · rintro ⟨⟨address, node⟩, hmem, hquestion⟩
    obtain ⟨⟨operator, _⟩, hnode, rfl⟩ := Option.map_eq_some_iff.mp hquestion
    exact ⟨address, node, operator, mem_occurrences_iff.mp hmem, hnode⟩
  · rintro ⟨address, node, operator, hat, hnode⟩
    exact ⟨⟨address, node⟩, mem_occurrences_iff.mpr hat, by rw [hnode]; rfl⟩

theorem mem_facts_iff : fact ∈ guard.facts ↔ fact ∈ guard.asked := by
  rw [facts, List.mem_eraseDups, mentions_eq_asked]

/-- A condition mentions one fact. -/
theorem length_mentions (guard : Guard) : guard.mentions.length = guard.conditions := by
  have hgroup {children : List Guard}
      (ih : ∀ child ∈ children, child.mentions.length = child.conditions) :
      (mentionsOf children).length = conditionsOf children := by
    rw [mentionsOf_eq, conditionsOf_eq, List.length_flatMap, List.sum_eq_foldr, List.map_congr_left ih]
  induction guard with
  | all children ih | any children ih => exact hgroup ih
  | not child ih => exact ih
  | equals | differs | present => rfl

end Asked

/-- **The facts of a guard are what it asks about**, and all that it asks for. They are found where the
guard is stored just as in the guard that is read from there. Each is listed once, in the order of the
first condition on it, and there are no more of them than conditions. Snapshots in which these
facts have the same values are let through alike, so it makes no difference whether a fact is null or
missing. -/
theorem facts_are_asked (guard : Guard) :
    (∀ node, ofStored node = .ok guard → factsOfStored (some node) = guard.facts) ∧
    guard.facts.Nodup ∧
    (∀ fact, fact ∈ guard.facts ↔ ∃ address node operator,
      guard.at? address = some node ∧ node.question? = some (operator, fact)) ∧
    guard.facts.Pairwise (fun fact later => guard.asked.idxOf fact < guard.asked.idxOf later) ∧
    guard.facts.length ≤ guard.conditions ∧
    (∀ snapshot other : Fact.Snapshot,
      (∀ fact ∈ guard.facts, snapshot.valueOf fact = other.valueOf fact) →
        permits (some guard) snapshot = permits (some guard) other) ∧
    ∀ (snapshot : Fact.Snapshot) fact, snapshot.get? fact = none →
      permits (some guard) (snapshot.set fact .null) = permits (some guard) snapshot := by
  have hcongr (snapshot other : Fact.Snapshot)
      (h : ∀ fact ∈ guard.facts, snapshot.valueOf fact = other.valueOf fact) :
      permits (some guard) snapshot = permits (some guard) other := by
    refine holds_congr fun fact hfact => h fact ?_
    rw [facts, List.mem_eraseDups]
    exact hfact
  refine ⟨fun node hread => ?stored, nodup_eraseDups _, fun fact => ?asked, ?ordered, ?bounded, hcongr,
    fun snapshot fact hmissing => ?missing⟩
  case stored =>
    rw [factsOfStored, Option.map_some, Option.getD_some, storedMentions_eq hread, facts]
  case asked => rw [mem_facts_iff, mem_asked_iff]
  case ordered =>
    rw [facts, mentions_eq_asked]
    exact pairwise_idxOf_eraseDups guard.asked
  case bounded =>
    rw [← length_mentions]
    exact length_eraseDups_le guard.mentions
  case missing =>
    refine hcongr _ _ fun other _ => ?_
    rw [Fact.Snapshot.valueOf_set]
    split
    · next heq =>
      rw [← heq, Fact.Snapshot.valueOf, hmissing]
      rfl
    · rfl

/-- A guard that asks twice about one fact, stored beside a child that is absent. -/
def storedTwiceAsked : Json :=
  .object [("all", .array [.object [("eq", .array [.string "has_contact", .bool true])], .null,
    .object [("not", .object [("exists", .string "lead")])],
    .object [("neq", .array [.string "has_contact", .null])]])]

/-- A fact that is asked for twice is listed once, though both conditions count. -/
theorem facts_are_asked_storedTwiceAsked :
    ∃ guard, ofStored storedTwiceAsked = .ok guard ∧ guard.conditions = 3 ∧
      factsOfStored (some storedTwiceAsked) = ["has_contact", "lead"] := by
  let guard : Guard := .all [.equals "has_contact" (.bool true), .not (.present "lead"),
    .differs "has_contact" .null]
  have hread : ofStored storedTwiceAsked = .ok guard := by rfl
  obtain ⟨hstored, -⟩ := facts_are_asked guard
  exact ⟨guard, hread, by decide, (hstored _ hread).trans (by decide)⟩

end FactGuard.Guard
