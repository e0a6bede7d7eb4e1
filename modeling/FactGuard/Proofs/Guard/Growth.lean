import FactGuard.Guard.Basic
import FactGuard.Proofs.Fact.Positions

/-!
# Proofs/Guard/Growth — more data never switches off what is positive

A definition is positive if it neither compares a field nor asks for it to be missing, and a guard is
if it only asks for facts to be true. When more facts are true in the base and more of the fields
that definitions look up are there, the facts derived by positive definitions stay true
(`resolve_within`), whatever the definitions overwrite on the way, and so do positive guards
(`Guard.Positive.holds_mono`).
-/

namespace FactGuard

namespace Fact

/-- What is true in the first snapshot is true in the second. -/
def Snapshot.Within (snapshot larger : Snapshot) : Prop :=
  ∀ fact, snapshot.isTrue fact = true → larger.isTrue fact = true

/-- A definition that neither compares a field nor asks for it to be missing. -/
def Definition.Positive (definition : Definition) : Prop :=
  definition.derivation ≠ .equals ∧ definition.derivation ≠ .notPresent

/-- The paths of the lead fields that a definition looks up. -/
def Definition.paths (definition : Definition) : List String :=
  match definition.derivation with
  | .present | .notPresent | .equals => definition.field.toList
  | .anyPresent | .allPresent => definition.fields
  | .composite => []

/-! ## Facts -/

section Facts

variable {definition : Definition} {definitions : List Definition}
variable {snapshot larger : Snapshot} {fields fuller : Json}

/-- A fact is true if its value is the flag for it. -/
theorem Snapshot.valueOf_eq_true_iff {fact : String} :
    snapshot.valueOf fact = .bool true ↔ snapshot.isTrue fact = true := by
  rw [valueOf, isTrue, decide_eq_true_iff]
  cases snapshot.get? fact <;> simp

/-- A fact that is set in both snapshots keeps the order between them if its truth does. -/
theorem Snapshot.Within.set (h : snapshot.Within larger) (name : String) {flag another : Bool}
    (hflag : flag = true → another = true) :
    (snapshot.set name (.bool flag)).Within (larger.set name (.bool another)) := by
  intro fact
  rw [isTrue_set, isTrue_set]
  split
  · simpa using hflag
  · exact h fact

/-- With more facts known and more of its fields there, a positive definition stays derived. -/
theorem Definition.Positive.derives_mono (positive : definition.Positive)
    {known other : String → Prop} (hknown : ∀ fact, known fact → other fact)
    (hfields : ∀ path ∈ definition.paths, fields.PresentAt path → fuller.PresentAt path)
    (h : definition.Derives fields known) : definition.Derives fuller other := by
  cases h with
  | present kind operand there =>
    refine .present kind operand (hfields _ ?_ there)
    simp [paths, kind, operand]
  | notPresent kind => exact absurd kind positive.2
  | equals kind => exact absurd kind positive.1
  | anyPresent kind operand there =>
    refine .anyPresent kind operand (hfields _ ?_ there)
    simpa only [paths, kind] using operand
  | allPresent kind operands each =>
    refine .allPresent kind operands fun path hpath => hfields path ?_ (each path hpath)
    simpa only [paths, kind] using hpath
  | all kind logic operands each =>
    exact .all kind logic operands fun condition hmem => hknown _ (each condition hmem)
  | any kind logic operand met => exact .any kind logic operand (hknown _ met)

/-- A positive definition goes on to hold as fields and facts are added. -/
theorem Definition.Positive.holds_mono (positive : definition.Positive)
    (hwithin : snapshot.Within larger)
    (hfields : ∀ path ∈ definition.paths, fields.PresentAt path → fuller.PresentAt path)
    (h : definition.holds snapshot fields = true) : definition.holds larger fuller = true :=
  (positive.derives_mono hwithin hfields (derives_of_holds h)).holds

/-- **Positive facts stay true.** Both runs overwrite the same facts, and what the second one writes
is true where what the first one writes is. -/
theorem resolve_within (positive : ∀ definition ∈ definitions, definition.Positive)
    (hwithin : snapshot.Within larger)
    (hfields : ∀ definition ∈ definitions, ∀ path ∈ definition.paths,
      fields.PresentAt path → fuller.PresentAt path) :
    (resolve definitions snapshot fields).Within (resolve definitions larger fuller) := by
  induction definitions generalizing snapshot larger with
  | nil => exact hwithin
  | cons definition rest ih =>
    obtain ⟨hpositive, hrest⟩ := List.forall_mem_cons.mp positive
    obtain ⟨hpaths, hmore⟩ := List.forall_mem_cons.mp hfields
    rw [resolve_cons, resolve_cons]
    exact ih hrest (hwithin.set _ (hpositive.holds_mono hwithin hpaths)) hmore

end Facts

end Fact

/-! ## Guards -/

namespace Guard

/-- **Guards that only ask for facts to be true.** -/
inductive Positive : Guard → Prop
  | all {children : List Guard} (each : ∀ child ∈ children, Positive child) : Positive (.all children)
  | any {children : List Guard} (each : ∀ child ∈ children, Positive child) : Positive (.any children)
  | isTrue {fact : String} : Positive (.equals fact (.bool true))

/-- **A positive guard goes on to hold as more facts become true.** -/
theorem Positive.holds_mono {guard : Guard} {snapshot larger : Fact.Snapshot}
    (positive : guard.Positive) (hwithin : snapshot.Within larger)
    (h : guard.holds snapshot = true) : guard.holds larger = true := by
  induction positive with
  | all _ ih =>
    rw [holds, allHold_eq, List.all_eq_true] at h ⊢
    exact fun child hchild => ih child hchild (h child hchild)
  | any _ ih =>
    rw [holds, anyHolds_eq, List.any_eq_true] at h ⊢
    obtain ⟨child, hchild, hholds⟩ := h
    exact ⟨child, hchild, ih child hchild hholds⟩
  | isTrue =>
    rw [holds, decide_eq_true_iff, Fact.Snapshot.valueOf_eq_true_iff] at h ⊢
    exact hwithin _ h

end Guard

namespace Fact

/-- **More data never switches off a positive fact or guard.** -/
theorem growth_keeps_facts_and_guards {definitions : List Definition} {base richer : Snapshot}
    {fields fuller : Json} (positive : ∀ definition ∈ definitions, definition.Positive)
    (hfacts : ∀ fact, base.isTrue fact = true → richer.isTrue fact = true)
    (hfields : ∀ definition ∈ definitions, ∀ path ∈ definition.paths,
      fields.PresentAt path → fuller.PresentAt path) :
    (∀ fact, (resolve definitions base fields).isTrue fact = true →
      (resolve definitions richer fuller).isTrue fact = true) ∧
    ∀ guard : Guard, guard.Positive → guard.holds (resolve definitions base fields) = true →
      guard.holds (resolve definitions richer fuller) = true := by
  have hwithin := resolve_within positive hfacts hfields
  exact ⟨hwithin, fun guard hguard => hguard.holds_mono hwithin⟩

/-- Definitions that replace a core fact and build on what replaced it. -/
def contactDefinitions : List Definition := [
  { name := "reachable", derivation := .anyPresent, fields := ["contact.phone", "contact.email"] },
  { name := "has_contact", derivation := .composite, conditions := [⟨"reachable"⟩, ⟨"has_name"⟩] },
  { name := "profile", derivation := .allPresent, fields := ["contact.phone", "search.zone"] },
  { name := "ready", derivation := .composite, logic := some .any,
    conditions := [⟨"profile"⟩, ⟨"has_contact"⟩] }]

/-- A lead of whom only an e-mail address is known. -/
def emailLead : Json := .object [
  ("contact", .object [("email", .string "lead@mail"), ("phone", .string "")])]

/-- The same lead with a telephone and a wish. -/
def fullLead : Json := .object [
  ("contact", .object [("email", .string "lead@mail"), ("phone", .string "600 000 000")]),
  ("search", .object [("zone", .string "Centro")])]

/-- What is known from the conversation; one of the facts is derived anew. -/
def talkedFacts : Snapshot := (Snapshot.empty.set "has_name" (.bool true)).set "profile" (.bool true)

/-- The same, and that a visit was booked. -/
def bookedFacts : Snapshot := talkedFacts.set "visit_scheduled" (.bool true)

/-- A guard for leads that are ready and have shown who they are. -/
def readyGuard : Guard :=
  .all [.equals "ready" (.bool true),
    .any [.equals "profile" (.bool true), .equals "has_contact" (.bool true)]]

theorem positive_readyGuard : readyGuard.Positive :=
  .all <| List.forall_mem_cons.mpr ⟨.isTrue, List.forall_mem_singleton.mpr <|
    .any <| List.forall_mem_cons.mpr ⟨.isTrue, List.forall_mem_singleton.mpr .isTrue⟩⟩

/-- The lead was ready before, and still is once a visit is booked and the profile is filled in. -/
theorem growth_keeps_facts_and_guards_contactDefinitions :
    (resolve contactDefinitions talkedFacts emailLead).isTrue "profile" = false ∧
    (resolve contactDefinitions talkedFacts emailLead).isTrue "ready" = true ∧
    readyGuard.holds (resolve contactDefinitions talkedFacts emailLead) = true ∧
    (resolve contactDefinitions bookedFacts fullLead).isTrue "ready" = true ∧
    readyGuard.holds (resolve contactDefinitions bookedFacts fullLead) = true := by
  have positive : ∀ definition ∈ contactDefinitions, definition.Positive := by
    unfold Definition.Positive
    decide
  have hfacts : ∀ fact, talkedFacts.isTrue fact = true → bookedFacts.isTrue fact = true := by
    intro fact h
    rw [bookedFacts, Snapshot.isTrue_set]
    split
    · rfl
    · exact h
  have hfields : ∀ definition ∈ contactDefinitions, ∀ path ∈ definition.paths,
      emailLead.PresentAt path → fullLead.PresentAt path := by
    simp only [← Json.isPresent_at?_iff]
    decide
  have hready : (resolve contactDefinitions talkedFacts emailLead).isTrue "ready" = true := by
    decide +kernel
  have hholds : readyGuard.holds (resolve contactDefinitions talkedFacts emailLead) = true := by
    decide +kernel
  obtain ⟨hkept, hguard⟩ := growth_keeps_facts_and_guards positive hfacts hfields
  exact ⟨by decide +kernel, hready, hholds, hkept _ hready, hguard _ positive_readyGuard hholds⟩

end Fact

end FactGuard
