import FactGuard.Proofs.Fact.Frame
import FactGuard.Proofs.Fact.Merge
import Mathlib.Order.Fin.Basic

/-!
# Proofs/Fact/Positions — the values of defined facts, position by position

A fact may be defined several times, and a composite one may build on facts that are defined before
it, after it, or not at all. `Derives` says what makes a single definition true, and `Reads` what is
read of a fact once so many definitions have been worked off: what came out at the last position of
the fact so far, or its base value. The two fix the results of all positions
(`Accounts.unique`), and working off the definitions leaves what is read in the end
(`reads_resolve_take`).
-/

namespace FactGuard

/-- A field holds something: it is found, and neither null nor an empty text, list or object. -/
def Json.PresentAt (fields : Json) (path : String) : Prop :=
  ∃ value, fields.at? path = some value ∧
    value ≠ .null ∧ value ≠ .string "" ∧ value ≠ .array [] ∧ value ≠ .object []

/-- A field is present if its path leads to something that is neither null nor empty. -/
theorem Json.isPresent_at?_iff {fields : Json} {path : String} :
    isPresent (fields.at? path) = true ↔ fields.PresentAt path := by
  rw [PresentAt]
  cases fields.at? path with
  | none => simp [isPresent]
  | some value => cases value <;> simp [isPresent]

namespace Fact

/-! ## What makes a definition true -/

/-- **What makes a definition true**, given the lead fields and which facts are known to be true. One
without the operands it needs is not true, whatever it asks for. -/
inductive Definition.Derives (definition : Definition) (fields : Json) (known : String → Prop) : Prop
  | present {path : String} (kind : definition.derivation = .present)
      (operand : definition.field = some path) (there : fields.PresentAt path)
  | notPresent {path : String} (kind : definition.derivation = .notPresent)
      (operand : definition.field = some path) (missing : ¬fields.PresentAt path)
  | equals {path : String} (kind : definition.derivation = .equals)
      (operand : definition.field = some path)
      (same : (fields.at? path).getD .null == definition.value.getD .null)
  | anyPresent {path : String} (kind : definition.derivation = .anyPresent)
      (operand : path ∈ definition.fields) (there : fields.PresentAt path)
  | allPresent (kind : definition.derivation = .allPresent) (operands : definition.fields ≠ [])
      (each : ∀ path ∈ definition.fields, fields.PresentAt path)
  | all (kind : definition.derivation = .composite) (logic : definition.logic.getD .all = .all)
      (operands : definition.conditions ≠ [])
      (each : ∀ condition ∈ definition.conditions, known condition.fact)
  | any {condition : Condition} (kind : definition.derivation = .composite)
      (logic : definition.logic.getD .all = .any) (operand : condition ∈ definition.conditions)
      (met : known condition.fact)

section Derives

variable {definition : Definition} {fields : Json} {known other : String → Prop}

/-- With more facts known to be true, what could be derived still can. -/
theorem Definition.Derives.imp (h : definition.Derives fields known)
    (himp : ∀ fact, known fact → other fact) : definition.Derives fields other := by
  cases h with
  | present kind operand there => exact .present kind operand there
  | notPresent kind operand missing => exact .notPresent kind operand missing
  | equals kind operand same => exact .equals kind operand same
  | anyPresent kind operand there => exact .anyPresent kind operand there
  | allPresent kind operands each => exact .allPresent kind operands each
  | all kind logic operands each =>
    exact .all kind logic operands fun condition hmem => himp _ (each condition hmem)
  | any kind logic operand met => exact .any kind logic operand (himp _ met)

theorem Definition.derives_congr (h : ∀ fact, known fact ↔ other fact) :
    definition.Derives fields known ↔ definition.Derives fields other :=
  ⟨fun hknown => hknown.imp fun fact => (h fact).mp, fun hother => hother.imp fun fact => (h fact).mpr⟩

theorem Definition.derives_of_holds {snapshot : Snapshot}
    (h : definition.holds snapshot fields = true) :
    definition.Derives fields fun fact => snapshot.isTrue fact = true := by
  rw [Definition.holds] at h
  cases kind : definition.derivation <;> rw [kind] at h
  case present =>
    obtain ⟨path, operand, there⟩ := (Option.any_eq_true _ _).mp h
    exact .present kind operand (Json.isPresent_at?_iff.mp there)
  case notPresent =>
    obtain ⟨path, operand, missing⟩ := (Option.any_eq_true _ _).mp h
    rw [Bool.not_eq_true', ← Bool.not_eq_true, Json.isPresent_at?_iff] at missing
    exact .notPresent kind operand missing
  case equals =>
    obtain ⟨path, operand, same⟩ := (Option.any_eq_true _ _).mp h
    exact .equals kind operand same
  case anyPresent =>
    obtain ⟨path, operand, there⟩ := List.any_eq_true.mp h
    exact .anyPresent kind operand (Json.isPresent_at?_iff.mp there)
  case allPresent =>
    simp only [Bool.and_eq_true, List.all_eq_true, Json.isPresent_at?_iff] at h
    exact .allPresent kind (by simpa using h.1) h.2
  case composite =>
    cases logic : definition.logic.getD .all <;> rw [logic] at h
    case all =>
      simp only [Bool.and_eq_true, List.all_eq_true] at h
      exact .all kind logic (by simpa using h.1) h.2
    case any =>
      obtain ⟨condition, operand, met⟩ := List.any_eq_true.mp h
      exact .any kind logic operand met

/-- A definition that can be derived holds. -/
theorem Definition.Derives.holds {snapshot : Snapshot}
    (h : definition.Derives fields fun fact => snapshot.isTrue fact = true) :
    definition.holds snapshot fields = true := by
  rw [Definition.holds]
  cases h with
  | present kind operand there =>
    rw [kind]
    exact (Option.any_eq_true _ _).mpr ⟨_, operand, Json.isPresent_at?_iff.mpr there⟩
  | notPresent kind operand missing =>
    rw [← Json.isPresent_at?_iff, Bool.not_eq_true, ← Bool.not_eq_true'] at missing
    rw [kind]
    exact (Option.any_eq_true _ _).mpr ⟨_, operand, missing⟩
  | equals kind operand same =>
    rw [kind]
    exact (Option.any_eq_true _ _).mpr ⟨_, operand, same⟩
  | anyPresent kind operand there =>
    rw [kind]
    exact List.any_eq_true.mpr ⟨_, operand, Json.isPresent_at?_iff.mpr there⟩
  | allPresent kind operands each =>
    simp only [kind, Bool.and_eq_true, List.all_eq_true, Json.isPresent_at?_iff]
    exact ⟨by simpa using operands, each⟩
  | all kind logic operands each =>
    simp only [kind, logic, Bool.and_eq_true, List.all_eq_true]
    exact ⟨by simpa using operands, each⟩
  | any kind logic operand met =>
    simp only [kind, logic]
    exact List.any_eq_true.mpr ⟨_, operand, met⟩

/-- **A definition holds on a snapshot exactly if it is derived** from the facts that are true there. -/
theorem Definition.holds_iff_derives {snapshot : Snapshot} :
    definition.holds snapshot fields = true ↔
      definition.Derives fields fun fact => snapshot.isTrue fact = true :=
  ⟨derives_of_holds, Derives.holds⟩

end Derives

/-! ## What is read of a fact -/

section Reads

variable {definitions : List Definition} {base : Snapshot} {fields : Json}
variable {result other : Fin definitions.length → Bool} {bound : Nat} {fact : String}

/-- Of the first so many definitions, the one at the position is the last of the fact. -/
structure LastOf (definitions : List Definition) (bound : Nat) (fact : String)
    (position : Fin definitions.length) : Prop where
  before : position < bound
  named : definitions[position].name = fact
  last : ∀ later : Fin definitions.length, position < later → later < bound →
    definitions[later].name ≠ fact

/-- **What is read of a fact** once the first so many definitions have been worked off: what came
out at its last position, or its base value if none of them is of the fact. -/
inductive Reads (definitions : List Definition) (base : Snapshot)
    (result : Fin definitions.length → Bool) (bound : Nat) (fact : String) : Option Value → Prop
  | defined {position : Fin definitions.length} (last : LastOf definitions bound fact position) :
      Reads definitions base result bound fact (some (.bool (result position)))
  | base (undefined : ∀ position : Fin definitions.length, position < bound →
      definitions[position].name ≠ fact) :
      Reads definitions base result bound fact (base.get? fact)

/-- **Right results**: what comes out at a position is whether the definition there is derived from
what it reads of its conditions. -/
def Accounts (definitions : List Definition) (base : Snapshot) (fields : Json)
    (result : Fin definitions.length → Bool) : Prop :=
  ∀ position, result position = true ↔
    definitions[position].Derives fields fun fact =>
      Reads definitions base result position fact (some (.bool true))

theorem LastOf.unique {position another : Fin definitions.length}
    (h : LastOf definitions bound fact position) (h' : LastOf definitions bound fact another) :
    position = another := by
  obtain hlt | heq | hgt := Nat.lt_trichotomy position another
  · exact absurd h'.named (h.last another hlt h'.before)
  · exact Fin.ext heq
  · exact absurd h.named (h'.last position hgt h.before)

/-- A fact reads as one value. -/
theorem Reads.unique {value another : Option Value} (h : Reads definitions base result bound fact value)
    (h' : Reads definitions base result bound fact another) : value = another := by
  cases h with
  | defined last =>
    cases h' with
    | defined last' => rw [last.unique last']
    | base undefined => exact absurd last.named (undefined _ last.before)
  | base undefined =>
    cases h' with
    | defined last => exact absurd last.named (undefined _ last.before)
    | base => rfl

/-- A definition reads only results that are there before it. -/
theorem Reads.of_agree {value : Option Value} (h : Reads definitions base result bound fact value)
    (hagree : ∀ position : Fin definitions.length, position < bound →
      result position = other position) :
    Reads definitions base other bound fact value := by
  cases h with
  | defined last =>
    rw [hagree _ last.before]
    exact .defined last
  | base undefined => exact .base undefined

/-- A definition of another fact changes nothing in what is read. -/
theorem Reads.succ {value : Option Value} (h : Reads definitions base result bound fact value)
    (hbound : bound < definitions.length) (hname : definitions[bound].name ≠ fact) :
    Reads definitions base result (bound + 1) fact value := by
  have hother : ∀ position : Fin definitions.length, (position : Nat) = bound →
      definitions[position].name ≠ fact := by
    rintro ⟨position, hposition⟩ rfl
    exact hname
  cases h with
  | defined last =>
    refine .defined ⟨Nat.lt_succ_of_lt last.before, last.named, fun later hlater hlt => ?_⟩
    obtain hlt | heq := Nat.lt_succ_iff_lt_or_eq.mp hlt
    · exact last.last later hlater hlt
    · exact hother later heq
  | base undefined =>
    refine .base fun position hlt => ?_
    obtain hlt | heq := Nat.lt_succ_iff_lt_or_eq.mp hlt
    · exact undefined position hlt
    · exact hother position heq

/-! ## Working off the definitions -/

/-- What comes out at each position when definitions are worked off. -/
def results (definitions : List Definition) (base : Snapshot) (fields : Json)
    (position : Fin definitions.length) : Bool :=
  definitions[position].holds (resolve (definitions.take position) base fields) fields

/-- **Working off definitions leaves what is read in the end**, at every point on the way. -/
theorem reads_resolve_take (hbound : bound ≤ definitions.length) (fact : String) :
    Reads definitions base (results definitions base fields) bound fact
      ((resolve (definitions.take bound) base fields).get? fact) := by
  induction bound with
  | zero =>
    rw [List.take_zero, resolve_nil]
    exact .base fun position hlt => absurd hlt (Nat.not_lt_zero _)
  | succ bound ih =>
    rw [List.take_succ_eq_append_getElem hbound, resolve_append, resolve_cons, resolve_nil,
      Snapshot.get?_set]
    by_cases hname : definitions[bound].name = fact
    · rw [if_pos hname]
      have hlast : LastOf definitions (bound + 1) fact ⟨bound, hbound⟩ :=
        ⟨Nat.lt_succ_self bound, hname, fun later hlater hlt =>
          absurd hlater (Nat.not_lt.mpr (Nat.le_of_lt_succ hlt))⟩
      exact .defined hlast
    · rw [if_neg hname]
      exact (ih (Nat.le_of_succ_le hbound)).succ hbound hname

/-- **What a position reads** is what the definitions before it have left. -/
theorem reads_results_iff (hbound : bound ≤ definitions.length) {value : Option Value} :
    Reads definitions base (results definitions base fields) bound fact value ↔
      (resolve (definitions.take bound) base fields).get? fact = value :=
  ⟨(reads_resolve_take hbound fact).unique, fun h => h ▸ reads_resolve_take hbound fact⟩

/-- The results that are computed account for every position. -/
theorem accounts_results (definitions : List Definition) (base : Snapshot) (fields : Json) :
    Accounts definitions base fields (results definitions base fields) := by
  intro position
  rw [results, Definition.holds_iff_derives]
  refine Definition.derives_congr fun fact => ?_
  rw [reads_results_iff (Nat.le_of_lt position.isLt), Snapshot.isTrue, decide_eq_true_iff]

/-- **There is one right account of results.** -/
theorem Accounts.unique (h : Accounts definitions base fields result)
    (h' : Accounts definitions base fields other) : result = other := by
  funext position
  induction position using WellFoundedLT.induction with
  | _ position ih =>
    -- What the definition reads was settled at earlier positions.
    rw [Bool.eq_iff_iff, h position, h' position]
    refine Definition.derives_congr fun fact => ⟨fun hread => ?_, fun hread => ?_⟩
    · exact hread.of_agree ih
    · exact hread.of_agree fun earlier hbefore => (ih earlier hbefore).symm

/-- What all definitions have left is what is read past the last position. -/
theorem reads_resolve (definitions : List Definition) (base : Snapshot) (fields : Json)
    (fact : String) :
    Reads definitions base (results definitions base fields) definitions.length fact
      ((resolve definitions base fields).get? fact) := by
  have hread : Reads definitions base (results definitions base fields) definitions.length fact
      ((resolve (definitions.take definitions.length) base fields).get? fact) :=
    reads_resolve_take (Nat.le_refl _) fact
  rwa [List.take_length] at hread

/-- A fact that no definition names keeps its entry in the base. -/
theorem get?_resolve_of_notMem (h : fact ∉ definitions.map Definition.name) :
    (resolve definitions base fields).get? fact = base.get? fact := by
  have hread := reads_resolve definitions base fields fact
  generalize (resolve definitions base fields).get? fact = value at hread ⊢
  cases hread with
  | defined last => exact absurd (last.named ▸ List.mem_map_of_mem (List.getElem_mem _)) h
  | base => rfl

/-- A fact that is defined ends as a flag. -/
theorem exists_get?_resolve (base : Snapshot) (fields : Json) (position : Fin definitions.length) :
    ∃ flag, (resolve definitions base fields).get? definitions[position].name =
      some (.bool flag) := by
  have hread := reads_resolve definitions base fields definitions[position].name
  generalize (resolve definitions base fields).get? definitions[position].name = value at hread ⊢
  cases hread with
  | defined last => exact ⟨_, rfl⟩
  | base undefined => exact absurd rfl (undefined position position.isLt)

/-- **Every defined fact is worth what its last definition comes to**, and every other fact what it
was worth in the base. What a definition comes to depends on the lead fields and, through the
conditions of a composite fact, on the definitions before it alone; that fixes the results of all
positions. A defined fact is one of the booleans that its entry in the registry lists. -/
theorem resolve_follows_last_definitions (definitions : List Definition) (base : Snapshot)
    (fields : Json) :
    ∃ result : Fin definitions.length → Bool,
      (∀ other, Accounts definitions base fields other ↔ other = result) ∧
      (∀ fact, Reads definitions base result definitions.length fact
        ((resolve definitions base fields).get? fact)) ∧
      ∀ position : Fin definitions.length, ∃ info flag,
        (Registry.ofDefinitions definitions).get? definitions[position].name = some info ∧
        (resolve definitions base fields).get? definitions[position].name = some (.bool flag) ∧
        info.kind = .boolean ∧ .bool flag ∈ info.values := by
  have hresults := accounts_results definitions base fields
  refine ⟨results definitions base fields, fun other => ?_, reads_resolve definitions base fields,
    fun position => ?_⟩
  · exact ⟨fun h => h.unique hresults, fun h => h ▸ hresults⟩
  · have hmem : definitions[position].name ∈ definitions.map Definition.name :=
      List.mem_map_of_mem (List.getElem_mem position.isLt)
    obtain ⟨definition, -, -, hentry⟩ := Registry.exists_get?_foldl_define .core hmem
    obtain ⟨flag, hflag⟩ := exists_get?_resolve base fields position
    refine ⟨.custom definition, flag, hentry, hflag, rfl, ?_⟩
    cases flag <;> simp [Meta.custom, Meta.boolean]

end Reads

end Fact

end FactGuard
