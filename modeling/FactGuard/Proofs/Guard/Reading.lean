import FactGuard.Guard.Document
import FactGuard.Proofs.Pointwise
import FactGuard.Proofs.Success

/-!
# Proofs/Guard/Reading — what the readers of guards accept

Reading accepts exactly what writing produces (`read_eq_ok_iff`). Reading a stored guard accepts
exactly what becomes a written guard once absent children are taken out (`ofStored_eq_ok_iff`), and
the six lemmas `ofStored_all_iff` to `ofStored_present_iff` say what is stored, operator by
operator. Later modules take stored guards apart by those six alone.
-/

namespace FactGuard

/-! ## Scalars -/

theorem Json.Source.string_eq_ok_iff {json : Json} {text : String} :
    Json.Source.string (.value json) = .ok text ↔ json = .string text := by
  cases json <;> simp [Json.Source.string]

namespace Fact.Value

theorem ofJson?_eq_some_iff {json : Json} {value : Value} :
    ofJson? json = some value ↔ json = value.toJson :=
  ⟨fun h => (toJson_of_ofJson? h).symm, fun h => h ▸ ofJson?_toJson value⟩

theorem toJson_inj {value other : Value} : value.toJson = other.toJson ↔ value = other := by
  refine ⟨fun h => ?_, congrArg toJson⟩
  rw [← Option.some_inj, ← ofJson?_toJson value, h, ofJson?_toJson]

/-- **Values are read exactly from what they are written as.** -/
theorem read_eq_ok_iff {json : Json} {value : Value} :
    read (.value json) = .ok value ↔ json = value.toJson := by
  rw [← ofJson?_eq_some_iff, read, bind_eq_ok_iff]
  constructor
  · rintro ⟨_, ⟨⟩, h⟩
    cases hv : ofJson? json with
    | none => simp [hv, throw_ne_ok] at h
    | some found =>
      rw [hv] at h
      exact congrArg some (pure_eq_ok_iff.mp h)
  · intro h
    exact ⟨json, rfl, by rw [h]; rfl⟩

end Fact.Value

namespace Guard

open Json (Refusal)

/-! ## Lists read item by item -/

/-- A list is read if each of its items is, in their order. -/
theorem readAll_eq_ok_iff_forall₂ {items : List Json} {guards : List Guard} :
    readAll items = .ok guards ↔
      List.Forall₂ (fun guard item => read item = .ok guard) guards items := by
  induction items generalizing guards with
  | nil => simp [readAll, eq_comm]
  | cons item rest ih =>
    rw [readAll, List.forall₂_cons_right_iff]
    simp only [bind_eq_ok_iff, ih, pure_eq_ok_iff]
    constructor
    · rintro ⟨guard, hg, more, hm, rfl⟩
      exact ⟨guard, more, hg, hm, rfl⟩
    · rintro ⟨guard, more, hg, hm, rfl⟩
      exact ⟨guard, hg, more, hm, rfl⟩

/-! ## One operator -/

/-- Operators are named by their keys, to the letter. -/
theorem Operator.ofKey?_eq_some_iff {name : String} {operator : Operator} :
    Operator.ofKey? name = some operator ↔ name = operator.key := by
  constructor
  · intro h
    simpa [eq_comm] using List.find?_some h
  · rintro rfl
    cases operator <;> decide

theorem Operator.read_eq_ok_iff {name : String} {operator : Operator} :
    Operator.read name = .ok operator ↔ name = operator.key := by
  rw [← ofKey?_eq_some_iff, Operator.read]
  cases ofKey? name <;> simp

/-- A pair is read from a fact and a value, and from nothing else. -/
theorem readPair_eq_ok_iff {operator : Operator} {body : Json} {fact : String}
    {value : Fact.Value} :
    readPair operator body = .ok (fact, value) ↔ body = .array [.string fact, value.toJson] := by
  cases body with
  | array items =>
    match items with
    | [] => simp [readPair]
    | [name] => simp [readPair, bind_eq_ok_iff]
    | [name, operand] =>
      simp [readPair, bind_eq_ok_iff, map_eq_ok_iff, Json.Source.string_eq_ok_iff,
        Fact.Value.read_eq_ok_iff]
    | name :: operand :: extra :: more =>
      simp [readPair, bind_eq_ok_iff, map_eq_ok_iff, throw_ne_ok]
  | _ => simp [readPair]

/-- Reads what an operator is applied to. -/
def readBody (operator : Operator) (body : Json) : Except Refusal Guard :=
  match operator with
  | .all => all <$> readGroup body
  | .any => any <$> readGroup body
  | .not => not <$> read body
  | .equals => do
    let (fact, value) ← readPair .equals body
    return .equals fact value
  | .differs => do
    let (fact, value) ← readPair .differs body
    return .differs fact value
  | .present => present <$> Json.Source.string (.value body)

/-- The operator decides the constructor of what is read. -/
theorem operator_of_readBody {operator : Operator} {body : Json} {guard : Guard}
    (h : readBody operator body = .ok guard) : guard.operator = operator := by
  cases operator <;>
    simp only [readBody, map_eq_ok_iff, bind_eq_ok_iff, pure_eq_ok_iff] at h <;>
    obtain ⟨_, _, rfl⟩ := h <;> rfl

/-- Only objects with a single key are read as guards. -/
theorem exists_readBody {json : Json} {guard : Guard} :
    read json = .ok guard ↔
      ∃ operator body, json = .object [(operator.key, body)] ∧ readBody operator body = .ok guard := by
  match json with
  | .object [(name, body)] =>
    rw [read, bind_eq_ok_iff]
    simp only [Operator.read_eq_ok_iff, Json.object.injEq, List.cons.injEq, Prod.mk.injEq, and_true]
    constructor
    · rintro ⟨operator, rfl, h⟩
      exact ⟨operator, body, ⟨rfl, rfl⟩, by cases operator <;> exact h⟩
    · rintro ⟨operator, _, ⟨rfl, rfl⟩, h⟩
      exact ⟨operator, rfl, by cases operator <;> exact h⟩
  | .object [] => simp [read]
  | .object (_ :: _ :: _) => simp [read]
  | .string name => simp [read, bind_eq_ok_iff, throw_ne_ok]
  | .null => simp [read]
  | .bool _ => simp [read]
  | .number _ => simp [read]
  | .array _ => simp [read]

/-- A guard is read from a single member, which is named for its operator. -/
theorem read_eq_ok_iff_readBody {json : Json} {guard : Guard} :
    read json = .ok guard ↔
      ∃ body, json = .object [(guard.operator.key, body)] ∧
        readBody guard.operator body = .ok guard := by
  rw [exists_readBody]
  constructor
  · rintro ⟨operator, body, rfl, h⟩
    obtain rfl := operator_of_readBody h
    exact ⟨body, rfl, h⟩
  · rintro ⟨body, rfl, h⟩
    exact ⟨_, body, rfl, h⟩

/-! ## Whole guards -/

/-- Where each child is read exactly from what it is written as, so is a list of them. -/
theorem readGroup_eq_ok_iff {children : List Guard} (body : Json)
    (h : ∀ child ∈ children, ∀ json, read json = .ok child ↔ json = child.toJson) :
    readGroup body = .ok children ↔ body = .array (children.map toJson) := by
  cases body with
  | array items =>
    rw [readGroup, readAll_eq_ok_iff_forall₂, forall₂_congr_left h, forall₂_eq_map,
      Json.array.injEq]
  | _ => simp [readGroup]

/-- **Reading accepts exactly what writing produces.** -/
theorem read_eq_ok_iff {json : Json} {guard : Guard} :
    read json = .ok guard ↔ json = guard.toJson := by
  induction guard generalizing json with
  | all children ih =>
    have hgroup := fun body => readGroup_eq_ok_iff body fun child hc _ => ih child hc
    simp [read_eq_ok_iff_readBody, readBody, operator, Operator.key, toJson, map_eq_ok_iff, hgroup]
  | any children ih =>
    have hgroup := fun body => readGroup_eq_ok_iff body fun child hc _ => ih child hc
    simp [read_eq_ok_iff_readBody, readBody, operator, Operator.key, toJson, map_eq_ok_iff, hgroup]
  | not child ih =>
    rw [read_eq_ok_iff_readBody]
    simp [readBody, operator, Operator.key, toJson, map_eq_ok_iff, ih]
  | equals fact value =>
    simp [read_eq_ok_iff_readBody, readBody, operator, Operator.key, toJson, map_eq_ok_iff,
      readPair_eq_ok_iff]
  | differs fact value =>
    simp [read_eq_ok_iff_readBody, readBody, operator, Operator.key, toJson, map_eq_ok_iff,
      readPair_eq_ok_iff]
  | present fact =>
    simp [read_eq_ok_iff_readBody, readBody, operator, Operator.key, toJson, map_eq_ok_iff,
      Json.Source.string_eq_ok_iff]

/-! ## Absent children -/

/-- The children of a stored group that are there. -/
def given (items : List Json) : List Json := items.filter fun item => !item.isNull

theorem mem_given {item : Json} {items : List Json} :
    item ∈ given items ↔ item ∈ items ∧ item ≠ .null := by
  rw [given, List.mem_filter, Bool.not_eq_true', ← Bool.not_eq_true, Json.isNull_iff]

/-- Nothing is dropped from a list without nulls. -/
theorem given_eq_self_iff {items : List Json} :
    given items = items ↔ ∀ item ∈ items, item ≠ .null := by
  rw [given, List.filter_eq_self]
  refine forall₂_congr fun item _ => ?_
  rw [Bool.not_eq_true', ← Bool.not_eq_true, Json.isNull_iff]

/-- The children that are kept are those that are there, each rewritten. -/
theorem withoutAbsentChildren_eq (items : List Json) :
    withoutAbsentChildren items = (given items).map withoutAbsent := by
  induction items with
  | nil => rfl
  | cons item rest ih =>
    rw [withoutAbsentChildren, ih]
    cases h : item.isNull <;> simp [given, h]

/-- What stands under a name, without absent children. -/
def settled (name : String) (body : Json) : Json :=
  match name, body with
  | "all", .array items => .array ((given items).map withoutAbsent)
  | "any", .array items => .array ((given items).map withoutAbsent)
  | "not", .null => .object [("all", .array [])]
  | "not", child => withoutAbsent child
  | _, body => body

theorem withoutAbsentMembers_cons (name : String) (body : Json) (rest : List (String × Json)) :
    withoutAbsentMembers ((name, body) :: rest) =
      (name, settled name body) :: withoutAbsentMembers rest := by
  fun_cases settled name body with
  | case1 items => rw [withoutAbsentMembers, withoutAbsentChildren_eq]
  | case2 items => rw [withoutAbsentMembers, withoutAbsentChildren_eq]
  | case3 => rw [withoutAbsentMembers]
  | case4 child h =>
    rw [withoutAbsentMembers]
    exact h
  | case5 => rw [withoutAbsentMembers] <;> assumption

/-- Rewriting an object keeps its names and their order. -/
theorem withoutAbsent_object (members : List (String × Json)) :
    withoutAbsent (.object members) =
      .object (members.map fun (name, body) => (name, settled name body)) := by
  rw [withoutAbsent]
  congr 1
  induction members with
  | nil => rw [withoutAbsentMembers, List.map_nil]
  | cons member rest ih => rw [withoutAbsentMembers_cons, ih, List.map_cons]

/-- What is rewritten to an object with a single name was one with that name. -/
theorem withoutAbsent_eq_singleton_iff {stored body : Json} {name : String} :
    withoutAbsent stored = .object [(name, body)] ↔
      ∃ held, stored = .object [(name, held)] ∧ settled name held = body := by
  cases stored with
  | object members =>
    rw [withoutAbsent_object, Json.object.injEq, List.map_eq_singleton_iff]
    constructor
    · rintro ⟨⟨_, held⟩, rfl, h⟩
      obtain ⟨rfl, rfl⟩ := Prod.mk.inj h
      exact ⟨held, rfl, rfl⟩
    · rintro ⟨held, h, rfl⟩
      exact ⟨(name, held), Json.object.inj h, rfl⟩
  | _ => simp [withoutAbsent]

/-! ## Stored guards -/

/-- **A stored guard is readable exactly if it is a written guard once absent children are out.** -/
theorem ofStored_eq_ok_iff {stored : Json} {guard : Guard} :
    ofStored stored = .ok guard ↔ withoutAbsent stored = guard.toJson := by
  rw [ofStored, mapError_eq_ok_iff, read_eq_ok_iff]

/-- Items are read as children exactly if they are rewritten to what these are written as. -/
theorem forall₂_ofStored_iff {children : List Guard} {items : List Json} :
    List.Forall₂ (fun child item => ofStored item = .ok child) children items ↔
      items.map withoutAbsent = children.map toJson := by
  rw [eq_comm, ← List.forall₂_eq_eq_eq, List.forall₂_map_left_iff, List.forall₂_map_right_iff]
  exact forall₂_congr_left fun child _ item => ofStored_eq_ok_iff.trans eq_comm

/-- A group is rewritten to a list only if it was one. -/
theorem settled_array_iff {name : String} (hname : name = "all" ∨ name = "any") {held : Json}
    {kept : List Json} :
    settled name held = .array kept ↔
      ∃ items, held = .array items ∧ (given items).map withoutAbsent = kept := by
  constructor
  · intro h
    obtain rfl | rfl := hname <;> cases held <;> simp [settled] at h
    · exact ⟨_, rfl, h⟩
    · exact ⟨_, rfl, h⟩
  · rintro ⟨items, rfl, rfl⟩
    obtain rfl | rfl := hname <;> rw [settled]

theorem settled_group_iff {name : String} (hname : name = "all" ∨ name = "any") {held : Json}
    {children : List Guard} :
    settled name held = .array (children.map toJson) ↔
      ∃ items, held = .array items ∧
        List.Forall₂ (fun child item => ofStored item = .ok child) children (given items) := by
  simp only [settled_array_iff hname, forall₂_ofStored_iff]

/-- **A conjunction is read from a list of what its children are read from**, with nulls between
them. -/
theorem ofStored_all_iff {stored : Json} {children : List Guard} :
    ofStored stored = .ok (.all children) ↔
      ∃ items, stored = .object [("all", .array items)] ∧
        List.Forall₂ (fun child item => ofStored item = .ok child) children (given items) := by
  rw [ofStored_eq_ok_iff, toJson, toJsonAll_eq, withoutAbsent_eq_singleton_iff]
  simp only [settled_group_iff (.inl rfl)]
  exact ⟨fun ⟨_, h, items, hi, ho⟩ => ⟨items, hi ▸ h, ho⟩, fun ⟨items, h, ho⟩ => ⟨_, h, items, rfl, ho⟩⟩

theorem ofStored_any_iff {stored : Json} {children : List Guard} :
    ofStored stored = .ok (.any children) ↔
      ∃ items, stored = .object [("any", .array items)] ∧
        List.Forall₂ (fun child item => ofStored item = .ok child) children (given items) := by
  rw [ofStored_eq_ok_iff, toJson, toJsonAll_eq, withoutAbsent_eq_singleton_iff]
  simp only [settled_group_iff (.inr rfl)]
  exact ⟨fun ⟨_, h, items, hi, ho⟩ => ⟨items, hi ▸ h, ho⟩, fun ⟨items, h, ho⟩ => ⟨_, h, items, rfl, ho⟩⟩

theorem toJson_ne_null (guard : Guard) : guard.toJson ≠ .null := by
  cases guard <;> simp [toJson]

/-- The negation of an absent guard is read as the negation of the empty group. -/
theorem ofStored_not_iff {stored : Json} {child : Guard} :
    ofStored stored = .ok (.not child) ↔
      ∃ item, stored = .object [("not", item)] ∧
        (item = .null ∧ child = .all [] ∨ ofStored item = .ok child) := by
  have hempty : (.object [("all", .array [])] : Json) = child.toJson ↔ child = .all [] := by
    rw [← read_eq_ok_iff]
    exact ⟨fun h => (Except.ok.inj h).symm, fun h => h ▸ rfl⟩
  simp only [ofStored_eq_ok_iff, toJson, withoutAbsent_eq_singleton_iff]
  refine exists_congr fun item => and_congr_right fun _ => ?_
  cases item with
  | null => simp [settled, hempty, withoutAbsent, (toJson_ne_null child).symm]
  | _ => simp [settled]

/-- A comparison is read from what it is written as only. -/
theorem ofStored_equals_iff {stored : Json} {fact : String} {value : Fact.Value} :
    ofStored stored = .ok (.equals fact value) ↔
      stored = .object [("eq", .array [.string fact, value.toJson])] := by
  simp [ofStored_eq_ok_iff, toJson, withoutAbsent_eq_singleton_iff, settled]

theorem ofStored_differs_iff {stored : Json} {fact : String} {value : Fact.Value} :
    ofStored stored = .ok (.differs fact value) ↔
      stored = .object [("neq", .array [.string fact, value.toJson])] := by
  simp [ofStored_eq_ok_iff, toJson, withoutAbsent_eq_singleton_iff, settled]

theorem ofStored_present_iff {stored : Json} {fact : String} :
    ofStored stored = .ok (.present fact) ↔ stored = .object [("exists", .string fact)] := by
  simp [ofStored_eq_ok_iff, toJson, withoutAbsent_eq_singleton_iff, settled]

/-! ## Guards that may be absent -/

/-- A stored guard is absent, by being null or not there, or it is a node. -/
theorem absent_or_some (guard : Option Json) :
    (guard = none ∨ guard = some .null) ∨ ∃ node, guard = some node ∧ node ≠ .null := by
  cases guard with
  | none => exact .inl (.inl rfl)
  | some node =>
    by_cases h : node = .null
    · exact .inl (.inr (h ▸ rfl))
    · exact .inr ⟨node, rfl, h⟩

/-- A guard that is there is read as the node that it is. -/
theorem ofStored?_some {node : Json} (there : node ≠ .null) :
    ofStored? (some node) = some <$> ofStored node := by
  rw [ofStored?]
  exact there

theorem exists_of_ofStored? {stored : Option Json} {guard : Guard}
    (h : ofStored? stored = .ok (some guard)) :
    ∃ node, stored = some node ∧ ofStored node = .ok guard := by
  obtain (rfl | rfl) | ⟨node, rfl, there⟩ := absent_or_some stored
  · cases h
  · cases h
  · rw [ofStored?_some there, map_eq_ok_iff] at h
    obtain ⟨found, hfound, hsome⟩ := h
    exact ⟨node, rfl, Option.some.inj hsome ▸ hfound⟩

end Guard

end FactGuard
