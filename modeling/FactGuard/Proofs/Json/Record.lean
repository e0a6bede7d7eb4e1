import FactGuard.Json.Record
import FactGuard.Json.Writer
import FactGuard.Proofs.Success

/-!
# Proofs/Json/Record — how records are read

Whatever a record is read from, its slots change only as its fields fill them, so what every field
keeps is kept by the whole reading (`Record.read_invariant`). Reading an object takes its members one
after the other (`Record.takeMembers`), so it can be followed through a written record member by
member.
-/

namespace FactGuard.Json

variable {σ α β : Type}

/-! ## What reading keeps -/

/-- What every successful step keeps holds at the end of a fold that succeeds. -/
theorem foldlM_invariant {ε : Type} {step : σ → β → Except ε σ} {P : σ → Prop} {items : List β}
    (keeps : ∀ slots item filled, step slots item = .ok filled → P slots → P filled)
    {slots filled : σ} (h : items.foldlM step slots = .ok filled) (hslots : P slots) : P filled := by
  induction items generalizing slots with
  | nil => exact pure_eq_ok_iff.mp h ▸ hslots
  | cons item rest ih =>
    rw [List.foldlM_cons, bind_eq_ok_iff] at h
    obtain ⟨next, hnext, hrest⟩ := h
    exact ih hrest (keeps slots item next hnext hslots)

namespace Record

/-- No field of the record loses what is said of the slots. -/
def Keeps (record : Record σ) (P : σ → Prop) : Prop :=
  ∀ field ∈ record.fields, ∀ source slots filled,
    field.fill source slots = .ok filled → P slots → P filled

variable {record : Record σ} {P : σ → Prop} {source : Source} {slots filled : σ}

/-- One member by name: it is taken by its field, or it is passed over. -/
theorem Keeps.takeMember (keeps : record.Keeps P) {name : String}
    (h : record.takeMember name source slots = .ok filled) (hslots : P slots) : P filled := by
  rw [Record.takeMember.eq_def] at h
  split at h
  · next field hfield =>
    split at h
    · cases h
    · exact keeps field (List.mem_of_find?_eq_some hfield) source slots filled h hslots
  · split at h
    · cases h
    · split at h
      · exact Except.ok.inj h ▸ hslots
      · obtain ⟨-, -, hpure⟩ := bind_eq_ok_iff.mp h
        exact pure_eq_ok_iff.mp hpure ▸ hslots

/-- A record in list form: each item is taken by the field at its position. -/
theorem Keeps.takeItems (keeps : record.Keeps P) {fields : List (Field σ)}
    (hfields : fields ⊆ record.fields) {items : List Json}
    (h : record.takeItems fields items slots = .ok filled) (hslots : P slots) : P filled := by
  induction fields generalizing items slots with
  | nil => exact Except.ok.inj h ▸ hslots
  | cons field fields ih =>
    obtain ⟨hfield, hrest⟩ := List.cons_subset.mp hfields
    cases items with
    | nil =>
      rw [Record.takeItems] at h
      split at h
      · exact ih hrest h hslots
      · cases h
    | cons item items =>
      rw [Record.takeItems, bind_eq_ok_iff] at h
      obtain ⟨next, hnext, h⟩ := h
      exact ih hrest h (keeps field hfield _ _ _ hnext hslots)

/-- A record in list form as text, where the end of the document can intervene. -/
theorem Keeps.takeDrafts (keeps : record.Keeps P) {close : Close} {fields : List (Field σ)}
    (hfields : fields ⊆ record.fields) {items : List Draft}
    (h : record.takeDrafts close fields items slots = .ok filled) (hslots : P slots) : P filled := by
  induction fields generalizing items slots with
  | nil =>
    cases items with
    | nil =>
      by_cases hclose : close = .unseparated
      · cases hclose ▸ h
      · rw [Record.takeDrafts] at h
        · obtain ⟨-, -, hpure⟩ := bind_eq_ok_iff.mp h
          exact pure_eq_ok_iff.mp hpure ▸ hslots
        · exact hclose
    | cons item items => cases h
  | cons field fields ih =>
    obtain ⟨hfield, hrest⟩ := List.cons_subset.mp hfields
    cases items with
    | nil =>
      rw [Record.takeDrafts, bind_eq_ok_iff] at h
      obtain ⟨-, -, h⟩ := h
      split at h
      · exact ih hrest h hslots
      · cases h
    | cons item items =>
      rw [Record.takeDrafts, bind_eq_ok_iff] at h
      obtain ⟨next, hnext, h⟩ := h
      exact ih hrest h (keeps field hfield _ _ _ hnext hslots)

/-- **What no field loses, reading keeps**, whatever it reads from. -/
theorem Keeps.read (keeps : record.Keeps P) (h : record.read slots source = .ok filled)
    (hslots : P slots) : P filled := by
  rw [Record.read.eq_def] at h
  split at h
  · exact foldlM_invariant (fun _ _ _ => keeps.takeMember) h hslots
  · obtain ⟨next, hnext, h⟩ := bind_eq_ok_iff.mp h
    split at h
    · cases h
    · obtain rfl := pure_eq_ok_iff.mp h
      exact keeps.takeItems (List.Subset.refl _) hnext hslots
  · obtain ⟨-, -, h⟩ := bind_eq_ok_iff.mp h
    obtain ⟨next, hnext, h⟩ := bind_eq_ok_iff.mp h
    obtain ⟨-, -, h⟩ := bind_eq_ok_iff.mp h
    obtain rfl := pure_eq_ok_iff.mp h
    refine foldlM_invariant (fun slots member filled hmember => ?_) hnext hslots
    obtain ⟨name, -, hmember⟩ := bind_eq_ok_iff.mp hmember
    exact keeps.takeMember hmember
  · obtain ⟨-, -, h⟩ := bind_eq_ok_iff.mp h
    exact keeps.takeDrafts (List.Subset.refl _) h hslots
  · cases h

/-! ## Written records -/

/-- Takes the members of an object. -/
def takeMembers (record : Record σ) (members : List (String × Json)) (slots : σ) :
    Except Refusal σ :=
  members.foldlM (fun slots (name, value) => record.takeMember name (.value value) slots) slots

theorem read_object (members : List (String × Json)) :
    record.read slots (.value (.object members)) = record.takeMembers members slots := rfl

/-- Members are taken from left to right, so a document may be followed part by part. -/
theorem takeMembers_append (first rest : List (String × Json)) :
    record.takeMembers (first ++ rest) slots =
      record.takeMembers first slots >>= record.takeMembers rest := by
  rw [takeMembers, List.foldlM_append]
  rfl

/-- A member fills the slot of its field, if nothing has yet. -/
theorem takeMembers_cons {name : String} {field : Field σ} {value : Json}
    {rest : List (String × Json)} (hfield : record.field? name = some field)
    (hempty : field.isFilled slots = false) :
    record.takeMembers ((name, value) :: rest) slots =
      field.fill (.value value) slots >>= record.takeMembers rest := by
  have hmember : record.takeMember name (.value value) slots = field.fill (.value value) slots := by
    rw [takeMember.eq_def, hfield]
    simp [hempty]
  rw [takeMembers, List.foldlM_cons]
  exact congrArg (· >>= record.takeMembers rest) hmember

theorem takeMembers_singleton {name : String} {field : Field σ} {value : Json}
    (hfield : record.field? name = some field) (hempty : field.isFilled slots = false) :
    record.takeMembers [(name, value)] slots = field.fill (.value value) slots := by
  rw [takeMembers_cons hfield hempty]
  cases field.fill (.value value) slots <;> rfl

/-- A member that may be left out fills its slot, or leaves it empty. -/
theorem takeMembers_memberOf {name : String} {field : Field σ} {content : Option α}
    {toJson : α → Json} {read : Source → Except Refusal β} {taken : α → β} (store : Option β → σ)
    (hread : ∀ value, read (.value (toJson value)) = .ok (taken value))
    (hfield : record.field? name = some field) (hempty : field.isFilled slots = false)
    (hnone : store none = slots)
    (hfill : ∀ source, field.fill source slots =
      read source >>= fun value => .ok (store (some value)))
    (hfilled : store (content.map taken) = filled) :
    record.takeMembers (memberOf name (content.map toJson)) slots = .ok filled := by
  subst hfilled
  cases content with
  | none => exact congrArg _ hnone.symm
  | some value =>
    refine (takeMembers_singleton hfield hempty).trans ?_
    rw [hfill, hread, ok_bind, Option.map_some]

/-- A list that is left out if it is empty fills its slot, or leaves it empty. -/
theorem takeMembers_membersOf {name : String} {field : Field σ} {values : List α}
    {toJson : α → Json} [DecidableEq α] {read : Source → Except Refusal (List α)}
    (store : Option (List α) → σ)
    (hread : read (.value (.array (values.map toJson))) = .ok values)
    (hfield : record.field? name = some field) (hempty : field.isFilled slots = false)
    (hnone : store none = slots)
    (hfill : ∀ source, field.fill source slots =
      read source >>= fun values => .ok (store (some values)))
    (hfilled : store (if values = [] then none else some values) = filled) :
    record.takeMembers (membersOf name (values.map toJson)) slots = .ok filled := by
  subst hfilled
  cases values with
  | nil => exact congrArg _ hnone.symm
  | cons value rest =>
    rw [if_neg (List.cons_ne_nil value rest)]
    refine (takeMembers_singleton hfield hempty).trans ?_
    rw [hfill]
    exact congrArg (· >>= fun values => .ok (store (some values))) hread

/-- A list that is left out if it is empty is read as it was. -/
theorem getD_unless_nil (values : List α) [Decidable (values = [])] :
    (if values = [] then none else some values).getD [] = values := by
  split
  · next h => rw [h, Option.getD_none]
  · rfl

end Record

/-! ## Written lists -/

namespace Source

/-- A list is read item by item, each as it was written. -/
theorem list_toJson {read : Source → Except Refusal α} {toJson : α → Json} {taken : α → α}
    {values : List α} (h : ∀ value ∈ values, read (.value (toJson value)) = .ok (taken value)) :
    Source.list read (.value (.array (values.map toJson))) = .ok (values.map taken) := by
  rw [Source.list]
  induction values with
  | nil => rfl
  | cons value rest ih =>
    rw [List.map_cons, List.mapM_cons, h value List.mem_cons_self,
      ih fun value hvalue => h value (.tail _ hvalue)]
    rfl

theorem mem_mapM_ok {ε : Type} {read : β → Except ε α} {items : List β} {values : List α}
    (h : items.mapM read = .ok values) {value : α} (hvalue : value ∈ values) :
    ∃ item ∈ items, read item = .ok value := by
  induction items generalizing values with
  | nil => cases pure_eq_ok_iff.mp h ▸ hvalue
  | cons item rest ih =>
    rw [List.mapM_cons, bind_eq_ok_iff] at h
    obtain ⟨first, hfirst, h⟩ := h
    obtain ⟨more, hmore, h⟩ := bind_eq_ok_iff.mp h
    obtain rfl := pure_eq_ok_iff.mp h
    obtain rfl | hvalue := List.mem_cons.mp hvalue
    · exact ⟨item, List.mem_cons_self, hfirst⟩
    · obtain ⟨found, hfound, hread⟩ := ih hmore hvalue
      exact ⟨found, .tail _ hfound, hread⟩

/-- Whatever a list is read from, each of its items is read from something. -/
theorem exists_read_of_mem_list {read : Source → Except Refusal α} {source : Source}
    {values : List α} (h : Source.list read source = .ok values) {value : α} (hvalue : value ∈ values) :
    ∃ source, read source = .ok value := by
  rw [Source.list.eq_def] at h
  split at h
  · obtain ⟨item, -, hitem⟩ := mem_mapM_ok h hvalue
    exact ⟨_, hitem⟩
  · obtain ⟨-, -, h⟩ := bind_eq_ok_iff.mp h
    obtain ⟨found, hfound, h⟩ := bind_eq_ok_iff.mp h
    obtain ⟨-, -, h⟩ := bind_eq_ok_iff.mp h
    obtain rfl := pure_eq_ok_iff.mp h
    obtain ⟨item, -, hitem⟩ := mem_mapM_ok hfound hvalue
    exact ⟨_, hitem⟩
  · cases h

/-- Nothing but null is read as null. -/
theorem exists_of_draft_read_null {draft : Draft} (h : draft.read = .ok .null) :
    ∃ fault, draft = .null fault := by
  cases draft with
  | null fault => exact ⟨fault, rfl⟩
  | bool flag fault =>
    obtain ⟨-, -, h⟩ := bind_eq_ok_iff.mp h
    cases pure_eq_ok_iff.mp h
  | number spelling => cases hread : spelling.read <;> simp [Draft.read, hread, Except.map] at h
  | string spelling => cases hread : spelling.read <;> simp [Draft.read, hread, Except.map] at h
  | list withinLimit items close =>
    rw [Draft.read] at h
    split at h
    · cases h
    · obtain ⟨values, -, h⟩ := bind_eq_ok_iff.mp h
      obtain ⟨-, -, h⟩ := bind_eq_ok_iff.mp h
      cases pure_eq_ok_iff.mp h
  | object withinLimit members close =>
    rw [Draft.read] at h
    split at h
    · cases h
    · obtain ⟨values, -, h⟩ := bind_eq_ok_iff.mp h
      obtain ⟨-, -, h⟩ := bind_eq_ok_iff.mp h
      cases pure_eq_ok_iff.mp h
  | broken fault => cases h

/-- What may be null is never read as a value that is null. -/
theorem optional_json_ne_null {source : Source} {value : Option Json}
    (h : source.optional Source.json = .ok value) : value ≠ some .null := by
  rw [Source.optional.eq_def] at h
  split at h
  · exact Except.ok.inj h ▸ nofun
  · obtain ⟨-, -, h⟩ := bind_eq_ok_iff.mp h
    exact pure_eq_ok_iff.mp h ▸ nofun
  · next hvalue htext =>
    obtain ⟨content, hcontent, rfl⟩ := map_eq_ok_iff.mp h
    rintro ⟨⟩
    cases source with
    | value content => exact hvalue (congrArg Source.value (Except.ok.inj hcontent))
    | text draft =>
      obtain ⟨fault, rfl⟩ := exists_of_draft_read_null (mapError_eq_ok_iff.mp hcontent)
      exact htext fault rfl

end Source

end FactGuard.Json
