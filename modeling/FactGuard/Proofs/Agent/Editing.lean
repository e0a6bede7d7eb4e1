import Mathlib.Data.List.Induction
import FactGuard.Agent.Priority
import FactGuard.Proofs.Guard.RoundTrip

/-!
# Proofs/Agent/Editing — the guard of a priority from edit to edit

A priority stores its guard as a document, so an editor has to get back from there what it put in. A
stored guard is read as what was stored (`readGuard_setGuard`) and is never taken for none, so edits of
the document are edits of the guard (`edit_setGuard`), and a run of them comes to a single one
(`after_setGuard`). `editing_keeps_last_guard` reads off what any run leaves behind.
-/

namespace FactGuard

/-- The guard that a mode begins with. -/
def GuardMode.opening : GuardMode → Option Guard
  | none => .none
  | configuring => some (.all [])

namespace Priority

/-! ## Edits -/

/-- What an editor does to the guard of a priority. -/
inductive Edit
  | set (guard : Option Guard)
  | change (target : GuardMode)

/-- A priority after an edit, be it one that is refused. -/
def edit (priority : Priority) : Edit → Priority
  | .set guard => priority.setGuard guard
  | .change target =>
    match (change target).run priority with
    | .ok _ left => left
    | .error _ left => left

/-- A priority after several edits. -/
def after (priority : Priority) (edits : List Edit) : Priority := edits.foldl edit priority

/-- An edit puts a guard in place: the one that it sets, or the empty group where configuring begins. -/
inductive Puts (priority : Priority) : Edit → Guard → Prop
  | set (guard : Guard) : Puts priority (.set (some guard)) guard
  | enter {left : Priority} (success : (change .configuring).run priority = .ok () left) :
      Puts priority (.change .configuring) (.all [])

/-- An edit takes the guard away. -/
inductive Clears (priority : Priority) : Edit → Prop
  | unset : Clears priority (.set none)
  | leave {left : Priority} (success : (change .none).run priority = .ok () left) :
      Clears priority (.change .none)

/-- **The guard that was put in place last, and that no later edit took away.** -/
inductive Standing (start : Priority) : List Edit → Guard → Prop
  | put {edits : List Edit} {last : Edit} {guard : Guard}
      (puts : Puts (start.after edits) last guard) : Standing start (edits ++ [last]) guard
  | stay {edits : List Edit} {last : Edit} {guard : Guard} (standing : Standing start edits guard)
      (puts : ∀ other, ¬Puts (start.after edits) last other)
      (clears : ¬Clears (start.after edits) last) : Standing start (edits ++ [last]) guard

/-- What an edit makes of the guard itself. -/
def Edit.next (guard : Option Guard) : Edit → Option Guard
  | .set other => other
  | .change .none => none
  | .change .configuring => some (guard.getD (.all []))

/-- The guard that several edits make of none. -/
def inForce (edits : List Edit) : Option Guard := edits.foldl Edit.next none

/-! ## Stored guards -/

section

variable (priority : Priority) (guard : Option Guard)

/-- **A stored guard is read as what was stored.** -/
theorem readGuard_setGuard : (priority.setGuard guard).readGuard = .ok guard := by
  cases guard with
  | none => rfl
  | some guard =>
    rw [readGuard, setGuard, Option.map_some, Guard.ofStored?_some guard.toJson_ne_null,
      Guard.ofStored_toJson]
    rfl

/-- The mode is not kept beside the guard: it only tells whether there is one. -/
theorem mode_setGuard :
    (priority.setGuard guard).mode = if guard.isSome then .configuring else .none := by
  cases guard with
  | none => rfl
  | some guard => exact mode_setGuard_some priority guard

theorem mode_setGuard_opening (target : GuardMode) :
    (priority.setGuard target.opening).mode = target := by
  cases target <;> rfl

/-- **A change of mode is refused exactly if it leads nowhere**, and then the priority stays as it is;
otherwise the guard that the mode begins with is put in place of the guard that was there. -/
theorem run_change (target : GuardMode) :
    (change target).run priority =
      if target = priority.mode then .error ⟨priority.mode, target⟩ priority
      else .ok () (priority.setGuard target.opening) := by
  cases hmode : priority.mode <;> cases target <;>
    simp [change, hmode, GuardMode.opening, setGuard]

/-- A change of mode as an edit: one that is refused leaves the priority alone. -/
theorem edit_change (target : GuardMode) :
    priority.edit (.change target) =
      if target = priority.mode then priority else priority.setGuard target.opening := by
  rw [edit, run_change]
  by_cases h : target = priority.mode
  · rw [if_pos h, if_pos h]
  · rw [if_neg h, if_neg h]

end

/-! ## Runs of edits -/

section

variable (start : Priority)

/-- **Edits of a priority are edits of its guard.** -/
theorem edit_setGuard (guard : Option Guard) (edit : Edit) :
    (start.setGuard guard).edit edit = start.setGuard (edit.next guard) := by
  cases edit with
  | set other => rfl
  | change target =>
    rw [edit_change, mode_setGuard]
    cases target <;> cases guard <;> rfl

/-- Only the guard that is there decides what edits lead to, so they fold over the guard alone. -/
theorem after_setGuard (guard : Option Guard) (edits : List Edit) :
    (start.setGuard guard).after edits = start.setGuard (edits.foldl Edit.next guard) := by
  induction edits generalizing guard with
  | nil => rfl
  | cons edit rest ih => exact (congrArg (after · rest) (start.edit_setGuard guard edit)).trans (ih _)

theorem inForce_concat (edits : List Edit) (last : Edit) :
    inForce (edits ++ [last]) = last.next (inForce edits) :=
  List.foldl_concat _ _ _ _

/-- A new priority has the guard that its edits made of none. -/
theorem after_new (id name : String) (edits : List Edit) :
    ({ id, name } : Priority).after edits = ({ id, name } : Priority).setGuard (inForce edits) :=
  after_setGuard { id, name } none edits

end

/-! ## The guard that stands -/

section

variable {start : Priority} {guard : Option Guard} {last : Edit} {other : Guard}

/-- The only change of mode that is refused is the one to the present mode. -/
theorem exists_run_change_eq_ok_iff {priority : Priority} {target : GuardMode} :
    (∃ left, (change target).run priority = .ok () left) ↔ target ≠ priority.mode := by
  rw [run_change]
  by_cases h : target = priority.mode
  · simp [h]
  · simp [h]

/-- Configuring installs the empty group where there was no guard, and keeps a guard that is there. -/
theorem puts_setGuard_iff :
    Puts (start.setGuard guard) last other ↔
      last = .set (some other) ∨ last = .change .configuring ∧ guard = none ∧ other = .all [] := by
  have hopen : (∃ left, (change .configuring).run (start.setGuard guard) = .ok () left) ↔
      guard = none := by
    rw [exists_run_change_eq_ok_iff, mode_setGuard]
    cases guard <;> simp
  constructor
  · rintro (⟨_⟩ | ⟨hsuccess⟩)
    · exact .inl rfl
    · exact .inr ⟨rfl, hopen.mp ⟨_, hsuccess⟩, rfl⟩
  · rintro (rfl | ⟨rfl, hnone, rfl⟩)
    · exact .set other
    · obtain ⟨left, hsuccess⟩ := hopen.mpr hnone
      exact .enter hsuccess

/-- A guard goes either because none is set, or because the mode of having none is entered. -/
theorem clears_setGuard_iff :
    Clears (start.setGuard guard) last ↔
      last = .set none ∨ last = .change .none ∧ guard ≠ none := by
  have hleave : (∃ left, (change .none).run (start.setGuard guard) = .ok () left) ↔
      guard ≠ none := by
    rw [exists_run_change_eq_ok_iff, mode_setGuard]
    cases guard <;> simp
  constructor
  · rintro (_ | ⟨hsuccess⟩)
    · exact .inl rfl
    · exact .inr ⟨rfl, hleave.mp ⟨_, hsuccess⟩⟩
  · rintro (rfl | ⟨rfl, hthere⟩)
    · exact .unset
    · obtain ⟨left, hsuccess⟩ := hleave.mpr hthere
      exact .leave hsuccess

/-- A guard is there after an edit if the edit puts it in place, or leaves it there. -/
theorem next_eq_some_iff (start : Priority) :
    last.next guard = some other ↔
      Puts (start.setGuard guard) last other ∨
        guard = some other ∧ (∀ more, ¬Puts (start.setGuard guard) last more) ∧
          ¬Clears (start.setGuard guard) last := by
  simp only [puts_setGuard_iff, clears_setGuard_iff]
  rcases last with (_ | found) | (_ | _)
  · simp [Edit.next]
  · simp [Edit.next]
  · cases guard <;> simp [Edit.next]
  · cases guard <;> simp [Edit.next, eq_comm]

/-- What stands after one more edit: what that edit puts there, or what it neither replaces nor
takes away. -/
theorem standing_concat_iff {edits : List Edit} :
    Standing start (edits ++ [last]) other ↔
      Puts (start.after edits) last other ∨
        Standing start edits other ∧ (∀ more, ¬Puts (start.after edits) last more) ∧
          ¬Clears (start.after edits) last := by
  constructor
  · intro h
    generalize hrun : edits ++ [last] = run at h
    cases h with
    | put puts =>
      obtain ⟨rfl, ⟨⟩⟩ := List.append_inj' hrun rfl
      exact .inl puts
    | stay standing puts clears =>
      obtain ⟨rfl, ⟨⟩⟩ := List.append_inj' hrun rfl
      exact .inr ⟨standing, puts, clears⟩
  · rintro (puts | ⟨standing, puts, clears⟩)
    · exact .put puts
    · exact .stay standing puts clears

theorem not_standing_nil : ¬Standing start [] other := by
  intro h
  generalize hrun : ([] : List Edit) = run at h
  cases h <;> simp at hrun

/-- **The guard that stands is the one that the edits made of none.** -/
theorem standing_iff (start : Priority) {edits : List Edit} :
    Standing (start.setGuard none) edits other ↔ inForce edits = some other := by
  induction edits using List.reverseRecOn generalizing other with
  | nil => exact iff_of_false not_standing_nil nofun
  | append_singleton edits last ih =>
    have hafter : (start.setGuard none).after edits = start.setGuard (inForce edits) :=
      start.after_setGuard none edits
    rw [standing_concat_iff, ih, hafter, inForce_concat, next_eq_some_iff start]

end

/-! ## What editing leaves behind -/

/-- **Editing keeps the guard that was put in place last.** After any edits of a new priority its guard
can be read, and it is the one that was put in place last, or none if that was taken away; the mode says
whether there is one; a change of mode is refused exactly if it leads nowhere, and then nothing changes;
and the priority is otherwise as it was. -/
theorem editing_keeps_last_guard (id name : String) (edits : List Edit) :
    let start : Priority := { id, name }
    let reached := start.after edits
    (∃ guard, reached.readGuard = .ok guard) ∧
    (∀ guard, reached.readGuard = .ok (some guard) ↔ Standing start edits guard) ∧
    (reached.readGuard = .ok none ↔ ∀ guard, ¬Standing start edits guard) ∧
    (reached.mode = .configuring ↔ ∃ guard, reached.readGuard = .ok (some guard)) ∧
    (∀ target,
      target = reached.mode ∧
          (change target).run reached = .error ⟨reached.mode, target⟩ reached ∨
        target ≠ reached.mode ∧
          ∃ changed, (change target).run reached = .ok () changed ∧ changed.mode = target) ∧
    reached.id = id ∧ reached.name = name ∧ reached.description = none := by
  intro start reached
  have hreached : reached = start.setGuard (inForce edits) := after_new id name edits
  have hread : reached.readGuard = .ok (inForce edits) := hreached ▸ readGuard_setGuard _ _
  have hstanding : ∀ guard, Standing start edits guard ↔ inForce edits = some guard :=
    fun guard => standing_iff { id, name }
  refine ⟨⟨_, hread⟩, fun guard => ?_, ?_, ?_, fun target => ?_, ?_⟩
  · rw [hread, hstanding, Except.ok.injEq]
  · simp only [hread, hstanding, Except.ok.injEq, Option.eq_none_iff_forall_ne_some, Ne]
  · rw [hread, hreached, mode_setGuard]
    cases inForce edits <;> simp
  · rw [run_change]
    by_cases h : target = reached.mode
    · exact .inl ⟨h, if_pos h⟩
    · exact .inr ⟨h, _, if_neg h, mode_setGuard_opening _ _⟩
  · rw [hreached]
    exact ⟨rfl, rfl, rfl⟩

end Priority

end FactGuard
