import Mathlib.Data.List.Forall2

/-!
# Proofs/Pointwise — lists compared item by item

What the items of a list have in common with each other, or with the items of another list, without
their places being named; and where a list is cut in two at the first item of a kind.
-/

namespace FactGuard

variable {α β : Type}

/-! ## One list -/

theorem all_congr_mem {xs : List α} {p q : α → Bool} (h : ∀ x ∈ xs, p x = q x) :
    xs.all p = xs.all q := by
  rw [Bool.eq_iff_iff, List.all_eq_true, List.all_eq_true]
  exact forall₂_congr fun x hx => by rw [h x hx]

theorem any_congr_mem {xs : List α} {p q : α → Bool} (h : ∀ x ∈ xs, p x = q x) :
    xs.any p = xs.any q := by
  rw [Bool.eq_iff_iff, List.any_eq_true, List.any_eq_true]
  exact exists_congr fun x => and_congr_right fun hx => by rw [h x hx]

/-- A list is mapped to itself only if each of its items is. -/
theorem map_eq_self_iff {f : α → α} {items : List α} :
    items.map f = items ↔ ∀ item ∈ items, f item = item := by
  induction items with
  | nil => exact iff_of_true rfl nofun
  | cons item rest ih => rw [List.map_cons, List.cons.injEq, ih, List.forall_mem_cons]

/-- Positions grow along a list. -/
theorem pairwise_zipIdx (items : List α) (index : Nat) :
    (items.zipIdx index).Pairwise fun item later => item.2 < later.2 := by
  rw [← List.pairwise_map, List.zipIdx_map_snd]
  exact List.pairwise_lt_range'

/-! ## First occurrences -/

section EraseDups

variable [DecidableEq α]

/-- Deduplication without its accumulator: the first item, then the rest without it. -/
theorem eraseDups_cons_ne (x : α) (xs : List α) :
    (x :: xs).eraseDups = x :: (xs.filter (· ≠ x)).eraseDups := by
  rw [List.eraseDups_cons]
  congr 2
  exact List.filter_congr fun y _ => by rw [decide_not, Bool.beq_eq_decide_eq]

/-- Induction on what is left of a list once all occurrences of its first item are gone. -/
theorem eraseDupsInduction {motive : List α → Prop} (nil : motive [])
    (cons : ∀ x xs, motive (xs.filter (· ≠ x)) → motive (x :: xs)) : ∀ xs, motive xs
  | [] => nil
  | x :: xs => cons x xs (eraseDupsInduction nil cons (xs.filter (· ≠ x)))
termination_by xs => xs.length
decreasing_by
  have := List.length_filter_le (· ≠ x) xs
  rw [List.length_cons]
  omega

theorem nodup_eraseDups (xs : List α) : xs.eraseDups.Nodup := by
  induction xs using eraseDupsInduction with
  | nil => exact .nil
  | cons x xs ih =>
    rw [eraseDups_cons_ne, List.nodup_cons, List.mem_eraseDups]
    exact ⟨by simp, ih⟩

theorem length_eraseDups_le (xs : List α) : xs.eraseDups.length ≤ xs.length := by
  induction xs using eraseDupsInduction with
  | nil => exact Nat.le_refl 0
  | cons x xs ih =>
    rw [eraseDups_cons_ne, List.length_cons, List.length_cons]
    exact Nat.succ_le_succ (Nat.le_trans ih (List.length_filter_le _ xs))

/-- Dropping items keeps the order in which the others first occur. -/
theorem idxOf_lt_of_filter {p : α → Bool} {y z : α} {xs : List α} (hy : p y) (hz : p z)
    (h : (xs.filter p).idxOf y < (xs.filter p).idxOf z) : xs.idxOf y < xs.idxOf z := by
  induction xs with
  | nil => exact h
  | cons w ws ih =>
    by_cases hw : p w
    · rw [List.filter_cons_of_pos hw] at h
      by_cases hwz : w = z
      · rw [List.idxOf_cons_eq _ hwz] at h
        exact absurd h (Nat.not_lt_zero _)
      · rw [List.idxOf_cons_ne _ hwz] at h ⊢
        by_cases hwy : w = y
        · rw [List.idxOf_cons_eq _ hwy]
          exact Nat.succ_pos _
        · rw [List.idxOf_cons_ne _ hwy] at h ⊢
          exact Nat.succ_lt_succ (ih (Nat.lt_of_succ_lt_succ h))
    · have hne {x : α} (hx : p x) : w ≠ x := fun heq => hw (heq ▸ hx)
      rw [List.filter_cons_of_neg hw] at h
      rw [List.idxOf_cons_ne _ (hne hy), List.idxOf_cons_ne _ (hne hz)]
      exact Nat.succ_lt_succ (ih h)

/-- **The items that are kept stand in the order in which they first occur.** -/
theorem pairwise_idxOf_eraseDups (xs : List α) :
    xs.eraseDups.Pairwise fun x y => xs.idxOf x < xs.idxOf y := by
  induction xs using eraseDupsInduction with
  | nil => exact .nil
  | cons x xs ih =>
    rw [eraseDups_cons_ne, List.pairwise_cons]
    have hne {y : α} (hy : y ∈ (xs.filter (· ≠ x)).eraseDups) : y ≠ x := by
      simpa using (List.mem_filter.mp (List.mem_eraseDups.mp hy)).2
    refine ⟨fun y hy => ?_, ih.imp_of_mem fun {y z} hy hz hlt => ?_⟩
    · rw [List.idxOf_cons_self, List.idxOf_cons_ne _ (hne hy).symm]
      exact Nat.succ_pos _
    · rw [List.idxOf_cons_ne _ (hne hy).symm, List.idxOf_cons_ne _ (hne hz).symm]
      exact Nat.succ_lt_succ (idxOf_lt_of_filter (by simpa using hne hy) (by simpa using hne hz) hlt)

end EraseDups

/-! ## Two lists -/

/-- A pointwise relation depends only on what it says of the items on the left. -/
theorem forall₂_congr_left {R S : α → β → Prop} {xs : List α} {ys : List β}
    (h : ∀ x ∈ xs, ∀ y, R x y ↔ S x y) : List.Forall₂ R xs ys ↔ List.Forall₂ S xs ys := by
  constructor
  · intro hR
    exact ((List.forall₂_and_left _ _).mpr ⟨h, hR⟩).imp fun x y hxy => (hxy.1 y).mp hxy.2
  · intro hS
    exact ((List.forall₂_and_left _ _).mpr ⟨h, hS⟩).imp fun x y hxy => (hxy.1 y).mpr hxy.2

/-- To be related pointwise by a function is to be mapped by it. -/
theorem forall₂_eq_map {f : α → β} {xs : List α} {ys : List β} :
    List.Forall₂ (fun x y => y = f x) xs ys ↔ ys = xs.map f := by
  rw [eq_comm, ← List.forall₂_eq_eq_eq, List.forall₂_map_left_iff]
  exact forall₂_congr_left fun x _ y => eq_comm

/-- A list is determined by a pointwise relation that is functional on the other. -/
theorem eq_map_of_forall₂ {R : α → β → Prop} {f : α → β} {xs : List α} {ys : List β}
    (h : List.Forall₂ R xs ys) (hf : ∀ x ∈ xs, ∀ y, R x y → y = f x) : ys = xs.map f :=
  forall₂_eq_map.mp <|
    ((List.forall₂_and_left _ _).mpr ⟨hf, h⟩).imp fun _ y hxy => hxy.1 y hxy.2

/-- Where equal values of `f` come with equal values of `g`, lists that `f` maps alike are mapped
alike by `g`. -/
theorem map_eq_map_of_imp {γ : Type} {f : α → β} {g : α → γ} {xs ys : List α}
    (h : xs.map f = ys.map f) (himp : ∀ x y, f x = f y → g x = g y) : xs.map g = ys.map g := by
  rw [← List.forall₂_eq_eq_eq, List.forall₂_map_left_iff, List.forall₂_map_right_iff] at h ⊢
  exact h.imp himp

/-- Related items for each item make up a related list. -/
theorem exists_forall₂ {R : α → β → Prop} {ys : List β} (h : ∀ y ∈ ys, ∃ x, R x y) :
    ∃ xs, List.Forall₂ R xs ys := by
  induction ys with
  | nil => exact ⟨[], .nil⟩
  | cons y rest ih =>
    obtain ⟨x, hx⟩ := h y List.mem_cons_self
    obtain ⟨xs, hxs⟩ := ih fun y hy => h y (List.mem_cons_of_mem _ hy)
    exact ⟨x :: xs, .cons hx hxs⟩

theorem exists_of_forall₂ {R : α → β → Prop} {xs : List α} {ys : List β}
    (h : List.Forall₂ R xs ys) : ∀ y ∈ ys, ∃ x ∈ xs, R x y := by
  induction h with
  | nil => simp
  | cons hxy _ ih =>
    intro y hy
    obtain rfl | hy := List.mem_cons.mp hy
    · exact ⟨_, List.mem_cons_self, hxy⟩
    · obtain ⟨x, hx, h⟩ := ih y hy
      exact ⟨x, List.mem_cons_of_mem _ hx, h⟩

/-- What stands before the first `x`, and what stands behind it, is known from the whole. -/
theorem append_cons_inj_of_first {x : α} {xs ys rest more : List α} (hxs : x ∉ xs) (hys : x ∉ ys)
    (h : xs ++ x :: rest = ys ++ x :: more) : xs = ys ∧ rest = more := by
  induction xs generalizing ys with
  | nil =>
    cases ys with
    | nil => exact ⟨rfl, (List.cons.inj h).2⟩
    | cons y ys => exact absurd ((List.cons.inj h).1 ▸ List.mem_cons_self) hys
  | cons z xs ih =>
    cases ys with
    | nil => exact absurd ((List.cons.inj h).1 ▸ List.mem_cons_self) hxs
    | cons y ys =>
      obtain ⟨rfl, htail⟩ := List.cons.inj h
      obtain ⟨rfl, hrest⟩ :=
        ih (List.not_mem_of_not_mem_cons hxs) (List.not_mem_of_not_mem_cons hys) htail
      exact ⟨rfl, hrest⟩

end FactGuard
