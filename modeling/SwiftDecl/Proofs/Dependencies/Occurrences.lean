import Mathlib.Data.List.Basic
import Mathlib.Data.List.FinRange
import Mathlib.Data.List.Forall2
import Mathlib.Data.List.Induction
import Mathlib.Data.List.Nodup

/-!
# First occurrences

`eraseDups` keeps each element of a list at its first occurrence. It reads the list from the left
and takes what is not like anything it has taken before (`eraseDups_concat`), and so what follows
from that is by induction on the list from its end. Elements may be alike without being equal; for
those that are equal when they are alike, `IsFirstOccurrences` says all there is to say. Where being
alike is an equivalence, an element takes out what is like it and nothing else, so it makes no
difference whether that is done before or after the others are gone through
(`eraseDups_cons_filter`), and what follows from that is by induction on the list from its front.
-/

namespace SwiftDecl

variable {α : Type} [BEq α] {xs : List α} {x : α}

/-- **Induction along the erasing**: a list is its first element and what is left of the others when
those like the first are taken out. -/
theorem byErasing {motive : List α → Prop} (nil : motive [])
    (cons : ∀ x xs, motive (xs.filter fun y => !y == x) → motive (x :: xs)) : ∀ xs, motive xs
  | [] => nil
  | x :: xs => cons x xs (byErasing nil cons _)
termination_by xs => xs.length
decreasing_by exact Nat.lt_succ_of_le (List.length_filter_le _ _)

/-- **One more element** is taken if it is like none that was taken before. -/
theorem eraseDups_concat (xs : List α) (x : α) :
    (xs ++ [x]).eraseDups
      = if xs.eraseDups.any (x == ·) then xs.eraseDups else xs.eraseDups ++ [x] := by
  induction xs using byErasing with
  | nil => simp [List.eraseDups_cons]
  | cons y ys ih =>
    rw [List.cons_append, List.eraseDups_cons, List.eraseDups_cons, List.filter_append,
      List.any_cons]
    -- either the first element takes the new one out, or that is left to those behind it
    cases hxy : x == y with
    | true => simp [hxy]
    | false =>
      have hkept : [x].filter (fun z => !z == y) = [x] := by simp [hxy]
      rw [hkept, ih, Bool.false_or, apply_ite (y :: ·), List.cons_append]

/-- **Erasing commutes with a map** that keeps apart what is not alike, and only that. -/
theorem eraseDups_map {β : Type} [BEq β] {f : α → β} (h : ∀ x y, (f x == f y) = (x == y))
    (xs : List α) : (xs.map f).eraseDups = xs.eraseDups.map f := by
  induction xs using byErasing with
  | nil => rfl
  | cons x xs ih =>
    have hkept : ((fun y => !y == f x) ∘ f) = fun y => !y == x := by
      funext y
      simp [h]
    rw [List.map_cons, List.eraseDups_cons, List.eraseDups_cons, List.map_cons, List.filter_map,
      hkept, ih]

/-- What is taken was there. -/
theorem mem_of_mem_eraseDups (h : x ∈ xs.eraseDups) : x ∈ xs := by
  induction xs using List.reverseRecOn with
  | nil => exact h
  | append_singleton ys y ih =>
    rw [eraseDups_concat] at h
    split at h
    · exact List.mem_append_left _ (ih h)
    · exact (List.mem_append.1 h).elim (fun hx => List.mem_append_left _ (ih hx))
        (List.mem_append_right _)

/-- **No two that are taken are alike.** -/
theorem pairwise_eraseDups (xs : List α) :
    xs.eraseDups.Pairwise fun x y => (y == x) = false := by
  induction xs using List.reverseRecOn with
  | nil => exact .nil
  | append_singleton ys y ih =>
    rw [eraseDups_concat]
    split
    · exact ih
    · rename_i hnew
      -- had the last element been like an earlier one, it would not have been taken
      refine List.pairwise_append.2 ⟨ih, List.pairwise_singleton _ _, fun x hx z hz => ?_⟩
      rw [List.mem_singleton.1 hz]
      simpa using fun hyx => hnew (List.any_eq_true.2 ⟨x, hx, hyx⟩)

/-- **Everything is like something that is taken.** -/
theorem exists_mem_eraseDups_of_mem [ReflBEq α] (h : x ∈ xs) :
    ∃ y ∈ xs.eraseDups, (x == y) = true := by
  induction xs using List.reverseRecOn with
  | nil => cases h
  | append_singleton ys y ih =>
    rw [eraseDups_concat]
    split
    · rename_i hany
      rcases List.mem_append.1 h with hx | hx
      · exact ih hx
      · rw [List.mem_singleton.1 hx]
        exact List.any_eq_true.1 hany
    · rcases List.mem_append.1 h with hx | hx
      · obtain ⟨z, hz, hxz⟩ := ih hx
        exact ⟨z, List.mem_append_left _ hz, hxz⟩
      · rw [List.mem_singleton.1 hx]
        exact ⟨y, List.mem_append_right _ (List.mem_singleton_self y), BEq.rfl⟩

/-- **The elements of a list, each once, in the order in which they come up.** -/
structure IsFirstOccurrences (xs firsts : List α) : Prop where
  nodup : firsts.Nodup
  mem_iff : ∀ x, x ∈ firsts ↔ x ∈ xs
  sorted : firsts.Pairwise fun x y => xs.idxOf x < xs.idxOf y

/-- Taking each element at its first occurrence does just that. -/
theorem isFirstOccurrences_eraseDups [LawfulBEq α] (xs : List α) :
    IsFirstOccurrences xs xs.eraseDups where
  nodup := (pairwise_eraseDups xs).imp fun h heq => by simp [heq] at h
  mem_iff x := List.mem_eraseDups
  sorted := by
    induction xs using List.reverseRecOn with
    | nil => exact .nil
    | append_singleton ys y ih =>
      have hbefore : ∀ x ∈ ys.eraseDups, (ys ++ [y]).idxOf x = ys.idxOf x := fun x hx =>
        List.idxOf_append_of_mem (mem_of_mem_eraseDups hx)
      have hkept : ys.eraseDups.Pairwise fun x z => (ys ++ [y]).idxOf x < (ys ++ [y]).idxOf z :=
        ih.imp_of_mem fun hx hz hlt => by rwa [hbefore _ hx, hbefore _ hz]
      rw [eraseDups_concat]
      split
      · exact hkept
      · rename_i hnew
        refine List.pairwise_append.2 ⟨hkept, List.pairwise_singleton _ _, fun x hx z hz => ?_⟩
        -- what is new comes up behind all that was there
        have hy : y ∉ ys := fun hmem => hnew (by simpa using hmem)
        rw [List.mem_singleton.1 hz, hbefore x hx, List.idxOf_append_of_notMem hy]
        exact Nat.lt_add_right _ (List.idxOf_lt_length_of_mem (mem_of_mem_eraseDups hx))

/-- **Looking up after erasing is safe** where elements that are alike look up the same. -/
theorem eraseDups_filterMap_eraseDups {β : Type} [BEq β] [LawfulBEq β] {f : α → Option β}
    (h : ∀ x ∈ xs, ∀ y ∈ xs, (x == y) = true → f x = f y) :
    (xs.eraseDups.filterMap f).eraseDups = (xs.filterMap f).eraseDups := by
  induction xs using List.reverseRecOn with
  | nil => rfl
  | append_singleton xs x ih =>
    have hxs := ih fun y hy z hz => h y (List.mem_append_left _ hy) z (List.mem_append_left _ hz)
    have hlast : ∀ b, f x = some b → [x].filterMap f = [b] := fun b hb => by simp [hb]
    rw [eraseDups_concat, List.filterMap_append]
    split
    · rename_i hlike
      obtain ⟨y, hy, hxy⟩ := List.any_eq_true.1 hlike
      have hmem : y ∈ xs := mem_of_mem_eraseDups hy
      rw [hxs]
      cases hx : f x with
      | none => simp [hx]
      | some b =>
        -- what the last element looks up has been looked up before
        have hy : f y = some b :=
          (h x (List.mem_append_right _ List.mem_cons_self) y (List.mem_append_left _ hmem)
            hxy).symm.trans hx
        have hfound : b ∈ xs.filterMap f := List.mem_filterMap.2 ⟨y, hmem, hy⟩
        have hany : (xs.filterMap f).eraseDups.any (b == ·) = true := by simpa using hfound
        rw [hlast b hx, eraseDups_concat, if_pos hany]
    · rw [List.filterMap_append]
      cases hx : f x with
      | none => simp [hx, hxs]
      | some b => rw [hlast b hx, eraseDups_concat, eraseDups_concat, hxs]

/-! ## Elements that are alike by an equivalence -/

/-- Nothing is erased where no two are alike. -/
theorem eraseDups_eq_self (h : xs.Pairwise fun x y => (y == x) = false) : xs.eraseDups = xs := by
  induction xs with
  | nil => rfl
  | cons x xs ih =>
    obtain ⟨hx, hxs⟩ := List.pairwise_cons.1 h
    have hkept : xs.filter (fun y => !y == x) = xs :=
      List.filter_eq_self.2 fun y hy => by rw [hx y hy, Bool.not_false]
    rw [List.eraseDups_cons, hkept, ih hxs]

/-- **Erasing commutes with a filter** that makes no difference between what is alike. -/
theorem eraseDups_filter {p : α → Bool} (hp : ∀ x y, (x == y) = true → p x = p y) (xs : List α) :
    (xs.filter p).eraseDups = xs.eraseDups.filter p := by
  induction xs using byErasing with
  | nil => rfl
  | cons x xs ih =>
    have hswap : (xs.filter p).filter (fun y => !y == x)
        = (xs.filter fun y => !y == x).filter p := by
      rw [List.filter_filter, List.filter_filter]
      exact List.filter_congr fun y _ => Bool.and_comm _ _
    rw [List.eraseDups_cons, List.filter_cons, List.filter_cons]
    cases hx : p x with
    | true => rw [if_pos rfl, if_pos rfl, List.eraseDups_cons, hswap, ih]
    | false =>
      -- what is like the first element is left out with it
      have hgone : xs.filter p = (xs.filter p).filter fun y => !y == x := by
        refine (List.filter_eq_self.2 fun y hy => ?_).symm
        have hne : (y == x) = false := by
          by_contra hyx
          have heq := hp y x (Bool.eq_true_of_not_eq_false hyx)
          rw [(List.mem_filter.1 hy).2, hx] at heq
          cases heq
        rw [hne, Bool.not_false]
      rw [if_neg Bool.false_ne_true, if_neg Bool.false_ne_true, hgone, hswap, ih]

/-- Whether nothing before a place of a list is like what stands there. -/
def IsNewAt (xs : List α) (i : Fin xs.length) : Prop :=
  ∀ j < i, (xs[j] == xs[i]) = false

instance (xs : List α) : DecidablePred (IsNewAt xs) := fun i =>
  inferInstanceAs (Decidable (∀ j < i, (xs[j] == xs[i]) = false))

theorem isNewAt_cons_zero (x : α) (xs : List α) :
    IsNewAt (x :: xs) ⟨0, Nat.succ_pos xs.length⟩ :=
  fun j hj => absurd hj (Nat.not_lt_zero j)

section Equivalence

variable [EquivBEq α]

theorem isNewAt_cons_succ (i : Fin xs.length) :
    IsNewAt (x :: xs) i.succ ↔ (xs[i] == x) = false ∧ IsNewAt xs i := by
  constructor
  · intro h
    exact ⟨BEq.comm.trans (h ⟨0, Nat.succ_pos _⟩ (Nat.succ_pos _)),
      fun j hj => h j.succ (Fin.succ_lt_succ_iff.2 hj)⟩
  · rintro ⟨hfirst, h⟩ ⟨j, hj⟩ hlt
    cases j with
    | zero => exact BEq.comm.trans hfirst
    | succ j => exact h ⟨j, Nat.lt_of_succ_lt_succ hj⟩ (Nat.lt_of_succ_lt_succ hlt)

/-- **The first element is taken**, and of what is taken of the others all that is not like it. -/
theorem eraseDups_cons_filter (x : α) (xs : List α) :
    (x :: xs).eraseDups = x :: xs.eraseDups.filter fun y => !y == x := by
  have hlike : ∀ y z, (y == z) = true → (!y == x) = !z == x := fun y z hyz => by
    rw [BEq.congr_left hyz]
  rw [List.eraseDups_cons, eraseDups_filter hlike]

/-- **One list after another**: of the second is taken what is like nothing in the first. -/
theorem eraseDups_append_filter (xs ys : List α) :
    (xs ++ ys).eraseDups = xs.eraseDups ++ ys.eraseDups.filter fun y => !xs.any (y == ·) := by
  induction xs with
  | nil => simp
  | cons x xs ih =>
    have hkept : (ys.eraseDups.filter fun y => !xs.any (y == ·)).filter (fun y => !y == x)
        = ys.eraseDups.filter fun y => !(x :: xs).any (y == ·) := by
      rw [List.filter_filter]
      exact List.filter_congr fun y _ => by rw [List.any_cons, Bool.not_or]
    rw [List.cons_append, eraseDups_cons_filter, ih, List.filter_append, hkept,
      eraseDups_cons_filter, List.cons_append]

/-- **What is taken stands at the places where nothing before is like it.** -/
theorem eraseDups_eq_map_get (xs : List α) :
    xs.eraseDups = ((List.finRange xs.length).filter (IsNewAt xs)).map xs.get := by
  induction xs with
  | nil => rfl
  | cons x xs ih =>
    have hplaces : List.finRange (x :: xs).length
        = ⟨0, Nat.succ_pos _⟩ :: (List.finRange xs.length).map Fin.succ := List.finRange_succ
    have hfirst : decide (IsNewAt (x :: xs) ⟨0, Nat.succ_pos _⟩) = true :=
      decide_eq_true (isNewAt_cons_zero x xs)
    have hothers : ((fun i => decide (IsNewAt (x :: xs) i)) ∘ Fin.succ)
        = fun i => !xs.get i == x && decide (IsNewAt xs i) := by
      funext i
      rw [Bool.eq_iff_iff, Function.comp_apply, decide_eq_true_iff, isNewAt_cons_succ]
      simp
    rw [eraseDups_cons_filter, ih, hplaces, List.filter_cons, if_pos hfirst, List.map_cons,
      List.filter_map, List.filter_map, hothers, List.map_map, List.filter_filter]
    rfl

/-- **Lists that are alike one by one are taken at the same places**, whatever else is true of each
two. -/
theorem forall₂_eraseDups {R : α → α → Prop} (hR : ∀ x y, R x y → (x == y) = true)
    {ys : List α} (h : List.Forall₂ R xs ys) : List.Forall₂ R xs.eraseDups ys.eraseDups := by
  induction h with
  | nil => exact .nil
  | @cons x y xs ys hxy _ ih =>
    rw [eraseDups_cons_filter, eraseDups_cons_filter]
    refine .cons hxy (List.rel_filter (fun z w hzw => ?_) ih)
    have heq : (z == x) = (w == y) :=
      (BEq.congr_left (hR z w hzw)).trans (BEq.congr_right (hR x y hxy))
    simp only [heq]

end Equivalence

end SwiftDecl
