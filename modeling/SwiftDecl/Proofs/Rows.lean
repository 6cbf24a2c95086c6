import Mathlib.Data.List.Forall2

/-!
# Rows that are related one by one

Two lists of one length are compared element by element, with a relation that need not be equality.
A comparison of long rows that are put together of stretches comes down to one of the stretches, if
these are of the same lengths (`forall₂_stretches`), and a comparison by what a function gives is
equality of the rows it gives (`map_eq_map_iff_forall₂`). A row of steps, some of which give a
value, leaves the value that is given last (`lastGiven`).
-/

namespace SwiftDecl

variable {α β γ δ : Type} {R : γ → δ → Prop} {g : α → List γ} {g' : β → List δ}
variable {as : List α} {bs : List β}

/-- Lists are compared as their elements are. -/
theorem beq_iff_forall₂ [BEq α] {xs ys : List α} :
    (xs == ys) = true ↔ List.Forall₂ (fun x y => (x == y) = true) xs ys := by
  induction xs generalizing ys with
  | nil => cases ys <;> simp
  | cons x xs ih =>
    cases ys with
    | nil => simp
    | cons y ys => rw [List.cons_beq_cons, Bool.and_eq_true, ih, List.forall₂_cons]

/-- Functions give the same rows if they give the same of each two elements. -/
theorem map_eq_map_iff_forall₂ {f : α → γ} {f' : β → γ} :
    as.map f = bs.map f' ↔ List.Forall₂ (fun x y => f x = f' y) as bs := by
  rw [← List.forall₂_eq_eq_eq, List.forall₂_map_left_iff, List.forall₂_map_right_iff]

theorem forall₂_of_append {xs ys : List γ} {xs' ys' : List δ} (hlen : xs.length = xs'.length)
    (h : List.Forall₂ R (xs ++ ys) (xs' ++ ys')) :
    List.Forall₂ R xs xs' ∧ List.Forall₂ R ys ys' := by
  have hbefore := List.forall₂_take_append _ _ _ h
  have hbehind := List.forall₂_drop_append _ _ _ h
  rw [← hlen, List.take_left] at hbefore
  rw [← hlen, List.drop_left] at hbehind
  exact ⟨hbefore, hbehind⟩

/-- **Rows are related stretch by stretch**, if the stretches are of the same lengths. -/
theorem forall₂_stretches
    (hlen : List.Forall₂ (fun x y => (g x).length = (g' y).length) as bs)
    (h : List.Forall₂ R (as.flatMap g) (bs.flatMap g')) :
    List.Forall₂ (fun x y => List.Forall₂ R (g x) (g' y)) as bs := by
  induction hlen with
  | nil => exact .nil
  | cons hxy _ ih =>
    rw [List.flatMap_cons, List.flatMap_cons] at h
    obtain ⟨hfirst, hothers⟩ := forall₂_of_append hxy h
    exact .cons hfirst (ih hothers)

/-- Stretches that are related make rows that are. -/
theorem forall₂_flatMap (h : List.Forall₂ (fun x y => List.Forall₂ R (g x) (g' y)) as bs) :
    List.Forall₂ R (as.flatMap g) (bs.flatMap g') := by
  induction h with
  | nil => exact .nil
  | cons hxy _ ih =>
    rw [List.flatMap_cons, List.flatMap_cons]
    exact List.rel_append hxy ih

/-- What is given last in a row of steps, of what each of them gives. -/
def lastGiven (given? : α → Option γ) (steps : List α) : Option γ :=
  (steps.filterMap given?).getLast?

/-- One more step gives what it gives, or leaves what was given before it. -/
theorem lastGiven_concat (given? : α → Option γ) (steps : List α) (step : α) :
    lastGiven given? (steps ++ [step]) = (given? step).or (lastGiven given? steps) := by
  unfold lastGiven
  rw [List.filterMap_append, List.getLast?_append]
  cases hstep : given? step <;> simp [hstep]

end SwiftDecl
