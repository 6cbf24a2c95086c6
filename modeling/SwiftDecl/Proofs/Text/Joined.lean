import SwiftDecl.Text.Basic
import Mathlib.Algebra.GroupWithZero.Nat
import Mathlib.Data.List.Forall2

/-!
# Taking a text apart again

Text that was put together from parts can be taken apart where a character follows that the part
cannot hold. A stretch of characters of one kind, with none of that kind after it, is the longest
one, so `eq_of_stretch` reads it off the whole. Reading back what has been rendered is this step,
repeated; `joined_cons` writes parts in a row in the form that it needs.
-/

namespace SwiftDecl

namespace Text

/-- Whether a text starts with no character of a kind. The empty text starts with none. -/
def startsOutside (p : Char → Bool) (t : Text) : Bool :=
  !t.head?.any p

@[simp] theorem startsOutside_nil (p : Char → Bool) : startsOutside p [] = true := rfl

@[simp] theorem startsOutside_cons (p : Char → Bool) (c : Char) (t : Text) :
    startsOutside p (c :: t) = !p c := rfl

theorem startsOutside_append {p : Char → Bool} {s t : Text} (hs : startsOutside p s)
    (ht : startsOutside p t) : startsOutside p (s ++ t) := by
  cases s with
  | nil => exact ht
  | cons c s => exact hs

/-- What starts with no character of a kind starts with none of a narrower kind. -/
theorem startsOutside_of_imp {p q : Char → Bool} (hqp : ∀ c, q c → p c) {t : Text}
    (ht : startsOutside p t) : startsOutside q t := by
  cases t with
  | nil => rfl
  | cons c t =>
    rw [startsOutside_cons, Bool.not_eq_true'] at ht ⊢
    exact Bool.eq_false_iff.2 fun hc => Bool.eq_false_iff.1 ht (hqp c hc)

/-- What starts with no character of a kind starts with no word that begins with one. -/
theorem not_prefix_of_startsOutside {p : Char → Bool} {c : Char} {rest t : Text} (hc : p c)
    (ht : startsOutside p t) : ¬ c :: rest <+: t := by
  rintro ⟨more, rfl⟩
  rw [List.cons_append, startsOutside_cons, hc] at ht
  cases ht

/-- **A stretch of characters of one kind can be read off**, if what follows it starts with none of
that kind. -/
theorem eq_of_stretch {p : Char → Bool} {s t u v : Text} (hs : ∀ c ∈ s, p c) (ht : ∀ c ∈ t, p c)
    (hu : startsOutside p u) (hv : startsOutside p v) (h : s ++ u = t ++ v) : s = t ∧ u = v := by
  induction s generalizing t with
  | nil =>
    rcases t with - | ⟨d, t⟩
    · exact ⟨rfl, h⟩
    · -- `u` would start with a character of `t`, which is of the kind
      exact absurd ⟨v, h.symm⟩ (not_prefix_of_startsOutside (ht d List.mem_cons_self) hu)
  | cons c s ih =>
    rcases t with - | ⟨d, t⟩
    · exact absurd ⟨u, h⟩ (not_prefix_of_startsOutside (hs c List.mem_cons_self) hv)
    · rw [List.cons_append, List.cons_append, List.cons.injEq] at h
      obtain ⟨rfl, h⟩ := h
      obtain ⟨rfl, rfl⟩ := ih (fun x hx => hs x (List.mem_cons_of_mem _ hx))
        (fun x hx => ht x (List.mem_cons_of_mem _ hx)) h
      exact ⟨rfl, rfl⟩

/-! ## Parts that may be left out -/

/-- **Whether a word is there can be read off**, if what follows does not start with it. -/
theorem eq_of_word {word u v : Text} {o o' : Bool} (hu : ¬ word <+: u) (hv : ¬ word <+: v)
    (h : (if o then word else []) ++ u = (if o' then word else []) ++ v) : o = o' ∧ u = v := by
  cases o <;> cases o'
  · exact ⟨rfl, h⟩
  · exact absurd ⟨v, h.symm⟩ hu
  · exact absurd ⟨u, h⟩ hv
  · exact ⟨rfl, List.append_cancel_left h⟩

variable {α : Type} {lead : Char} {write : α → Text} {a b : Option α} {p : Char → Bool}

/-- A part behind a character of its own, if there is one. -/
def clause (lead : Char) (write : α → Text) : Option α → Text
  | some x => lead :: write x
  | none => []

@[simp] theorem clause_none : clause lead write none = [] := rfl

@[simp] theorem clause_some {x : α} : clause lead write (some x) = lead :: write x := rfl

theorem startsOutside_clause {t : Text} (hlead : p lead = false) (ht : startsOutside p t) :
    startsOutside p (clause lead write a ++ t) := by
  cases a with
  | none => exact ht
  | some x => simp [hlead]

/-- **A part that may be left out can be read off**, if its text can and what follows does not start
with the character that stands before it. -/
theorem eq_of_clause {u v : Text} (hu : startsOutside (· == lead) u)
    (hv : startsOutside (· == lead) v)
    (hread : ∀ x ∈ a, ∀ y ∈ b, write x ++ u = write y ++ v → x = y ∧ u = v)
    (h : clause lead write a ++ u = clause lead write b ++ v) : a = b ∧ u = v := by
  have hno : ∀ {t rest : Text}, startsOutside (· == lead) t → ¬ lead :: rest <+: t :=
    not_prefix_of_startsOutside (p := (· == lead)) (beq_self_eq_true lead)
  rcases a with - | x <;> rcases b with - | y
  · exact ⟨rfl, h⟩
  · exact absurd ⟨v, h.symm⟩ (hno hu)
  · exact absurd ⟨u, h⟩ (hno hv)
  · obtain ⟨rfl, huv⟩ := hread x rfl y rfl (List.cons.inj h).2
    exact ⟨rfl, huv⟩

/-! ## Parts in a row -/

/-- The first of several parts is followed by a separator. -/
theorem joined_cons_of_ne_nil {separator part : Text} {more : List Text} (h : more ≠ []) :
    joined separator (part :: more) = part ++ separator ++ joined separator more := by
  rw [joined]
  exact h

/-- Parts in a row are the first part, and every later one behind its separator. -/
theorem joined_cons (separator part : Text) (more : List Text) :
    joined separator (part :: more) = part ++ more.flatMap (separator ++ ·) := by
  induction more generalizing part with
  | nil => simp [joined]
  | cons next more ih =>
    rw [joined_cons_of_ne_nil (List.cons_ne_nil _ _), ih, List.flatMap_cons]
    simp only [List.append_assoc]

variable {separator : Text} {ls ms : List Text}

/-- Parts in front of others are written out one by one, each before a separator. -/
theorem joined_append_of_ne_nil (ls : List Text) (hms : ms ≠ []) :
    joined separator (ls ++ ms) = ls.flatMap (· ++ separator) ++ joined separator ms := by
  induction ls with
  | nil => rfl
  | cons part ls ih =>
    have hne : ls ++ ms ≠ [] := by simp [hms]
    rw [List.cons_append, joined_cons_of_ne_nil hne, ih, List.flatMap_cons]
    simp only [List.append_assoc]

/-- The last part has no separator behind it. -/
theorem joined_concat (ls : List Text) (part : Text) :
    joined separator (ls ++ [part]) = ls.flatMap (· ++ separator) ++ part :=
  joined_append_of_ne_nil ls (List.cons_ne_nil _ _)

/-- With a separator behind them as well, parts in a row are written out one by one. -/
theorem joined_append_separator (hls : ls ≠ []) :
    joined separator ls ++ separator = ls.flatMap (· ++ separator) := by
  obtain ⟨front, last, rfl⟩ := (List.eq_nil_or_concat' ls).resolve_left hls
  rw [joined_append_of_ne_nil front (List.cons_ne_nil _ _)]
  simp [joined]

/-- Two rows in one have a separator between them. -/
theorem joined_append (hls : ls ≠ []) (hms : ms ≠ []) :
    joined separator (ls ++ ms) = joined separator ls ++ separator ++ joined separator ms := by
  rw [joined_append_of_ne_nil _ hms, joined_append_separator hls]

/-- **Parts that stand side by side in a row do so in its text.** -/
theorem joined_infix_joined (h : ls <:+: ms) : joined separator ls <:+: joined separator ms := by
  rcases eq_or_ne ls [] with rfl | hls
  · exact List.nil_infix
  obtain ⟨front, back, rfl⟩ := h
  rcases eq_or_ne back [] with rfl | hback
  · rw [List.append_nil, joined_append_of_ne_nil front hls]
    exact (List.suffix_append _ _).isInfix
  · rw [joined_append (by simp [hls]) hback, joined_append_of_ne_nil front hls, List.append_assoc]
    exact List.infix_append ..

/-- A part of a row is in its text. -/
theorem infix_joined {part : Text} (h : part ∈ ls) : part <:+: joined separator ls := by
  obtain ⟨front, back, rfl⟩ := List.append_of_mem h
  have hpart : [part] <:+: front ++ part :: back := ⟨front, back, by simp⟩
  exact joined_infix_joined hpart

/-- A row ends as its last part does, if that is not empty. -/
theorem getLast?_joined_concat (ls : List Text) {part : Text} (h : part ≠ []) :
    (joined separator (ls ++ [part])).getLast? = part.getLast? := by
  rw [joined_concat, List.getLast?_append_of_ne_nil _ h]

/-- **A character occurs in a row** as often as in its parts and in the separators between them. -/
theorem count_joined (c : Char) (ls : List Text) :
    (joined separator ls).count c
      = (ls.map (List.count c)).sum + (ls.length - 1) * separator.count c := by
  fun_induction joined separator ls with
  | case1 => simp
  | case2 part => simp
  | case3 part more hmore ih =>
    obtain ⟨n, hn⟩ : ∃ n, more.length = n + 1 :=
      Nat.exists_eq_succ_of_ne_zero fun h => hmore (List.length_eq_zero_iff.1 h)
    rw [List.count_append, List.count_append, ih, List.map_cons, List.sum_cons, List.length_cons,
      hn, Nat.add_sub_cancel, Nat.add_sub_cancel, Nat.succ_mul]
    omega

/-! ## Rows cut at their separators -/

theorem joined_eq_intercalate (separator : Text) (ls : List Text) :
    joined separator ls = separator.intercalate ls := by
  fun_induction joined separator ls with
  | case1 => simp
  | case2 part => simp
  | case3 part more hmore ih => rw [List.intercalate_cons_of_ne_nil hmore, ih]

/-- **A row can be cut at its separators**, if no part holds one. -/
theorem splitOn_joined {c : Char} (hls : ls ≠ []) (h : ∀ part ∈ ls, c ∉ part) :
    (joined [c] ls).splitOn c = ls := by
  rw [joined_eq_intercalate, List.splitOn_intercalate c h hls]

/-! ## Lists of written things -/

variable {related : α → α → Prop}

/-- **What a text shows of a thing can be read off**: two things of that text are related, and what
follows them is the same. The kind `p` is that of the characters by which the text could go on. -/
def Readable (p : Char → Bool) (write : α → Text) (related : α → α → Prop) (x y : α) : Prop :=
  ∀ u v, startsOutside p u → startsOutside p v → write x ++ u = write y ++ v → related x y ∧ u = v

/-- Things behind separators can be read off up to the character that closes their list, if each of
them can and neither that character nor the separator could go on with one. -/
theorem forall₂_of_flatMap {c close : Char} {rest : Text} (hne : c ≠ close) (hc : p c = false)
    (hclose : p close = false) {xs ys : List α} {u v : Text}
    (hread : ∀ x ∈ xs, ∀ y ∈ ys, Readable p write related x y)
    (h : (xs.map write).flatMap ((c :: rest) ++ ·) ++ close :: u
      = (ys.map write).flatMap ((c :: rest) ++ ·) ++ close :: v) :
    List.Forall₂ related xs ys ∧ u = v := by
  -- what follows an element starts with a separator or with the closing character
  have hnext : ∀ (zs : List α) (w : Text),
      startsOutside p ((zs.map write).flatMap ((c :: rest) ++ ·) ++ close :: w) := by
    rintro (- | ⟨z, zs⟩) w
    · simp [hclose]
    · simp [hc]
  induction xs generalizing ys with
  | nil =>
    rcases ys with - | ⟨y, ys⟩
    · simpa using h
    · simp [hne.symm] at h
  | cons x xs ih =>
    rcases ys with - | ⟨y, ys⟩
    · simp [hne] at h
    · simp only [List.map_cons, List.flatMap_cons, List.append_assoc,
        List.append_cancel_left_eq] at h
      obtain ⟨hxy, h⟩ := hread x List.mem_cons_self y List.mem_cons_self _ _ (hnext xs u)
        (hnext ys v) h
      obtain ⟨hall, huv⟩ := ih (fun x hx y hy =>
        hread x (List.mem_cons_of_mem _ hx) y (List.mem_cons_of_mem _ hy)) h
      exact ⟨.cons hxy hall, huv⟩

/-- A list in a row that is not empty can be read off up to the character that closes it. -/
theorem forall₂_of_joined_cons {c close : Char} {rest : Text} (hne : c ≠ close) (hc : p c = false)
    (hclose : p close = false) {x y : α} {xs ys : List α} {u v : Text}
    (hread : ∀ a ∈ x :: xs, ∀ b ∈ y :: ys, Readable p write related a b)
    (h : joined (c :: rest) ((x :: xs).map write) ++ close :: u
      = joined (c :: rest) ((y :: ys).map write) ++ close :: v) :
    List.Forall₂ related (x :: xs) (y :: ys) ∧ u = v := by
  -- a separator before the first elements makes the two lists rows of one shape
  have hrows : ((x :: xs).map write).flatMap ((c :: rest) ++ ·) ++ close :: u
      = ((y :: ys).map write).flatMap ((c :: rest) ++ ·) ++ close :: v := by
    simpa [joined_cons] using h
  exact forall₂_of_flatMap hne hc hclose hread hrows

/-- **A list in a row can be read off**, if each of its elements can and none of them starts with
the character that closes the list. -/
theorem forall₂_of_joined {c close : Char} {rest : Text} (hne : c ≠ close) (hc : p c = false)
    (hclose : p close = false) {xs ys : List α} {u v : Text}
    (hread : ∀ x ∈ xs, ∀ y ∈ ys, Readable p write related x y)
    (hxs : ∀ x ∈ xs, ∃ d t, write x = d :: t ∧ d ≠ close)
    (hys : ∀ y ∈ ys, ∃ d t, write y = d :: t ∧ d ≠ close)
    (h : joined (c :: rest) (xs.map write) ++ close :: u
      = joined (c :: rest) (ys.map write) ++ close :: v) :
    List.Forall₂ related xs ys ∧ u = v := by
  rcases xs with - | ⟨x, xs⟩
  · rcases ys with - | ⟨y, ys⟩
    · simpa [joined] using h
    · obtain ⟨d, t, hd, hne⟩ := hys y List.mem_cons_self
      rw [List.map_cons, joined_cons, hd] at h
      simp [joined, hne.symm] at h
  · rcases ys with - | ⟨y, ys⟩
    · obtain ⟨d, t, hd, hne⟩ := hxs x List.mem_cons_self
      rw [List.map_cons, joined_cons, hd] at h
      simp [joined, hne] at h
    · exact forall₂_of_joined_cons hne hc hclose hread h

end Text

end SwiftDecl
