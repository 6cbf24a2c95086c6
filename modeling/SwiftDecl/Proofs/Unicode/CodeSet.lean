import SwiftDecl.Unicode.Ranges
import Mathlib.Data.Nat.Bitwise

/-!
# Sets of code points as numbers

A table of characters holds some hundred runs, and two tables are slow to compare run by run. But a
set of code points is a number as well, the one with these bits, and whether two sets meet or one
lies within the other is then a single operation on two numbers.
-/

namespace SwiftDecl

namespace Unicode

variable {n : Nat} {xs ys : List Nat} {ranges : List CodeRange}

/-- The code points of a stride, in ascending order. -/
def Stride.members (s : Stride) : List Nat :=
  (List.range ((s.last - s.first) / s.step + 1)).map fun k => s.first + s.step * k

theorem Stride.mem_members {s : Stride} (h : s.contains n) : n ∈ s.members := by
  simp only [contains, Bool.and_eq_true, decide_eq_true_eq, beq_iff_eq] at h
  obtain ⟨⟨hfirst, hlast⟩, hstep⟩ := h
  have hle : (n - s.first) / s.step ≤ (s.last - s.first) / s.step :=
    Nat.div_le_div_right (by omega)
  have hmul : s.step * ((n - s.first) / s.step) = n - s.first :=
    Nat.mul_div_cancel' (Nat.dvd_of_mod_eq_zero hstep)
  exact List.mem_map.2 ⟨_, List.mem_range.2 (Nat.lt_succ_of_le hle), by omega⟩

/-! ## Sets of single code points -/

/-- The set of the listed code points: the number with these bits. -/
def codeSet (codes : List Nat) : Nat :=
  codes.foldr (fun n set => 2 ^ n ||| set) 0

theorem testBit_codeSet : (codeSet xs).testBit n = true ↔ n ∈ xs := by
  induction xs with
  | nil => simp [codeSet]
  | cons x xs ih =>
    change (2 ^ x ||| codeSet xs).testBit n = true ↔ _
    rw [Nat.testBit_or, Bool.or_eq_true, ih, Nat.testBit_two_pow, decide_eq_true_eq,
      List.mem_cons, eq_comm]

/-- **Sets without a common bit** have no code point in common. -/
theorem not_mem_of_codeSet_and (h : codeSet xs &&& codeSet ys = 0) (hn : n ∈ xs) : n ∉ ys := by
  intro hn'
  have hbit : (codeSet xs &&& codeSet ys).testBit n = true := by
    rw [Nat.testBit_and, testBit_codeSet.2 hn, testBit_codeSet.2 hn', Bool.and_self]
  rw [h, Nat.zero_testBit] at hbit
  cases hbit

/-! ## Sets of ranges -/

/-- The set of the code points of a range. -/
def CodeRange.codeSet (r : CodeRange) : Nat :=
  (2 ^ (r.last + 1 - r.first) - 1) <<< r.first

theorem CodeRange.testBit_codeSet (r : CodeRange) : r.codeSet.testBit n = r.contains n := by
  rw [codeSet, contains, Nat.testBit_shiftLeft, Nat.testBit_two_pow_sub_one]
  grind

/-- The set of the code points of ranges. -/
def rangeSet (ranges : List CodeRange) : Nat :=
  ranges.foldr (fun r set => r.codeSet ||| set) 0

theorem testBit_rangeSet : (rangeSet ranges).testBit n = ranges.any (·.contains n) := by
  induction ranges with
  | nil => simp [rangeSet]
  | cons r ranges ih =>
    change (r.codeSet ||| rangeSet ranges).testBit n = _
    rw [Nat.testBit_or, r.testBit_codeSet, ih, List.any_cons]

/-- **A set that adds no bit** to a set of ranges lies within them. -/
theorem any_contains_of_codeSet_or (h : codeSet xs ||| rangeSet ranges = rangeSet ranges)
    (hn : n ∈ xs) : ranges.any (·.contains n) = true := by
  rw [← testBit_rangeSet, ← h, Nat.testBit_or, testBit_codeSet.2 hn, Bool.true_or]

end Unicode

end SwiftDecl
