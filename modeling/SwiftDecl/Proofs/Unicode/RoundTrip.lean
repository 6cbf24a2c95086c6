import SwiftDecl.Proofs.Unicode.CaseMapping
import SwiftDecl.Proofs.Unicode.CodeSet
import SwiftDecl.Unicode.Alphanumeric
import SwiftDecl.Unicode.LetterCase
import Mathlib.Data.List.Chain

/-!
# Mapping a character twice

What a case mapping yields first is settled: the mapping leaves it as it is, and it is a letter or a
number if the mapped character was one (`CaseTables`). A capital whose small form is capitalized
again need not be the same capital, as the Kelvin sign is not, but it has that small form
(`exists_capital`). The one exception is `ẞ`, whose small form `ß` becomes two capitals. Some other
images end in a combining mark, which is no letter; only the first character is spoken of here.
-/

namespace SwiftDecl

namespace Unicode

variable {expansions : List Expansion} {shifts : List Shift} {f : Char → Char} {c d : Char}

/-! ## Sources and images of a pair of tables -/

/-- The images of a run, which are a run as well. -/
def Shift.image (s : Shift) : Stride :=
  ⟨s.target, s.target + (s.source.last - s.source.first), s.source.step⟩

theorem Shift.contains_image {s : Shift} {n : Nat} (h : s.source.contains n) :
    s.image.contains (s.target + (n - s.source.first)) := by
  simp only [Stride.contains, Bool.and_eq_true, decide_eq_true_eq, beq_iff_eq] at h ⊢
  obtain ⟨⟨hfirst, hlast⟩, hstep⟩ := h
  change (_ ≤ _ ∧ _ ≤ s.target + (s.source.last - s.source.first)) ∧ (_ - s.target) % _ = 0
  rw [Nat.add_sub_cancel_left]
  exact ⟨⟨Nat.le_add_right _ _, by omega⟩, hstep⟩

/-- The code points that a pair of tables maps. -/
def sources (expansions : List Expansion) (shifts : List Shift) : List Nat :=
  expansions.map Expansion.code ++ shifts.flatMap fun s => s.source.members

/-- The first code points of the images. -/
def imageHeads (expansions : List Expansion) (shifts : List Shift) : List Nat :=
  expansions.flatMap (fun e => e.image.take 1) ++ shifts.flatMap fun s => s.image.members

/-- What no table names is mapped to itself. -/
theorem mapped_of_not_mem_sources (h : c.toNat ∉ sources expansions shifts) :
    mapped expansions shifts c = [c] := by
  have hexpansions : expansions.find? (·.code == c.toNat) = none := by
    refine List.find?_eq_none.2 fun e he heq => h (List.mem_append_left _ ?_)
    exact List.mem_map.2 ⟨e, he, by simpa using heq⟩
  have hshifts : shifts.find? (·.source.contains c.toNat) = none := by
    refine List.find?_eq_none.2 fun s hs hcontains => h (List.mem_append_right _ ?_)
    exact List.mem_flatMap.2 ⟨s, hs, Stride.mem_members hcontains⟩
  rw [mapped, hexpansions]
  dsimp only
  rw [hshifts]

/-- The first character of an image is the mapped character or comes out of a table. -/
theorem head?_mapped (h : (mapped expansions shifts c).head? = some d) :
    mapped expansions shifts c = [c] ∧ d = c ∨
      ∃ n ∈ imageHeads expansions shifts, d = Char.ofNat n := by
  unfold mapped at h ⊢
  split at h
  · rename_i e he
    obtain ⟨n, hn, rfl⟩ : ∃ n, e.image.head? = some n ∧ Char.ofNat n = d := by simpa using h
    refine .inr ⟨n, List.mem_append_left _ (List.mem_flatMap.2 ⟨e, ?_, ?_⟩), rfl⟩
    · exact List.mem_of_find?_eq_some he
    · obtain ⟨more, hmore⟩ := List.head?_eq_some_iff.1 hn
      simp [hmore]
  · split at h
    · rename_i s hs
      have hcontains : s.source.contains c.toNat := by simpa using List.find?_some hs
      have hmember := Stride.mem_members (Shift.contains_image hcontains)
      refine .inr ⟨_, List.mem_append_right _ (List.mem_flatMap.2 ⟨s, ?_, hmember⟩), ?_⟩
      · exact List.mem_of_find?_eq_some hs
      · simpa using h.symm
    · simp_all

/-! ## Settled images -/

/-- A mapping of ASCII by a function and of all else by tables. -/
def cased (f : Char → Char) (expansions : List Expansion) (shifts : List Shift) (c : Char) :
    List Char :=
  if c.toNat < 0x80 then [f c] else mapped expansions shifts c

/-- **Tables of a case mapping.** No first character of an image is mapped on, and each of them is a
letter or a number. -/
structure CaseTables (f : Char → Char) (expansions : List Expansion) (shifts : List Shift) :
    Prop where
  ascii : ∀ n < 0x80, (f (.ofNat n)).toNat < 0x80 ∧ f (f (.ofNat n)) = f (.ofNat n) ∧
    ((Char.ofNat n).isAlphanum → (f (.ofNat n)).isAlphanum)
  heads : ∀ n ∈ imageHeads expansions shifts, n.isValidChar ∧
    (n < 0x80 → f (.ofNat n) = .ofNat n ∧ (Char.ofNat n).isAlphanum)
  settled : codeSet (imageHeads expansions shifts) &&& codeSet (sources expansions shifts) = 0
  alphanumeric : codeSet ((imageHeads expansions shifts).filter (0x80 ≤ ·))
    ||| rangeSet alphanumericRanges = rangeSet alphanumericRanges

namespace CaseTables

variable (tables : CaseTables f expansions shifts)
include tables

/-- An image from a table is settled. -/
theorem cased_imageHead {n : Nat} (hn : n ∈ imageHeads expansions shifts) :
    cased f expansions shifts (.ofNat n) = [.ofNat n] := by
  obtain ⟨hvalid, hascii⟩ := tables.heads n hn
  unfold cased
  rw [toNat_ofNat hvalid]
  split
  · rename_i hlt
    rw [(hascii hlt).1]
  · refine mapped_of_not_mem_sources ?_
    rw [toNat_ofNat hvalid]
    exact not_mem_of_codeSet_and tables.settled hn

/-- **What a mapping yields first is settled.** -/
theorem cased_of_head? (h : (cased f expansions shifts c).head? = some d) :
    cased f expansions shifts d = [d] := by
  by_cases hlt : c.toNat < 0x80
  · obtain rfl : f c = d := by simpa [cased, hlt] using h
    obtain ⟨hascii, hfixed, -⟩ := forall_ascii
      (P := fun c => (f c).toNat < 0x80 ∧ f (f c) = f c ∧ (c.isAlphanum → (f c).isAlphanum))
      tables.ascii hlt
    rw [cased, if_pos hascii, hfixed]
  · rw [cased, if_neg hlt] at h
    rcases head?_mapped h with ⟨hself, rfl⟩ | ⟨n, hn, rfl⟩
    · rw [cased, if_neg hlt, hself]
    · exact tables.cased_imageHead hn

/-- **What a letter or a number is mapped to starts with one.** -/
theorem isAlphanumeric_of_head? (hc : isAlphanumeric c)
    (h : (cased f expansions shifts c).head? = some d) : isAlphanumeric d := by
  by_cases hlt : c.toNat < 0x80
  · obtain rfl : f c = d := by simpa [cased, hlt] using h
    rw [isAlphanumeric, if_pos hlt] at hc
    obtain ⟨hascii, -, halphanum⟩ := forall_ascii
      (P := fun c => (f c).toNat < 0x80 ∧ f (f c) = f c ∧ (c.isAlphanum → (f c).isAlphanum))
      tables.ascii hlt
    rw [isAlphanumeric, if_pos hascii]
    exact halphanum hc
  · rw [cased, if_neg hlt] at h
    rcases head?_mapped h with ⟨-, rfl⟩ | ⟨n, hn, rfl⟩
    · exact hc
    · obtain ⟨hvalid, hascii⟩ := tables.heads n hn
      unfold isAlphanumeric
      rw [toNat_ofNat hvalid]
      split
      · rename_i hlt
        exact (hascii hlt).2
      · exact any_contains_of_codeSet_or tables.alphanumeric
          (List.mem_filter.2 ⟨hn, by simpa using Nat.le_of_not_lt ‹_›⟩)

end CaseTables

theorem caseTables_uppercase : CaseTables Char.toUpper uppercaseExpansions uppercaseShifts where
  ascii := by decide
  heads := by decide +kernel
  settled := by decide +kernel
  alphanumeric := by decide +kernel

theorem caseTables_lowercase : CaseTables Char.toLower lowercaseExpansions lowercaseShifts where
  ascii := by decide
  heads := by decide +kernel
  settled := by decide +kernel
  alphanumeric := by decide +kernel

theorem toUppercase_of_head? (h : (toUppercase c).head? = some d) : toUppercase d = [d] :=
  caseTables_uppercase.cased_of_head? h

theorem toLowercase_of_head? (h : (toLowercase c).head? = some d) : toLowercase d = [d] :=
  caseTables_lowercase.cased_of_head? h

/-- Beyond ASCII a run of the table gives the small form of a character, or it is its own, but for
`İ`. -/
theorem toLowercase_cases (hlt : ¬ c.toNat < 0x80) (hne : c ≠ 'İ') :
    (∃ s ∈ lowercaseShifts, s.source.contains c.toNat ∧
      toLowercase c = [.ofNat (s.target + (c.toNat - s.source.first))]) ∨
      toLowercase c = [c] := by
  have hnone : lowercaseExpansions.find? (·.code == c.toNat) = none := by
    refine List.find?_eq_none.2 fun e he heq => hne ?_
    rw [List.mem_singleton.1 he, beq_iff_eq] at heq
    exact Char.toNat_inj.1 heq.symm
  rw [toLowercase, if_neg hlt, mapped, hnone]
  dsimp only
  split
  · rename_i s hfind
    exact .inl ⟨s, List.mem_of_find?_eq_some hfind, by simpa using List.find?_some hfind, rfl⟩
  · exact .inr rfl

/-- Only `İ` has a small form of two characters, an `i` and a dot above. -/
theorem exists_toLowercase_eq (hne : c ≠ 'İ') : ∃ d, toLowercase c = [d] := by
  by_cases hlt : c.toNat < 0x80
  · exact ⟨_, if_pos hlt⟩
  · rcases toLowercase_cases hlt hne with ⟨s, -, -, h⟩ | h
    · exact ⟨_, h⟩
    · exact ⟨_, h⟩

/-! ## The way back from a small letter -/

/-- Whether a run ends before another begins. -/
def Shift.Before (s u : Shift) : Prop :=
  s.source.last < u.source.first ∧ u.source.first ≤ u.source.last

instance : DecidableRel Shift.Before := fun s u =>
  inferInstanceAs (Decidable (s.source.last < u.source.first ∧ u.source.first ≤ u.source.last))

instance : Trans Shift.Before Shift.Before Shift.Before where
  trans h h' := ⟨h.1.trans (Nat.lt_of_le_of_lt h.2 h'.1), h'.2⟩

/-- Of runs in ascending order, the one that covers a character maps it. -/
theorem mapped_of_mem (hsorted : shifts.Pairwise Shift.Before)
    (hexpansions : c.toNat ∉ expansions.map Expansion.code) {s : Shift} (hs : s ∈ shifts)
    (hc : s.source.contains c.toNat) :
    mapped expansions shifts c = [.ofNat (s.target + (c.toNat - s.source.first))] := by
  have hnone : expansions.find? (·.code == c.toNat) = none :=
    List.find?_eq_none.2 fun e he heq => hexpansions (List.mem_map.2 ⟨e, he, by simpa using heq⟩)
  have hfind : shifts.find? (·.source.contains c.toNat) = some s := by
    induction hsorted with
    | nil => cases hs
    | @cons u shifts hu _ ih =>
      rcases List.mem_cons.1 hs with rfl | hs
      · exact List.find?_cons_of_pos hc
      · -- the first run ends before the one that covers the character begins
        have hmiss : ¬ u.source.contains c.toNat := by
          have hlast := (hu s hs).1
          simp only [Stride.contains, Bool.and_eq_true, decide_eq_true_eq] at hc ⊢
          omega
        exact (List.find?_cons_of_neg (by simpa using hmiss)).trans (ih hs)
  rw [mapped, hnone]
  dsimp only
  rw [hfind]

/-- Whether a run takes all images of another back to where they came from. -/
def Shift.undoes (u s : Shift) : Bool :=
  Nat.ble s.image.last u.source.last && Nat.ble u.source.first s.target
    && u.target + (s.target - u.source.first) == s.source.first
    && s.source.step % u.source.step == 0 && (s.target - u.source.first) % u.source.step == 0

theorem Shift.contains_of_undoes {u s : Shift} (h : u.undoes s) {n : Nat}
    (hn : s.source.contains n) :
    u.source.contains (s.target + (n - s.source.first)) ∧
      u.target + (s.target + (n - s.source.first) - u.source.first) = n := by
  simp only [undoes, image, Bool.and_eq_true, Nat.ble_eq, beq_iff_eq] at h
  simp only [Stride.contains, Bool.and_eq_true, decide_eq_true_eq, beq_iff_eq] at hn ⊢
  obtain ⟨⟨⟨⟨hlast, hfirst⟩, hback⟩, hstep⟩, hoffset⟩ := h
  obtain ⟨⟨hn, hn'⟩, hnstep⟩ := hn
  -- both the offset of the run and that of the code point in it are multiples of the step
  have hsplit : s.target + (n - s.source.first) - u.source.first
      = (s.target - u.source.first) + (n - s.source.first) := by omega
  have hdvd : u.source.step ∣ s.target + (n - s.source.first) - u.source.first := by
    rw [hsplit]
    exact Nat.dvd_add (Nat.dvd_of_mod_eq_zero hoffset)
      ((Nat.dvd_of_mod_eq_zero hstep).trans (Nat.dvd_of_mod_eq_zero hnstep))
  exact ⟨⟨⟨by omega, by omega⟩, Nat.mod_eq_zero_of_dvd hdvd⟩, by omega⟩

/-- **Whether a character comes back**: its small form is capitalized to one capital that has the
same small form. -/
def comesBack (c : Char) : Bool :=
  match (toLowercase c).head? with
  | none => false
  | some d =>
    match toUppercase d with
    | [e] => isUppercase e && toLowercase e == [d]
    | _ => false

/-- Whether the upper-case run that reaches as far as the images of a run undoes it, or whatever
capitals there are in it come back but for `ẞ`. -/
def Shift.isReversible (s : Shift) : Bool :=
  0x80 ≤ s.target
      && (uppercaseShifts.find? fun u => Nat.ble s.image.last u.source.last).any (·.undoes s)
    || s.source.members.all fun n =>
      !isUppercase (.ofNat n) || n == 'ẞ'.toNat || comesBack (.ofNat n)

/-- **What the way back rests on.** The upper-case runs are in ascending order, and no character of
theirs has an expansion as well; no capital has another capital; and the capitals of each lower-case
run come back, as do those of ASCII and `İ`. -/
structure ReversibleTables : Prop where
  sorted : uppercaseShifts.IsChain Shift.Before
  expansions : codeSet (uppercaseShifts.flatMap fun u => u.source.members)
    &&& codeSet (uppercaseExpansions.map Expansion.code) = 0
  capitals : codeSet (uppercaseStrides.flatMap Stride.members)
    &&& codeSet (sources uppercaseExpansions uppercaseShifts) = 0
  runs : lowercaseShifts.all Shift.isReversible
  ascii : ∀ n < 0x80, isUppercase (.ofNat n) → comesBack (.ofNat n)
  dotted : comesBack 'İ'

theorem reversibleTables : ReversibleTables where
  sorted := by decide +kernel
  expansions := by decide +kernel
  capitals := by decide +kernel
  runs := by decide +kernel
  ascii := by decide +kernel
  dotted := by decide +kernel

/-- A capital is its own capital. -/
theorem toUppercase_of_isUppercase (h : isUppercase c) : toUppercase c = [c] := by
  unfold isUppercase at h
  unfold toUppercase
  split at h
  · rename_i hlt
    rw [if_pos hlt, forall_ascii (P := fun c => c.isUpper → c.toUpper = c) (by decide) hlt h]
  · rename_i hlt
    obtain ⟨s, hs, hcontains⟩ := List.any_eq_true.1 h
    have hmember := List.mem_flatMap.2 ⟨s, hs, Stride.mem_members hcontains⟩
    rw [if_neg hlt]
    exact mapped_of_not_mem_sources (not_mem_of_codeSet_and reversibleTables.capitals hmember)

/-- A capital whose small form is its own image comes back from it. -/
theorem comesBack_of_images (h : isUppercase c) (hd : toLowercase c = [d])
    (hc : toUppercase d = [c]) : comesBack c := by
  simp [comesBack, hd, hc, h]

/-- A capital in a run that another run undoes comes back. -/
theorem comesBack_of_undoes (h : isUppercase c) {s u : Shift} (hs : s ∈ lowercaseShifts)
    (hu : u ∈ uppercaseShifts) (hundoes : u.undoes s) (htarget : 0x80 ≤ s.target)
    (hc : s.source.contains c.toNat)
    (hd : toLowercase c = [.ofNat (s.target + (c.toNat - s.source.first))]) : comesBack c := by
  have hhead : s.target + (c.toNat - s.source.first)
      ∈ imageHeads lowercaseExpansions lowercaseShifts :=
    List.mem_append_right _
      (List.mem_flatMap.2 ⟨s, hs, Stride.mem_members (Shift.contains_image hc)⟩)
  have hnat := toNat_ofNat (caseTables_lowercase.heads _ hhead).1
  obtain ⟨hcontains, hback⟩ := Shift.contains_of_undoes hundoes hc
  refine comesBack_of_images h hd ?_
  have hexpansions : (Char.ofNat (s.target + (c.toNat - s.source.first))).toNat
      ∉ uppercaseExpansions.map Expansion.code := by
    rw [hnat]
    exact not_mem_of_codeSet_and reversibleTables.expansions
      (List.mem_flatMap.2 ⟨u, hu, Stride.mem_members hcontains⟩)
  have hsorted := List.isChain_iff_pairwise.1 reversibleTables.sorted
  rw [toUppercase, if_neg (by rw [hnat]; omega),
    mapped_of_mem hsorted hexpansions hu (by rwa [hnat]), hnat, hback, Char.ofNat_toNat]

/-- **A capital comes back** from its small form, `ẞ` apart. -/
theorem comesBack_of_isUppercase (h : isUppercase c) (hne : c ≠ 'ẞ') : comesBack c := by
  by_cases hlt : c.toNat < 0x80
  · exact forall_ascii (P := fun c => isUppercase c → comesBack c) reversibleTables.ascii hlt h
  by_cases hdot : c = 'İ'
  · rw [hdot]
    exact reversibleTables.dotted
  rcases toLowercase_cases hlt hdot with ⟨s, hs, hcontains, hd⟩ | hd
  · have hreversible := List.all_eq_true.1 reversibleTables.runs s hs
    rw [Shift.isReversible, Bool.or_eq_true, Bool.and_eq_true, decide_eq_true_eq,
      Option.any_eq_true, List.all_eq_true] at hreversible
    rcases hreversible with ⟨htarget, u, hu, hundoes⟩ | hmembers
    · exact comesBack_of_undoes h hs (List.mem_of_find?_eq_some hu) hundoes htarget hcontains hd
    · have hmember := hmembers _ (Stride.mem_members hcontains)
      rw [Char.ofNat_toNat, h, Bool.not_true, Bool.false_or, Bool.or_eq_true, beq_iff_eq,
        Char.toNat_inj] at hmember
      exact hmember.resolve_left hne
  · exact comesBack_of_images h hd (toUppercase_of_isUppercase h)

/-- The capital of the small form of a capital, and its way back. -/
theorem exists_capital (h : isUppercase c) (hne : c ≠ 'ẞ')
    (hd : (toLowercase c).head? = some d) :
    ∃ e, toUppercase d = [e] ∧ isUppercase e ∧ toLowercase e = [d] := by
  have hback := comesBack_of_isUppercase h hne
  rw [comesBack, hd] at hback
  dsimp only at hback
  split at hback
  · rename_i e he
    rw [Bool.and_eq_true, beq_iff_eq] at hback
    exact ⟨e, he, hback⟩
  · cases hback

/-! ## Letters of ASCII -/

theorem toNat_lt_of_isUpper (h : c.isUpper) : c.toNat < 0x80 := by
  have hrange : 65 ≤ c.val ∧ c.val ≤ 90 := of_decide_eq_true h
  exact Nat.lt_of_le_of_lt hrange.2 (by decide)

theorem toNat_lt_of_isLower (h : c.isLower) : c.toNat < 0x80 := by
  have hlast : c.val ≤ 122 := of_decide_eq_true ((Bool.and_eq_true _ _).mp h).2
  exact Nat.lt_of_le_of_lt hlast (by decide)

theorem toNat_lt_of_isDigit (h : c.isDigit) : c.toNat < 0x80 := by
  have hlast : c.val ≤ 57 := of_decide_eq_true ((Bool.and_eq_true _ _).mp h).2
  exact Nat.lt_of_le_of_lt hlast (by decide)

/-- What is its own capital is no small letter of ASCII. -/
theorem not_isLower_of_toUppercase (h : toUppercase c = [c]) : ¬ c.isLower := by
  intro hlower
  have hlt := toNat_lt_of_isLower hlower
  rw [toUppercase, if_pos hlt, List.singleton_inj] at h
  exact forall_ascii (P := fun c => c.isLower → c.toUpper ≠ c) (by decide) hlt hlower h

/-- What is its own small letter is no capital of ASCII. -/
theorem not_isUpper_of_toLowercase (h : toLowercase c = [c]) : ¬ c.isUpper := by
  intro hupper
  have hlt := toNat_lt_of_isUpper hupper
  rw [toLowercase, if_pos hlt, List.singleton_inj] at h
  exact forall_ascii (P := fun c => c.isUpper → c.toLower ≠ c) (by decide) hlt hupper h

/-- Every capital of ASCII counts as one. -/
theorem isUppercase_of_isUpper (h : c.isUpper) : isUppercase c := by
  rwa [isUppercase, if_pos (toNat_lt_of_isUpper h)]

/-- A digit of ASCII is its own capital and does not count as one. -/
theorem upper_of_isDigit (h : c.isDigit) : toUppercase c = [c] ∧ ¬ isUppercase c :=
  forall_ascii (P := fun c => c.isDigit → toUppercase c = [c] ∧ ¬ isUppercase c) (by decide)
    (toNat_lt_of_isDigit h) h

end Unicode

end SwiftDecl
