import SwiftDecl.Unicode.CaseMapping

/-!
# What case mappings can yield

No character maps to nothing, and no character maps to an ASCII character that is neither a letter
nor a digit nor an underscore, unless it was one to begin with. Both are facts about the tables: an
image lies outside ASCII or is a letter of it, as that of the dotless `ı` is. They are checked entry
by entry and then hold of every character.
-/

namespace SwiftDecl

namespace Unicode

/-- Whether a character is a letter, a digit or an underscore, as far as it belongs to ASCII. -/
def isWordChar (c : Char) : Bool :=
  0x80 ≤ c.toNat || c.isAlphanum || c == '_'

theorem isWordChar_of_le {c : Char} (h : 0x80 ≤ c.toNat) : isWordChar c := by
  simp [isWordChar, h]

/-- What holds of each of the 128 characters of ASCII holds of every character below U+0080. -/
theorem forall_ascii {P : Char → Prop} (h : ∀ n < 0x80, P (Char.ofNat n)) {c : Char}
    (hc : c.toNat < 0x80) : P c := by
  simpa using h c.toNat hc

/-! ## Entries of the tables -/

/-- Whether the images of a run are word characters: they lie outside ASCII, and not among the
surrogates, which are no characters; or the run is one character, with one for its image. -/
def Shift.isSound (s : Shift) : Bool :=
  let last := s.target + (s.source.last - s.source.first)
  0x80 ≤ s.target && (last < 0xD800 || (0xDFFF < s.target && last < 0x110000))
    || s.source.last == s.source.first && isWordChar (Char.ofNat s.target)

/-- Whether a character maps to one character at least, and to word characters only. -/
def Expansion.isSound (e : Expansion) : Bool :=
  !e.image.isEmpty && e.image.all (isWordChar ∘ Char.ofNat)

theorem toNat_ofNat {n : Nat} (h : n.isValidChar) : (Char.ofNat n).toNat = n := by
  rw [Char.ofNat, dif_pos h]
  rfl

/-- The images of a sound run are word characters. -/
theorem Shift.isWordChar_image {s : Shift} (hs : s.isSound) {n : Nat} (hn : s.source.contains n) :
    isWordChar (Char.ofNat (s.target + (n - s.source.first))) := by
  simp only [Stride.contains, Bool.and_eq_true, decide_eq_true_eq] at hn
  simp only [isSound, Bool.or_eq_true, Bool.and_eq_true, decide_eq_true_eq, beq_iff_eq] at hs
  rcases hs with ⟨htarget, hlast⟩ | ⟨hone, himage⟩
  · refine isWordChar_of_le ?_
    rw [toNat_ofNat]
    · omega
    · rcases hlast with hlast | ⟨hfirst, hlast⟩
      · exact Or.inl (by omega)
      · exact Or.inr ⟨by omega, by omega⟩
  · -- the run is one character long, and its image is the one that was checked
    rw [show n - s.source.first = 0 by omega]
    exact himage

variable {expansions : List Expansion} {shifts : List Shift}

/-- **Sound tables map word characters to word characters.** -/
theorem isWordChar_of_mem_mapped (he : expansions.all Expansion.isSound)
    (hs : shifts.all Shift.isSound) {c d : Char} (hc : isWordChar c)
    (hd : d ∈ mapped expansions shifts c) : isWordChar d := by
  rw [List.all_eq_true] at he hs
  unfold mapped at hd
  split at hd
  · rename_i e hfind
    have hsound := he e (List.mem_of_find?_eq_some hfind)
    rw [Expansion.isSound, Bool.and_eq_true, List.all_eq_true] at hsound
    obtain ⟨n, hn, rfl⟩ := List.mem_map.1 hd
    exact hsound.2 n hn
  · split at hd
    · rename_i s hfind
      rw [List.mem_singleton] at hd
      rw [hd]
      exact Shift.isWordChar_image (hs s (List.mem_of_find?_eq_some hfind)) (by
        simpa using List.find?_some hfind)
    · rw [List.mem_singleton] at hd
      rw [hd]
      exact hc

/-- **Sound tables map no character to nothing.** -/
theorem mapped_ne_nil (he : expansions.all Expansion.isSound) (c : Char) :
    mapped expansions shifts c ≠ [] := by
  rw [List.all_eq_true] at he
  unfold mapped
  split
  · rename_i e hfind
    have hsound := he e (List.mem_of_find?_eq_some hfind)
    rw [Expansion.isSound, Bool.and_eq_true, Bool.not_eq_true', List.isEmpty_eq_false_iff] at hsound
    simpa using hsound.1
  · split <;> simp

/-! ## The two mappings

Both map ASCII by a function of its own and everything else by their tables. -/

theorem toUppercase_of_ascii {c : Char} (h : c.toNat < 0x80) : toUppercase c = [c.toUpper] :=
  if_pos h

theorem toLowercase_of_ascii {c : Char} (h : c.toNat < 0x80) : toLowercase c = [c.toLower] :=
  if_pos h

theorem uppercaseTables_sound :
    uppercaseExpansions.all Expansion.isSound ∧ uppercaseShifts.all Shift.isSound := by
  decide +kernel

theorem lowercaseTables_sound :
    lowercaseExpansions.all Expansion.isSound ∧ lowercaseShifts.all Shift.isSound := by
  decide +kernel

theorem isWordChar_of_mem_cased {f : Char → Char}
    (ha : ∀ n < 0x80, isWordChar (Char.ofNat n) → isWordChar (f (Char.ofNat n)))
    (he : expansions.all Expansion.isSound) (hs : shifts.all Shift.isSound) {c d : Char}
    (hc : isWordChar c)
    (hd : d ∈ if c.toNat < 0x80 then [f c] else mapped expansions shifts c) :
    isWordChar d := by
  split at hd
  · rename_i hlt
    rw [List.mem_singleton] at hd
    rw [hd]
    exact forall_ascii (P := fun c => isWordChar c → isWordChar (f c)) ha hlt hc
  · exact isWordChar_of_mem_mapped he hs hc hd

/-- **Upper-casing keeps to word characters.** -/
theorem isWordChar_of_mem_toUppercase {c d : Char} (hc : isWordChar c) (hd : d ∈ toUppercase c) :
    isWordChar d :=
  isWordChar_of_mem_cased (f := Char.toUpper) (by decide) uppercaseTables_sound.1
    uppercaseTables_sound.2 hc hd

/-- **So does lower-casing.** -/
theorem isWordChar_of_mem_toLowercase {c d : Char} (hc : isWordChar c) (hd : d ∈ toLowercase c) :
    isWordChar d :=
  isWordChar_of_mem_cased (f := Char.toLower) (by decide) lowercaseTables_sound.1
    lowercaseTables_sound.2 hc hd

theorem toUppercase_ne_nil (c : Char) : toUppercase c ≠ [] := by
  unfold toUppercase
  split
  · simp
  · exact mapped_ne_nil uppercaseTables_sound.1 c

theorem toLowercase_ne_nil (c : Char) : toLowercase c ≠ [] := by
  unfold toLowercase
  split
  · simp
  · exact mapped_ne_nil lowercaseTables_sound.1 c

end Unicode

end SwiftDecl
