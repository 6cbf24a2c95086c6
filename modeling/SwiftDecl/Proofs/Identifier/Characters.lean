import SwiftDecl.Identifier.Basic
import SwiftDecl.Proofs.Unicode.CaseMapping

/-!
# What identifiers are made of

A normalized name consists of word characters: no blank, no punctuation and no backtick of ASCII can
get into it, whatever the raw name was (`isWordChar_of_mem_ofName`). It is empty only where the raw
name holds no identifier character at all (`isEmpty_ofName_iff`). And since a backtick is no word
character, an identifier can be told from the text that displays it (`eq_of_display_eq`).
-/

namespace SwiftDecl

open Unicode

theorem isWordChar_of_isIdentifierChar {c : Char} (h : isIdentifierChar c) : isWordChar c := by
  rw [isIdentifierChar, Bool.or_eq_true] at h
  rcases h with h | h
  · rw [isAlphanumeric] at h
    split at h
    · simp [isWordChar, h]
    · exact isWordChar_of_le (by omega)
  · simp [isWordChar, h]

/-! ## Pieces -/

/-- **Only separators are lost** when a raw name is cut into its pieces. -/
theorem flatten_pieces (raw : Text) : (pieces raw).flatten = raw.filter isIdentifierChar := by
  fun_induction pieces raw with
  | case1 => rfl
  | case2 c rest hc first more hmore hp ih =>
    rw [List.filter_cons_of_pos hc, ← ih, hmore]
    rfl
  | case3 c rest hc hcut ih =>
    rw [List.filter_cons_of_pos hc, ← ih]
    rfl
  | case4 c rest hc ih => rw [List.filter_cons_of_neg hc, ih]

/-- No piece is empty. -/
theorem ne_nil_of_mem_pieces {raw piece : Text} (h : piece ∈ pieces raw) : piece ≠ [] := by
  fun_induction pieces raw with
  | case1 => cases h
  | case2 c rest hc first more hmore hp ih =>
    rcases List.mem_cons.1 h with rfl | h
    · exact List.cons_ne_nil _ _
    · exact ih (hmore ▸ List.mem_cons_of_mem _ h)
  | case3 c rest hc hcut ih =>
    rcases List.mem_cons.1 h with rfl | h
    · exact List.cons_ne_nil _ _
    · exact ih h
  | case4 c rest hc ih => exact ih h

/-- What a piece holds are identifier characters of the raw name. -/
theorem mem_of_mem_pieces {raw piece : Text} {c : Char} (h : piece ∈ pieces raw) (hc : c ∈ piece) :
    c ∈ raw ∧ isIdentifierChar c := by
  have hmem : c ∈ (pieces raw).flatten := List.mem_flatten.2 ⟨piece, h, hc⟩
  rw [flatten_pieces] at hmem
  exact List.mem_filter.1 hmem

theorem isIdentifierChar_of_mem_pieces {raw piece : Text} {c : Char} (h : piece ∈ pieces raw)
    (hc : c ∈ piece) : isIdentifierChar c :=
  (mem_of_mem_pieces h hc).2

/-- A raw name has no pieces only if it has no identifier character. -/
theorem pieces_eq_nil_iff {raw : Text} : pieces raw = [] ↔ ∀ c ∈ raw, ¬ isIdentifierChar c := by
  rw [← List.filter_eq_nil_iff, ← flatten_pieces, List.flatten_eq_nil_iff]
  constructor
  · intro h
    simp [h]
  · intro h
    exact List.eq_nil_iff_forall_not_mem.2 fun piece hp => ne_nil_of_mem_pieces hp (h piece hp)

/-! ## Steps of normalization -/

theorem capitalized_eq_nil_iff {piece : Text} : capitalized piece = [] ↔ piece = [] := by
  cases piece with
  | nil => exact Iff.rfl
  | cons c rest => simp [capitalized, toUppercase_ne_nil]

/-- **What the joined pieces hold** are identifier characters of the raw name and characters of
their capitals. -/
theorem forall_mem_flatMap_capitalized {P : Char → Prop} {raw : Text}
    (h : ∀ c ∈ raw, isIdentifierChar c → P c ∧ ∀ d ∈ toUppercase c, P d) :
    ∀ c ∈ (pieces raw).flatMap capitalized, P c := by
  intro c hc
  obtain ⟨piece, hp, hc⟩ := List.mem_flatMap.1 hc
  have hpiece : ∀ d ∈ piece, P d ∧ ∀ e ∈ toUppercase d, P e := fun d hd =>
    h d (mem_of_mem_pieces hp hd).1 (mem_of_mem_pieces hp hd).2
  cases piece with
  | nil => cases hc
  | cons b rest =>
    rcases List.mem_append.1 hc with hc | hc
    · exact (hpiece b List.mem_cons_self).2 c hc
    · exact (hpiece c (List.mem_cons_of_mem _ hc)).1

/-- The joined pieces of a raw name are empty only if it has no identifier character. -/
theorem flatMap_capitalized_eq_nil_iff {raw : Text} :
    (pieces raw).flatMap capitalized = [] ↔ ∀ c ∈ raw, ¬ isIdentifierChar c := by
  rw [List.flatMap_eq_nil_iff, ← pieces_eq_nil_iff]
  constructor
  · intro h
    exact List.eq_nil_iff_forall_not_mem.2 fun piece hp =>
      ne_nil_of_mem_pieces hp (capitalized_eq_nil_iff.1 (h piece hp))
  · intro h
    simp [h]

theorem isWordChar_of_mem_flatMap_capitalized {raw : Text} :
    ∀ c ∈ (pieces raw).flatMap capitalized, isWordChar c :=
  forall_mem_flatMap_capitalized fun _ _ hc =>
    have hword := isWordChar_of_isIdentifierChar hc
    ⟨hword, fun _ hd => isWordChar_of_mem_toUppercase hword hd⟩

theorem leadingLowercased_eq_nil_iff {t : Text} : leadingLowercased t = [] ↔ t = [] := by
  constructor
  · intro h
    obtain ⟨htake, hdrop⟩ := List.append_eq_nil_iff.1 h
    have htake : t.take (leadingCapitals t) = [] :=
      List.eq_nil_iff_forall_not_mem.2 fun c hc =>
        toLowercase_ne_nil c (List.flatMap_eq_nil_iff.1 htake c hc)
    rw [← List.take_append_drop (leadingCapitals t) t, htake, hdrop]
    rfl
  · rintro rfl
    rfl

theorem forall_mem_leadingLowercased {P : Char → Prop} {t : Text} (h : ∀ c ∈ t, P c)
    (hlower : ∀ c ∈ t, ∀ d ∈ toLowercase c, P d) : ∀ c ∈ leadingLowercased t, P c := by
  intro d hd
  rcases List.mem_append.1 hd with hd | hd
  · obtain ⟨c, hc, hd⟩ := List.mem_flatMap.1 hd
    exact hlower c (List.mem_of_mem_take hc) d hd
  · exact h d (List.mem_of_mem_drop hd)

theorem digitShielded_eq_nil_iff {t : Text} : digitShielded t = [] ↔ t = [] := by
  unfold digitShielded
  split
  · rename_i h
    constructor
    · intro hnil
      cases hnil
    · rintro rfl
      cases h
  · exact Iff.rfl

theorem forall_mem_digitShielded {P : Char → Prop} {t : Text} (hshield : P '_')
    (h : ∀ c ∈ t, P c) : ∀ c ∈ digitShielded t, P c := by
  unfold digitShielded
  split
  · exact List.forall_mem_cons.2 ⟨hshield, h⟩
  · exact h

namespace Identifier

/-! ## Normalized names -/

/-- **An identifier holds word characters only.** -/
theorem isWordChar_of_mem_ofName {raw : Text} : ∀ c ∈ (ofName raw).name, isWordChar c :=
  forall_mem_digitShielded (by decide)
    (forall_mem_leadingLowercased isWordChar_of_mem_flatMap_capitalized fun c hc _ hd =>
      isWordChar_of_mem_toLowercase (isWordChar_of_mem_flatMap_capitalized c hc) hd)

theorem isWordChar_of_mem_ofTypeName {raw : Text} : ∀ c ∈ (ofTypeName raw).name, isWordChar c :=
  forall_mem_digitShielded (by decide) isWordChar_of_mem_flatMap_capitalized

/-- **An identifier is empty only for want of characters**: no step of normalization drops a
character that may stand in one. -/
theorem isEmpty_ofName_iff {raw : Text} :
    (ofName raw).isEmpty = true ↔ ∀ c ∈ raw, ¬ isIdentifierChar c := by
  rw [isEmpty, List.isEmpty_iff, ofName, digitShielded_eq_nil_iff, leadingLowercased_eq_nil_iff,
    flatMap_capitalized_eq_nil_iff]

theorem isEmpty_ofTypeName_iff {raw : Text} :
    (ofTypeName raw).isEmpty = true ↔ ∀ c ∈ raw, ¬ isIdentifierChar c := by
  rw [isEmpty, List.isEmpty_iff, ofTypeName, digitShielded_eq_nil_iff,
    flatMap_capitalized_eq_nil_iff]

/-! ## Displayed names -/

/-- A character of a displayed identifier is a word character or a backtick. -/
def isDisplayChar (c : Char) : Bool :=
  isWordChar c || c == '\x60'

theorem isDisplayChar_of_mem_display {i : Identifier} (h : ∀ c ∈ i.name, isWordChar c) :
    ∀ c ∈ i.display, isDisplayChar c := by
  have hname : ∀ c ∈ i.name, isDisplayChar c := fun c hc => by simp [isDisplayChar, h c hc]
  unfold display
  split
  · rw [Text.inBackticks, List.cons_append, List.forall_mem_cons, List.forall_mem_append]
    exact ⟨rfl, hname, by simp [isDisplayChar]⟩
  · exact hname

/-- **Backticks hide nothing**: identifiers displayed alike are the same. -/
theorem eq_of_display_eq {i j : Identifier} (hi : ∀ c ∈ i.name, isWordChar c)
    (hj : ∀ c ∈ j.name, isWordChar c) (h : i.display = j.display) : i = j := by
  -- one of them in backticks alone would mean that the other's name starts with one
  have hno : ∀ {name rest : Text}, (∀ c ∈ name, isWordChar c) → name ≠ '\x60' :: rest := by
    rintro name rest hname rfl
    exact absurd (hname _ List.mem_cons_self) (by decide)
  obtain ⟨name⟩ := i
  obtain ⟨name'⟩ := j
  unfold display at h
  split at h <;> split at h
  · simpa [Text.inBackticks] using h
  · exact absurd h.symm (hno hj)
  · exact absurd h (hno hi)
  · exact congrArg _ h

end Identifier

end SwiftDecl
