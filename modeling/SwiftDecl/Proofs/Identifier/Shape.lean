import SwiftDecl.Proofs.Identifier.Characters
import SwiftDecl.Proofs.Unicode.RoundTrip

/-!
# How an identifier begins

The first character of a normalized name is the only one that more than one step of normalization
looks at: it has been capitalized, perhaps made small again, and perhaps shielded. What comes out of
each step is settled under the mapping that step applies (`opening_flatMap_capitalized`,
`opening_leadingLowercased`), and so no small letter of ASCII begins the name of a type and no
capital of it the name of a value. With what names are made of, this says that no raw name can break
the Swift text around it (`fits_swift_text`).
-/

namespace SwiftDecl

open Unicode

variable {raw t : Text} {c d : Char}

theorem isIdentifierChar_of_head?_toUppercase (hc : isIdentifierChar c)
    (h : (toUppercase c).head? = some d) : isIdentifierChar d := by
  rw [isIdentifierChar, Bool.or_eq_true, beq_iff_eq] at hc
  rcases hc with hc | rfl
  · simp [isIdentifierChar, caseTables_uppercase.isAlphanumeric_of_head? hc h]
  · obtain rfl : '_' = d := by simpa [toUppercase] using h
    rfl

theorem isIdentifierChar_of_head?_toLowercase (hc : isIdentifierChar c)
    (h : (toLowercase c).head? = some d) : isIdentifierChar d := by
  rw [isIdentifierChar, Bool.or_eq_true, beq_iff_eq] at hc
  rcases hc with hc | rfl
  · simp [isIdentifierChar, caseTables_lowercase.isAlphanumeric_of_head? hc h]
  · obtain rfl : '_' = d := by simpa [toLowercase] using h
    rfl

/-! ## The first character after each step -/

/-- The joined pieces start with an identifier character that is its own capital. -/
theorem opening_flatMap_capitalized (h : ((pieces raw).flatMap capitalized).head? = some c) :
    isIdentifierChar c ∧ toUppercase c = [c] := by
  cases hraw : pieces raw with
  | nil => simp [hraw] at h
  | cons piece more =>
    have hp : piece ∈ pieces raw := hraw ▸ List.mem_cons_self
    obtain ⟨b, rest, hpiece⟩ := List.exists_cons_of_ne_nil (ne_nil_of_mem_pieces hp)
    obtain ⟨d, image, hd⟩ := List.exists_cons_of_ne_nil (toUppercase_ne_nil b)
    have hhead : (toUppercase b).head? = some c := by
      simpa [hraw, hpiece, capitalized, hd] using h
    have hb : isIdentifierChar b :=
      isIdentifierChar_of_mem_pieces hp (hpiece ▸ List.mem_cons_self)
    exact ⟨isIdentifierChar_of_head?_toUppercase hb hhead, toUppercase_of_head? hhead⟩

/-- A text that starts with no capital has no leading word to lower. -/
theorem leadingLowercased_of_not_isUppercase (h : ¬ isUppercase c) :
    leadingLowercased (c :: t) = c :: t := by
  have hnone : leadingCapitals (c :: t) = 0 := by
    rw [leadingCapitals, List.takeWhile_cons_of_neg h]
    rfl
  rw [leadingLowercased, hnone]
  rfl

/-- A text that starts with a capital has that capital in its leading word. -/
theorem exists_leadingCapitals (h : isUppercase c) (t : Text) :
    ∃ k, leadingCapitals (c :: t) = k + 1 := by
  rw [leadingCapitals, List.takeWhile_cons_of_pos h, List.length_cons]
  split
  · rename_i hrun
    rw [Bool.and_eq_true, decide_eq_true_eq] at hrun
    exact ⟨(t.takeWhile isUppercase).length - 1, by omega⟩
  · exact ⟨_, rfl⟩

theorem leadingLowercased_of_leadingCapitals {k : Nat} (h : leadingCapitals (c :: t) = k + 1) :
    leadingLowercased (c :: t) = toLowercase c ++ ((t.take k).flatMap toLowercase ++ t.drop k) := by
  rw [leadingLowercased, h, List.take_succ_cons, List.flatMap_cons, List.drop_succ_cons,
    List.append_assoc]

/-- **The first character of a lowered text** is no capital of the text or the small form of one. -/
theorem opening_leadingLowercased (h : (leadingLowercased t).head? = some c) :
    t.head? = some c ∧ ¬ isUppercase c ∨
      ∃ d, t.head? = some d ∧ isUppercase d ∧ (toLowercase d).head? = some c := by
  cases t with
  | nil => cases h
  | cons d rest =>
    by_cases hd : isUppercase d
    · obtain ⟨k, hk⟩ := exists_leadingCapitals hd rest
      obtain ⟨e, image, he⟩ := List.exists_cons_of_ne_nil (toLowercase_ne_nil d)
      rw [leadingLowercased_of_leadingCapitals hk, he] at h
      exact .inr ⟨d, rfl, hd, by rw [he]; exact h⟩
    · rw [leadingLowercased_of_not_isUppercase hd] at h
      obtain rfl : d = c := by simpa using h
      exact .inl ⟨rfl, hd⟩

theorem digitShielded_eq_self (h : ∀ c, t.head? = some c → ¬ c.isDigit) : digitShielded t = t := by
  refine if_neg ?_
  cases t with
  | nil => simp
  | cons c rest => simpa using h c rfl

/-- **The first character of a shielded text** is no digit, and another than before only if it is
the shield. -/
theorem opening_digitShielded (h : (digitShielded t).head? = some c) :
    ¬ c.isDigit ∧ (c = '_' ∨ t.head? = some c) := by
  unfold digitShielded at h
  split at h
  · obtain rfl : '_' = c := by simpa using h
    exact ⟨by decide, .inl rfl⟩
  · rename_i hdigit
    exact ⟨fun hc => hdigit (by simp [h, hc]), .inr h⟩

namespace Identifier

/-! ## The first character of a name -/

/-- The name of a type starts with an identifier character that is its own capital and no digit. -/
theorem opening_ofTypeName (h : (ofTypeName raw).name.head? = some c) :
    isIdentifierChar c ∧ toUppercase c = [c] ∧ ¬ c.isDigit := by
  obtain ⟨hdigit, rfl | hhead⟩ := opening_digitShielded h
  · exact ⟨rfl, rfl, hdigit⟩
  · obtain ⟨hc, hupper⟩ := opening_flatMap_capitalized hhead
    exact ⟨hc, hupper, hdigit⟩

/-- The name of a value starts with no capital of ASCII and no digit. -/
theorem opening_ofName (h : (ofName raw).name.head? = some c) : ¬ c.isUpper ∧ ¬ c.isDigit := by
  obtain ⟨hdigit, rfl | hhead⟩ := opening_digitShielded h
  · exact ⟨by decide, hdigit⟩
  · refine ⟨fun hupper => ?_, hdigit⟩
    rcases opening_leadingLowercased hhead with ⟨-, hsmall⟩ | ⟨d, -, -, hd⟩
    · exact hsmall (isUppercase_of_isUpper hupper)
    · exact not_isUpper_of_toLowercase (toLowercase_of_head? hd) hupper

/-! ## Swift text around a name -/

/-- A normalized identifier, of a value or of a type. -/
def IsNormalized (i : Identifier) : Prop :=
  ∃ raw, i = ofName raw ∨ i = ofTypeName raw

theorem IsNormalized.isWordChar {i : Identifier} (h : i.IsNormalized) :
    ∀ c ∈ i.name, isWordChar c := by
  obtain ⟨raw, rfl | rfl⟩ := h
  · exact isWordChar_of_mem_ofName
  · exact isWordChar_of_mem_ofTypeName

theorem IsNormalized.not_isDigit {i : Identifier} (h : i.IsNormalized)
    (hc : i.name.head? = some c) : ¬ c.isDigit := by
  obtain ⟨raw, rfl | rfl⟩ := h
  · exact (opening_ofName hc).2
  · exact (opening_ofTypeName hc).2.2

theorem isKeyword_iff {word : Text} :
    isKeyword word = true ↔ word ∈ keywords.map String.toList := by
  simp [isKeyword]

theorem display_eq (i : Identifier) :
    i.display
      = if i.name ∈ keywords.map String.toList then '\x60' :: (i.name ++ ['\x60']) else i.name := by
  rw [display, isEscaped]
  by_cases h : isKeyword i.name
  · rw [if_pos h, if_pos (isKeyword_iff.1 h)]
    rfl
  · rw [if_neg h, if_neg fun hmem => h (isKeyword_iff.2 hmem)]

/-- The ASCII characters that part the words of Swift text. -/
def separators : Text :=
  " \n\r\t\x60:,;()[]\x7b\x7d<>".toList

theorem not_mem_separators (h : isWordChar c) : c ∉ separators := by
  have hall : (separators.all fun d => !isWordChar d) = true := by decide
  intro hmem
  have hnot := List.all_eq_true.1 hall c hmem
  rw [h] at hnot
  cases hnot

/-- **A raw name cannot break the text around it**, neither as the name of a value nor as that of a
type. Of ASCII there are only letters, digits and underscores in the name, and no digit in front;
the name is empty only for want of characters; reserved words and no others are shown in backticks,
and what is shown determines the name. The name of a value does not start with a capital of ASCII,
nor that of a type with a small letter. -/
theorem fits_swift_text (raw : Text) :
    (∀ i, i = ofName raw ∨ i = ofTypeName raw →
      (∀ c ∈ i.name, c.toNat < 0x80 → c.isAlpha ∨ c.isDigit ∨ c = '_') ∧
      (∀ c ∈ i.name, c ∉ separators) ∧
      (∀ c, i.name.head? = some c → ¬ c.isDigit) ∧
      (i.name = [] ↔ ∀ c ∈ raw, ¬ isAlphanumeric c ∧ c ≠ '_') ∧
      (i.display = if i.name ∈ keywords.map String.toList then '\x60' :: (i.name ++ ['\x60'])
        else i.name) ∧
      ∀ j : Identifier, j.IsNormalized → i.display = j.display → i.name = j.name) ∧
    (∀ c, (ofName raw).name.head? = some c → ¬ c.isUpper) ∧
    (∀ c, (ofTypeName raw).name.head? = some c → ¬ c.isLower) := by
  have hseparated : (∀ c ∈ raw, ¬ isIdentifierChar c) ↔
      ∀ c ∈ raw, ¬ isAlphanumeric c ∧ c ≠ '_' := by
    simp [isIdentifierChar]
  refine ⟨fun i hi => ?_, fun c hc => (opening_ofName hc).1, fun c hc =>
    not_isLower_of_toUppercase (opening_ofTypeName hc).2.1⟩
  have hnormalized : i.IsNormalized := ⟨raw, hi⟩
  have hempty : i.name = [] ↔ ∀ c ∈ raw, ¬ isIdentifierChar c := by
    rw [← List.isEmpty_iff]
    rcases hi with rfl | rfl
    · exact isEmpty_ofName_iff
    · exact isEmpty_ofTypeName_iff
  refine ⟨fun c hc hlt => ?_, fun c hc => not_mem_separators (hnormalized.isWordChar c hc),
    fun c hc => hnormalized.not_isDigit hc, hempty.trans hseparated, display_eq i,
    fun j hj hdisplay => ?_⟩
  · have hword := hnormalized.isWordChar c hc
    have hbelow : ¬ 0x80 ≤ c.toNat := Nat.not_le.2 hlt
    simpa [isWordChar, hbelow, Char.isAlphanum, or_assoc] using hword
  · exact congrArg name (eq_of_display_eq hnormalized.isWordChar hj.isWordChar hdisplay)

/-- A keyword, a digit in front and a capital of two letters. -/
theorem default_fits_swift_text :
    (ofName "Default".toList).display = "\x60default\x60".toList ∧
      (ofTypeName "2 ﬁne [days]".toList).name = "_2FIneDays".toList ∧
      (∀ c ∈ (ofTypeName "2 ﬁne [days]".toList).name, c ∉ separators) ∧
      (ofTypeName "default".toList).name ≠ "default".toList := by
  have hshown : (ofName "Default".toList).display = "\x60default\x60".toList := by decide +kernel
  have hname : (ofTypeName "2 ﬁne [days]".toList).name = "_2FIneDays".toList := by decide +kernel
  refine ⟨hshown, hname, ((fits_swift_text _).1 _ (.inr rfl)).2.1, fun h => ?_⟩
  exact (fits_swift_text "default".toList).2.2 'd' (by rw [h]; rfl) rfl

end Identifier

end SwiftDecl
