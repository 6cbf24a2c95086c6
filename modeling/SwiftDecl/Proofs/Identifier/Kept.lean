import SwiftDecl.Proofs.Identifier.CamelCase

/-!
# What a name keeps of its raw name

The name of a value is that of the type with its leading word made small, whatever the raw name
(`Identifier.ofName_eq_mk`), since shielding a digit and lowering a word do not meet. So raw names
that are the same as types are the same as values (`Identifier.value_names_factor`). Where letters
and digits are of ASCII, every step maps them one by one: no character is lost, added or moved, but
for the shield, and the case changes at the first characters of pieces and in the leading capitals
alone (`Identifier.case_alone_changes`).
-/

namespace SwiftDecl

open Unicode
open Text (startsOutside)

variable {raw raw' t run rest w : Text} {ws : List Text} {c d : Char}

/-! ## From the name of a type to that of a value -/

/-- **Shielding and lowering do not meet**: a text is shielded for a digit in front or lowered for
capitals there. -/
theorem digitShielded_leadingLowercased (t : Text) :
    digitShielded (leadingLowercased t) = leadingLowercased (digitShielded t) := by
  by_cases hdigit : ∃ c, t.head? = some c ∧ c.isDigit
  · obtain ⟨c, hhead, hc⟩ := hdigit
    obtain ⟨rest, rfl⟩ := List.head?_eq_some_iff.1 hhead
    have hshield : digitShielded (c :: rest) = '_' :: c :: rest := if_pos (by simpa using hc)
    rw [leadingLowercased_of_not_isUppercase (upper_of_isDigit hc).2, hshield,
      leadingLowercased_of_not_isUppercase (by decide)]
  · push Not at hdigit
    rw [digitShielded_eq_self hdigit, digitShielded_eq_self]
    intro c hc
    rcases opening_leadingLowercased hc with ⟨hhead, -⟩ | ⟨d, -, hupper, hd⟩
    · exact hdigit c hhead
    · exact not_isDigit_of_head?_toLowercase hupper hd

namespace Identifier

/-- **The name of a value is that of the type with its leading word made small.** -/
theorem ofName_eq_mk (raw : Text) : ofName raw = ⟨leadingLowercased (ofTypeName raw).name⟩ := by
  rw [ofName, digitShielded_leadingLowercased, ofTypeName]

theorem name_ofName (raw : Text) : (ofName raw).name = leadingLowercased (ofTypeName raw).name := by
  rw [ofName_eq_mk]

/-- Raw names that are the same as types are the same as values. -/
theorem ofName_eq_of_ofTypeName_eq (h : ofTypeName raw = ofTypeName raw') :
    ofName raw = ofName raw' := by
  rw [ofName_eq_mk, h, ← ofName_eq_mk]

/-- A type name that is normalized to itself has the value name of its raw name. -/
theorem ofName_ofTypeName (h : ofTypeName (ofTypeName raw).name = ofTypeName raw) :
    ofName (ofTypeName raw).name = ofName raw :=
  ofName_eq_of_ofTypeName_eq h

end Identifier

/-! ## Letters and digits of ASCII -/

/-- A raw name whose letters and digits are all of ASCII. Whatever else there is separates them. -/
def HasAsciiWords (raw : Text) : Prop :=
  ∀ c ∈ raw, isAlphanumeric c → c.toNat < 0x80

instance : Decidable (HasAsciiWords raw) :=
  decidable_of_iff (raw.all fun c => !isAlphanumeric c || decide (c.toNat < 0x80))
    (by simp [HasAsciiWords, imp_iff_not_or])

/-- The letters and digits of ASCII and the underscores of a raw name, in order. -/
def asciiWord (raw : Text) : Text :=
  raw.filter fun c => c.isAlphanum || c == '_'

theorem toNat_lt_of_isAlphanum (h : c.isAlphanum) : c.toNat < 0x80 := by
  change ((c.isUpper || c.isLower) || c.isDigit) = true at h
  rw [Bool.or_eq_true, Bool.or_eq_true] at h
  rcases h with (h | h) | h
  · exact toNat_lt_of_isUpper h
  · exact toNat_lt_of_isLower h
  · exact toNat_lt_of_isDigit h

theorem HasAsciiWords.toNat_lt (h : HasAsciiWords raw) (hc : c ∈ raw) (hid : isIdentifierChar c) :
    c.toNat < 0x80 := by
  rw [isIdentifierChar, Bool.or_eq_true, beq_iff_eq] at hid
  rcases hid with hid | rfl
  · exact h c hc hid
  · decide

/-- **The pieces of a raw name** hold its letters and digits of ASCII and its underscores, in
order, if these are all its identifier characters. -/
theorem HasAsciiWords.flatten_pieces (h : HasAsciiWords raw) :
    (pieces raw).flatten = asciiWord raw := by
  rw [SwiftDecl.flatten_pieces]
  refine List.filter_congr fun c hc => ?_
  by_cases hlt : c.toNat < 0x80
  · rw [isIdentifierChar, isAlphanumeric, if_pos hlt]
  · have hid : isIdentifierChar c = false :=
      Bool.eq_false_iff.2 fun hid => hlt (h.toNat_lt hc hid)
    have hword : (c.isAlphanum || c == '_') = false := by
      rw [isIdentifierChar, Bool.or_eq_false_iff] at hid
      rw [Bool.or_eq_false_iff]
      exact ⟨Bool.eq_false_iff.2 fun hc => hlt (toNat_lt_of_isAlphanum hc), hid.2⟩
    rw [hid, hword]

theorem flatMap_toLowercase_of_ascii (h : ∀ c ∈ t, c.toNat < 0x80) :
    t.flatMap toLowercase = t.map Char.toLower := by
  rw [List.map_eq_flatMap]
  exact List.flatMap_congr fun c hc => toLowercase_of_ascii (h c hc)

namespace HasAsciiWords

/-- The pieces of such a raw name are in ASCII. -/
theorem toNat_lt_of_mem_pieces (h : HasAsciiWords raw) :
    ∀ piece ∈ pieces raw, ∀ c ∈ piece, c.toNat < 0x80 := by
  intro piece hpiece c hc
  obtain ⟨hmem, hid⟩ := mem_of_mem_pieces hpiece hc
  exact h.toNat_lt hmem hid

theorem flatMap_capitalized (h : HasAsciiWords raw) :
    (pieces raw).flatMap capitalized = (pieces raw).flatMap initialUpper :=
  List.flatMap_congr fun piece hpiece =>
    capitalized_of_ascii (h.toNat_lt_of_mem_pieces piece hpiece)

/-- The name of such a type is in ASCII. -/
theorem toNat_lt_of_mem_ofTypeName (h : HasAsciiWords raw) :
    ∀ c ∈ (Identifier.ofTypeName raw).name, c.toNat < 0x80 := by
  refine forall_mem_digitShielded (by decide) (forall_mem_flatMap_capitalized fun c hc hid => ?_)
  have hlt := h.toNat_lt hc hid
  refine ⟨hlt, fun d hd => ?_⟩
  rw [toUppercase_of_ascii hlt, List.mem_singleton] at hd
  rw [hd]
  exact forall_ascii (P := fun c => c.toUpper.toNat < 0x80) (by decide) hlt

/-- Such a name is normalized once and for all. -/
theorem again (h : HasAsciiWords raw) :
    Identifier.ofTypeName (Identifier.ofTypeName raw).name = Identifier.ofTypeName raw :=
  (Identifier.again_of_settles fun _ hc hid =>
    Identifier.settles_of_ascii (h.toNat_lt hc hid) hid).2

end HasAsciiWords

/-! ## What is kept, up to case -/

/-- The underscore in front of a text that starts with a digit. -/
def digitShield (t : Text) : Text :=
  if t.head?.any Char.isDigit then ['_'] else []

theorem digitShielded_eq (t : Text) : digitShielded t = digitShield t ++ t := by
  unfold digitShielded digitShield
  split <;> rfl

theorem map_toLower_digitShield (t : Text) : (digitShield t).map Char.toLower = digitShield t := by
  unfold digitShield
  split <;> rfl

/-- Whether a digit is in front does not change with the first letters of words in ASCII. -/
theorem digitShield_flatMap_initialUpper (h : ∀ w ∈ ws, ∀ c ∈ w, c.toNat < 0x80) :
    digitShield (ws.flatMap initialUpper) = digitShield ws.flatten := by
  induction ws with
  | nil => rfl
  | cons w ws ih =>
    obtain ⟨hw, hmore⟩ := List.forall_mem_cons.1 h
    cases w with
    | nil => exact ih hmore
    | cons c w =>
      have hdigit : c.toUpper.isDigit = c.isDigit :=
        forall_ascii (P := fun c => c.toUpper.isDigit = c.isDigit) (by decide)
          (hw c List.mem_cons_self)
      change (if c.toUpper.isDigit then ['_'] else []) = if c.isDigit then ['_'] else []
      rw [hdigit]

theorem map_toLower_initialUpper (h : ∀ c ∈ w, c.toNat < 0x80) :
    (initialUpper w).map Char.toLower = w.map Char.toLower := by
  cases w with
  | nil => rfl
  | cons c w =>
    have hinitial : c.toUpper.toLower = c.toLower :=
      forall_ascii (P := fun c => c.toUpper.toLower = c.toLower) (by decide)
        (h c List.mem_cons_self)
    rw [initialUpper, List.map_cons, List.map_cons, hinitial]

theorem map_toLower_flatMap_initialUpper (h : ∀ w ∈ ws, ∀ c ∈ w, c.toNat < 0x80) :
    (ws.flatMap initialUpper).map Char.toLower = ws.flatten.map Char.toLower := by
  rw [List.map_flatMap, List.map_flatten]
  exact List.flatMap_congr fun w hw => map_toLower_initialUpper (h w hw)

/-- Lowering the leading word of a text in ASCII changes its case alone. -/
theorem map_toLower_leadingLowercased (h : ∀ c ∈ t, c.toNat < 0x80) :
    (leadingLowercased t).map Char.toLower = t.map Char.toLower := by
  have htake : ∀ c ∈ t.take (leadingCapitals t), c.toNat < 0x80 := fun c hc =>
    h c (List.mem_of_mem_take hc)
  have htwice : ((t.take (leadingCapitals t)).map Char.toLower).map Char.toLower
      = (t.take (leadingCapitals t)).map Char.toLower := by
    rw [List.map_map]
    exact List.map_congr_left fun c hc =>
      forall_ascii (P := fun c => c.toLower.toLower = c.toLower) (by decide) (htake c hc)
  rw [leadingLowercased, flatMap_toLowercase_of_ascii htake, List.map_append, htwice,
    ← List.map_append, List.take_append_drop]

/-! ## The leading run of capitals -/

theorem isUppercase_of_ascii (h : c.toNat < 0x80) : isUppercase c = c.isUpper :=
  if_pos h

theorem isLowercase_of_ascii (h : c.toNat < 0x80) : isLowercase c = c.isLower :=
  if_pos h

/-- **The leading capitals of a text in ASCII made small.** -/
theorem leadingLowercased_append_of_ascii (hascii : ∀ c ∈ run ++ rest, c.toNat < 0x80)
    (hrun : ∀ c ∈ run, c.isUpper) (hrest : startsOutside Char.isUpper rest) :
    leadingLowercased (run ++ rest) =
      if 2 ≤ run.length ∧ rest.head?.any Char.isLower then
        run.dropLast.map Char.toLower ++ (run.getLast?.toList ++ rest)
      else run.map Char.toLower ++ rest := by
  obtain ⟨hascii, hascii'⟩ := List.forall_mem_append.1 hascii
  have hupper : startsOutside isUppercase rest := by
    cases rest with
    | nil => rfl
    | cons d rest =>
      rwa [Text.startsOutside_cons, isUppercase_of_ascii (hascii' d List.mem_cons_self)]
  have hlower : rest.head?.any isLowercase = rest.head?.any Char.isLower := by
    cases rest with
    | nil => rfl
    | cons d rest => exact isLowercase_of_ascii (hascii' d List.mem_cons_self)
  have hcount := leadingCapitals_append (fun c hc => isUppercase_of_isUpper (hrun c hc)) hupper
  rw [hlower] at hcount
  split_ifs at hcount ⊢ with hkept
  · -- the last capital stays with what follows it
    obtain rfl | ⟨before, last, rfl⟩ := run.eq_nil_or_concat'
    · exact absurd hkept.1 (by decide)
    rw [List.length_append, List.length_singleton, Nat.add_sub_cancel, List.append_assoc] at hcount
    rw [List.append_assoc, leadingLowercased_append hcount, List.dropLast_concat,
      List.getLast?_concat, flatMap_toLowercase_of_ascii (List.forall_mem_append.1 hascii).1]
    rfl
  · rw [leadingLowercased_append hcount, flatMap_toLowercase_of_ascii hascii]

namespace Identifier

theorem name_ofTypeName_of_ascii (h : HasAsciiWords raw) :
    (ofTypeName raw).name = digitShield (asciiWord raw) ++ (pieces raw).flatMap initialUpper := by
  rw [ofTypeName, h.flatMap_capitalized, digitShielded_eq,
    digitShield_flatMap_initialUpper h.toNat_lt_of_mem_pieces, h.flatten_pieces]

theorem map_toLower_ofTypeName (h : HasAsciiWords raw) :
    (ofTypeName raw).name.map Char.toLower
      = digitShield (asciiWord raw) ++ (asciiWord raw).map Char.toLower := by
  rw [name_ofTypeName_of_ascii h, List.map_append, map_toLower_digitShield,
    map_toLower_flatMap_initialUpper h.toNat_lt_of_mem_pieces, h.flatten_pieces]

/-- **Normalization changes the case of letters alone**, if those are of ASCII. Up to case a name is
the letters, digits and underscores of the raw name in order, with an underscore in front if a digit
would be there. The name of a type differs from them in the first characters of pieces only, which
are in upper case. The name of a value differs from that of the type in the leading run of capitals
only, which is in lower case, but for the last one of several before a small letter. -/
theorem case_alone_changes (h : HasAsciiWords raw) :
    (ofTypeName raw).name.map Char.toLower
        = digitShield (asciiWord raw) ++ (asciiWord raw).map Char.toLower ∧
    (ofName raw).name.map Char.toLower
        = digitShield (asciiWord raw) ++ (asciiWord raw).map Char.toLower ∧
    (∀ ws, SetApart ws raw → asciiWord raw = ws.flatten ∧
      (ofTypeName raw).name = digitShield (asciiWord raw) ++ ws.flatMap initialUpper) ∧
    ∀ run rest, (ofTypeName raw).name = run ++ rest → (∀ c ∈ run, c.isUpper) →
      startsOutside Char.isUpper rest →
      (ofName raw).name =
        if 2 ≤ run.length ∧ rest.head?.any Char.isLower then
          run.dropLast.map Char.toLower ++ (run.getLast?.toList ++ rest)
        else run.map Char.toLower ++ rest := by
  have hascii := h.toNat_lt_of_mem_ofTypeName
  refine ⟨map_toLower_ofTypeName h, ?_, fun ws hws => ?_, fun run rest hname hrun hrest => ?_⟩
  · rw [name_ofName, map_toLower_leadingLowercased hascii, map_toLower_ofTypeName h]
  · obtain rfl := hws.pieces_eq
    exact ⟨h.flatten_pieces.symm, name_ofTypeName_of_ascii h⟩
  · rw [hname] at hascii
    rw [name_ofName, hname, leadingLowercased_append_of_ascii hascii hrun hrest]

/-- A run of capitals that goes on into the next piece. -/
theorem server_case_changes :
    HasAsciiWords "HTTP server… 2x_a".toList ∧
      SetApart ["HTTP".toList, "server".toList, "2x_a".toList] "HTTP server… 2x_a".toList ∧
      (ofTypeName "HTTP server… 2x_a".toList).name = "HTTPServer2x_a".toList ∧
      (ofName "HTTP server… 2x_a".toList).name = "httpServer2x_a".toList ∧
      (ofTypeName "2-Way URL".toList).name.map Char.toLower = "_2wayurl".toList := by
  have hascii : HasAsciiWords "HTTP server… 2x_a".toList := by decide +kernel
  have hapart : SetApart ["HTTP".toList, "server".toList, "2x_a".toList]
      "HTTP server… 2x_a".toList := by decide +kernel
  obtain ⟨-, -, htype, hvalue⟩ := case_alone_changes hascii
  have hname : (ofTypeName "HTTP server… 2x_a".toList).name = "HTTPServer2x_a".toList :=
    (htype _ hapart).2.trans (by decide +kernel)
  refine ⟨hascii, hapart, hname, ?_, ?_⟩
  · have hcapitals : ∀ c ∈ "HTTPS".toList, c.isUpper := List.all_eq_true.1 (by decide)
    exact (hvalue _ "erver2x_a".toList hname hcapitals (by decide)).trans (by decide)
  · have hway : HasAsciiWords "2-Way URL".toList := by decide +kernel
    exact (case_alone_changes hway).1.trans (by decide +kernel)

/-! ## Values by way of types -/

/-- **The name of a value factors through that of the type**, which is all that it depends on: the
type name of a raw name with letters and digits of ASCII has the same value name, and raw names that
collide as types collide as values. -/
theorem value_names_factor (h : HasAsciiWords raw) :
    ofName (ofTypeName raw).name = ofName raw ∧
      ∀ raw', ofTypeName raw' = ofTypeName raw → ofName raw' = ofName raw :=
  ⟨ofName_ofTypeName h.again, fun _ hsame => ofName_eq_of_ofTypeName_eq hsame⟩

/-- A short word in small letters, which comes out as an acronym. -/
theorem icons_names_factor :
    HasAsciiWords "i OS… icons".toList ∧
      (ofTypeName "i OS… icons".toList).name = "IOSIcons".toList ∧
      ofName "IOSIcons".toList = ⟨"iosIcons".toList⟩ ∧
      ofName "i OS… icons".toList = ⟨"iosIcons".toList⟩ ∧
      ofName "IOS icons".toList = ofName "i OS… icons".toList := by
  have hascii : HasAsciiWords "i OS… icons".toList := by decide +kernel
  have htype : ofTypeName "i OS… icons".toList = ⟨"IOSIcons".toList⟩ := by decide +kernel
  have hvalue : ofName "IOSIcons".toList = ⟨"iosIcons".toList⟩ := by decide +kernel
  obtain ⟨hfactors, hcollide⟩ := value_names_factor hascii
  rw [htype] at hfactors
  exact ⟨hascii, congrArg name htype, hvalue, hfactors.symm.trans hvalue,
    hcollide _ (by rw [htype]; decide +kernel)⟩

end Identifier

end SwiftDecl
