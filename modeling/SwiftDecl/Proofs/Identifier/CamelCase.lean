import SwiftDecl.Proofs.Identifier.Again
import SwiftDecl.Proofs.Text.Joined
import Mathlib.Data.List.TakeWhile

/-!
# Words in a name become camel case

A raw name of words in small letters, with anything between them that is no identifier character,
gives a name in which the words are told apart by their capitals alone. A leading run of capitals
is also how an acronym is written, and so words of one letter at the front come out as one word
(`initialsJoined`). Up to this a name shows its words (`Identifier.ofName_of_setApart`), so names of
different words differ, and only a name that starts with two such words is not in camel case
(`Identifier.words_become_camelCase`).
-/

namespace SwiftDecl

open Unicode
open Text (startsOutside eq_of_stretch)

variable {raw s t w run rest : Text} {ws vs : List Text} {c d : Char}

/-! ## Pieces set apart -/

/-- **Pieces set apart** in a raw name: they stand there in this order, with separators before,
behind and between them, between neighbours one at least. -/
inductive SetApart : List Text → Text → Prop where
  | separators {s : Text} (h : ∀ c ∈ s, ¬ isIdentifierChar c) : SetApart [] s
  | piece {s w t : Text} {ws : List Text} (hbefore : ∀ c ∈ s, ¬ isIdentifierChar c)
      (hne : w ≠ []) (hw : ∀ c ∈ w, isIdentifierChar c) (hend : startsOutside isIdentifierChar t)
      (hrest : SetApart ws t) : SetApart (w :: ws) (s ++ (w ++ t))

/-- Separators in front are skipped. -/
theorem pieces_append_of_separators (h : ∀ c ∈ s, ¬ isIdentifierChar c) (t : Text) :
    pieces (s ++ t) = pieces t := by
  induction s with
  | nil => rfl
  | cons c s ih =>
    obtain ⟨hc, hs⟩ := List.forall_mem_cons.1 h
    rw [List.cons_append, pieces, if_neg hc, ih hs]

/-- A piece ends with the text or before a separator. -/
theorem pieces_append_of_startsOutside (hne : w ≠ []) (hw : ∀ c ∈ w, isIdentifierChar c)
    (hend : startsOutside isIdentifierChar rest) : pieces (w ++ rest) = w :: pieces rest := by
  cases rest with
  | nil => rw [List.append_nil, pieces_eq_singleton hne hw, pieces]
  | cons d rest =>
    have hd : ¬ isIdentifierChar d := by simpa using hend
    rw [pieces_append_cons hne hw hd, pieces, if_neg hd]

/-- **Pieces that are set apart are the pieces of the raw name.** -/
theorem SetApart.pieces_eq (h : SetApart ws raw) : pieces raw = ws := by
  induction h with
  | separators h => exact pieces_eq_nil_iff.2 h
  | piece hbefore hne hw hend _ ih =>
    rw [pieces_append_of_separators hbefore, pieces_append_of_startsOutside hne hw hend, ih]

theorem SetApart.cons_separator (hc : ¬ isIdentifierChar c) (h : SetApart ws t) :
    SetApart ws (c :: t) := by
  cases h with
  | separators h => exact .separators (List.forall_mem_cons.2 ⟨hc, h⟩)
  | piece hbefore hne hw hend hrest =>
    exact .piece (s := c :: _) (List.forall_mem_cons.2 ⟨hc, hbefore⟩) hne hw hend hrest

/-- A piece at the start of a text grows by a character in front. -/
theorem SetApart.cons_piece (hc : isIdentifierChar c) (ht : t.head?.any isIdentifierChar)
    (h : SetApart (w :: ws) t) : SetApart ((c :: w) :: ws) (c :: t) := by
  cases h with
  | @piece s _ t _ hbefore hne hw hend hrest =>
    cases s with
    | nil =>
      exact .piece (s := []) (w := c :: w) hbefore (List.cons_ne_nil _ _)
        (List.forall_mem_cons.2 ⟨hc, hw⟩) hend hrest
    | cons d s => exact absurd ht (hbefore d List.mem_cons_self)

/-- **The pieces of a raw name** are those that are set apart in it. -/
theorem setApart_iff : SetApart ws raw ↔ pieces raw = ws := by
  refine ⟨SetApart.pieces_eq, ?_⟩
  rintro rfl
  fun_induction pieces raw with
  | case1 => exact .separators (List.forall_mem_nil _)
  | case2 c rest hc first more hmore hp ih => exact (hmore ▸ ih).cons_piece hc hp
  | case3 c rest hc hcut ih =>
    have hend : startsOutside isIdentifierChar rest := by
      cases rest with
      | nil => rfl
      | cons d rest =>
        -- a character that goes on with the piece would be in a piece of what follows
        rw [Text.startsOutside_cons, Bool.not_eq_true', Bool.eq_false_iff]
        intro hd
        have hne : pieces (d :: rest) ≠ [] := fun hnil =>
          pieces_eq_nil_iff.1 hnil d List.mem_cons_self hd
        obtain ⟨w, more, hmore⟩ := List.exists_cons_of_ne_nil hne
        exact hcut w more hd hmore
    exact .piece (s := []) (List.forall_mem_nil _) (List.cons_ne_nil _ _)
      (List.forall_mem_singleton.2 hc) hend ih
  | case4 c rest hc ih => exact ih.cons_separator hc

instance : Decidable (SetApart ws raw) :=
  decidable_of_iff (pieces raw = ws) setApart_iff.symm

/-! ## Small letters -/

/-- A word of small letters of ASCII. -/
structure IsSmallWord (w : Text) : Prop where
  ne_nil : w ≠ []
  isLower : ∀ c ∈ w, c.isLower

instance : Decidable (IsSmallWord w) :=
  decidable_of_iff (w ≠ [] ∧ w.all Char.isLower)
    ⟨fun h => ⟨h.1, List.all_eq_true.1 h.2⟩, fun h => ⟨h.1, List.all_eq_true.2 h.2⟩⟩

/-- What holds of each of the small letters of ASCII. -/
theorem forall_small {P : Char → Prop}
    (h : ∀ n < 0x80, (Char.ofNat n).isLower → P (Char.ofNat n)) (hc : c.isLower) : P c :=
  forall_ascii (P := fun c => c.isLower → P c) h (toNat_lt_of_isLower hc) hc

theorem toLowercase_toUpper (h : c.isLower) : toLowercase c.toUpper = [c] :=
  forall_small (P := fun c => toLowercase c.toUpper = [c]) (by decide) h

theorem isUpper_toUpper (h : c.isLower) : c.toUpper.isUpper :=
  forall_small (P := fun c => c.toUpper.isUpper) (by decide) h

theorem isUppercase_toUpper (h : c.isLower) : isUppercase c.toUpper :=
  isUppercase_of_isUpper (isUpper_toUpper h)

theorem not_isLower_toUpper (h : c.isLower) : c.toUpper.isLower = false :=
  forall_small (P := fun c => c.toUpper.isLower = false) (by decide) h

theorem isLowercase_of_isLower (h : c.isLower) : isLowercase c :=
  forall_small (P := fun c => isLowercase c) (by decide) h

theorem not_isUppercase_of_isLower (h : c.isLower) : ¬ isUppercase c :=
  forall_small (P := fun c => ¬ isUppercase c) (by decide) h

theorem eq_of_toUpper_eq (hc : c.isLower) (hd : d.isLower) (h : c.toUpper = d.toUpper) : c = d := by
  have hback := toLowercase_toUpper hc
  rw [h, toLowercase_toUpper hd] at hback
  exact (List.singleton_inj.1 hback).symm

/-- Capitals of small letters are lowered to those. -/
theorem flatMap_toLowercase_map_toUpper (h : ∀ c ∈ t, c.isLower) :
    (t.map Char.toUpper).flatMap toLowercase = t := by
  induction t with
  | nil => rfl
  | cons c t ih =>
    obtain ⟨hc, ht⟩ := List.forall_mem_cons.1 h
    rw [List.map_cons, List.flatMap_cons, toLowercase_toUpper hc, ih ht]
    rfl

/-! ## Words joined by their capitals -/

/-- A word with its first letter in upper case. -/
def initialUpper : Text → Text
  | [] => []
  | c :: rest => c.toUpper :: rest

/-- **Words in camel case**: the first as it is, and every other with its first letter in upper
case. -/
def camelCase : List Text → Text
  | [] => []
  | w :: more => w ++ more.flatMap initialUpper

theorem capitalized_of_ascii (h : ∀ c ∈ w, c.toNat < 0x80) : capitalized w = initialUpper w := by
  cases w with
  | nil => rfl
  | cons c rest =>
    rw [capitalized, toUppercase_of_ascii (h c List.mem_cons_self)]
    rfl

theorem flatMap_capitalized_eq (h : ∀ w ∈ ws, IsSmallWord w) :
    ws.flatMap capitalized = ws.flatMap initialUpper :=
  List.flatMap_congr fun w hw => capitalized_of_ascii fun c hc =>
    toNat_lt_of_isLower ((h w hw).isLower c hc)

/-- Joined words start with a capital, if there are any. -/
theorem startsOutside_flatMap_initialUpper (h : ∀ w ∈ ws, IsSmallWord w) :
    startsOutside Char.isLower (ws.flatMap initialUpper) := by
  cases ws with
  | nil => rfl
  | cons w ws =>
    obtain ⟨hw, -⟩ := List.forall_mem_cons.1 h
    obtain ⟨c, rest, rfl⟩ := List.exists_cons_of_ne_nil hw.ne_nil
    simp [initialUpper, not_isLower_toUpper (hw.isLower c List.mem_cons_self)]

/-- **Capitals tell words apart**: joined words can be read off one by one, each up to the next
capital. -/
theorem eq_of_flatMap_initialUpper_eq (hws : ∀ w ∈ ws, IsSmallWord w)
    (hvs : ∀ v ∈ vs, IsSmallWord v) (h : ws.flatMap initialUpper = vs.flatMap initialUpper) :
    ws = vs := by
  induction ws generalizing vs with
  | nil =>
    cases vs with
    | nil => rfl
    | cons v vs =>
      obtain ⟨d, rest, rfl⟩ := List.exists_cons_of_ne_nil (hvs v List.mem_cons_self).ne_nil
      cases h
  | cons w ws ih =>
    obtain ⟨hw, hmore⟩ := List.forall_mem_cons.1 hws
    obtain ⟨c, s, rfl⟩ := List.exists_cons_of_ne_nil hw.ne_nil
    cases vs with
    | nil => cases h
    | cons v vs =>
      obtain ⟨hv, hmore'⟩ := List.forall_mem_cons.1 hvs
      obtain ⟨d, t, rfl⟩ := List.exists_cons_of_ne_nil hv.ne_nil
      obtain ⟨hc, hs⟩ := List.forall_mem_cons.1 hw.isLower
      obtain ⟨hd, ht⟩ := List.forall_mem_cons.1 hv.isLower
      obtain ⟨hhead, htail⟩ := List.cons.inj h
      obtain ⟨hst, hrest⟩ := eq_of_stretch hs ht (startsOutside_flatMap_initialUpper hmore)
        (startsOutside_flatMap_initialUpper hmore') htail
      rw [eq_of_toUpper_eq hc hd hhead, hst, ih hmore hmore' hrest]

theorem eq_of_camelCase_eq (hws : ∀ w ∈ ws, IsSmallWord w) (hvs : ∀ v ∈ vs, IsSmallWord v)
    (h : camelCase ws = camelCase vs) : ws = vs := by
  cases ws with
  | nil =>
    cases vs with
    | nil => rfl
    | cons v vs =>
      have hv := hvs v List.mem_cons_self
      exact absurd (List.append_eq_nil_iff.1 h.symm).1 hv.ne_nil
  | cons w ws =>
    obtain ⟨hw, hmore⟩ := List.forall_mem_cons.1 hws
    cases vs with
    | nil => exact absurd (List.append_eq_nil_iff.1 h).1 hw.ne_nil
    | cons v vs =>
      obtain ⟨hv, hmore'⟩ := List.forall_mem_cons.1 hvs
      obtain ⟨hwv, hrest⟩ := eq_of_stretch hw.isLower hv.isLower
        (startsOutside_flatMap_initialUpper hmore) (startsOutside_flatMap_initialUpper hmore') h
      rw [hwv, eq_of_flatMap_initialUpper_eq hmore hmore' hrest]

/-! ## The leading word -/

/-- **The leading run of capitals** is all leading word, but for the last one of several that stands
before a small letter. -/
theorem leadingCapitals_append (hrun : ∀ c ∈ run, isUppercase c)
    (hrest : startsOutside isUppercase rest) :
    leadingCapitals (run ++ rest) =
      if 2 ≤ run.length ∧ rest.head?.any isLowercase then run.length - 1 else run.length := by
  have hstretch : (run ++ rest).takeWhile isUppercase = run := by
    have hnone : rest.takeWhile isUppercase = [] := by
      cases rest with
      | nil => rfl
      | cons d rest => exact List.takeWhile_cons_of_neg (by simpa using hrest)
    rw [List.takeWhile_append_of_pos hrun, hnone, List.append_nil]
  have hnext : (run ++ rest)[run.length]? = rest.head? := by
    rw [List.getElem?_append_right (Nat.le_refl _), Nat.sub_self, List.head?_eq_getElem?]
  rw [leadingCapitals, hstretch, hnext]
  simp only [Bool.and_eq_true, decide_eq_true_eq]
  rfl

/-- A text of capitals is all leading word. -/
theorem leadingCapitals_of_forall (h : ∀ c ∈ t, isUppercase c) : leadingCapitals t = t.length := by
  simpa using leadingCapitals_append h (Text.startsOutside_nil isUppercase)

/-- A single capital before another character is all leading word. -/
theorem leadingCapitals_cons_cons (hc : isUppercase c) (hd : ¬ isUppercase d) (t : Text) :
    leadingCapitals (c :: d :: t) = 1 := by
  have hrest : startsOutside isUppercase (d :: t) := by simpa using hd
  rw [← List.singleton_append, leadingCapitals_append (List.forall_mem_singleton.2 hc) hrest]
  rfl

/-- **A capital before a small letter starts the next word**, if there are capitals before it. -/
theorem leadingCapitals_append_cons_cons (hne : s ≠ []) (hs : ∀ c ∈ s, isUppercase c)
    (hc : isUppercase c) (hd : ¬ isUppercase d) (hlower : isLowercase d) (t : Text) :
    leadingCapitals (s ++ c :: d :: t) = s.length := by
  have hrun : ∀ x ∈ s ++ [c], isUppercase x :=
    List.forall_mem_append.2 ⟨hs, List.forall_mem_singleton.2 hc⟩
  have hrest : startsOutside isUppercase (d :: t) := by simpa using hd
  have hpos : 0 < s.length := List.length_pos_iff.2 hne
  rw [← List.singleton_append (x := c), ← List.append_assoc, leadingCapitals_append hrun hrest,
    List.length_append, List.length_singleton, Nat.add_sub_cancel, if_pos ⟨by omega, by simpa⟩]

theorem leadingLowercased_append (h : leadingCapitals (s ++ t) = s.length) :
    leadingLowercased (s ++ t) = s.flatMap toLowercase ++ t := by
  rw [leadingLowercased, h, List.take_left', List.drop_left'] <;> rfl

/-! ## Words of one letter -/

/-- **Words of one letter at the front taken together**, as the one word that an acronym is. -/
def initialsJoined (ws : List Text) : List Text :=
  match ws.takeWhile (·.length == 1) with
  | [] => ws
  | initials => initials.flatten :: ws.dropWhile (·.length == 1)

/-- Words of which the first, if there is one, has not just one letter. -/
def StartsLong (ws : List Text) : Prop :=
  ∀ w ∈ ws.head?, w.length ≠ 1

theorem exists_initials (ws : List Text) :
    ∃ initials others, ws = initials ++ others ∧ (∀ w ∈ initials, w.length = 1) ∧
      StartsLong others := by
  refine ⟨ws.takeWhile (·.length == 1), ws.dropWhile (·.length == 1),
    List.takeWhile_append_dropWhile.symm, fun w hw => ?_, fun w hw => ?_⟩
  · simpa using List.mem_takeWhile_imp hw
  · have hnot := List.head?_dropWhile_not (fun w : Text => w.length == 1) ws
    rw [Option.mem_def.1 hw] at hnot
    simpa using hnot

theorem takeWhile_eq_nil_of_startsLong (h : StartsLong ws) :
    ws.takeWhile (·.length == 1) = [] := by
  cases ws with
  | nil => rfl
  | cons w ws => exact List.takeWhile_cons_of_neg (by simpa using h w rfl)

theorem initialsJoined_of_startsLong (h : StartsLong ws) : initialsJoined ws = ws := by
  rw [initialsJoined, takeWhile_eq_nil_of_startsLong h]

theorem initialsJoined_append {initials others : List Text} (hne : initials ≠ [])
    (hinitials : ∀ w ∈ initials, w.length = 1) (hothers : StartsLong others) :
    initialsJoined (initials ++ others) = initials.flatten :: others := by
  have hpos : ∀ w ∈ initials, (w.length == 1) = true := by simpa using hinitials
  have htake : (initials ++ others).takeWhile (·.length == 1) = initials := by
    rw [List.takeWhile_append_of_pos hpos, takeWhile_eq_nil_of_startsLong hothers, List.append_nil]
  have hdrop : (initials ++ others).dropWhile (·.length == 1) = others := by
    have hall := List.takeWhile_append_dropWhile (p := fun w : Text => w.length == 1)
      (l := initials ++ others)
    rw [htake] at hall
    exact List.append_cancel_left hall
  rw [initialsJoined, htake, hdrop]
  cases initials with
  | nil => exact absurd rfl hne
  | cons w initials => rfl

/-- **Words are taken together only where two of one letter are in front.** -/
theorem initialsJoined_eq_self_iff :
    initialsJoined ws = ws ↔ ∀ c d more, ws ≠ [c] :: [d] :: more := by
  obtain ⟨initials, others, rfl, hinitials, hothers⟩ := exists_initials ws
  match initials with
  | [] =>
    refine iff_of_true (initialsJoined_of_startsLong hothers) fun c d more h => ?_
    have hc : others = [c] :: [d] :: more := h
    exact hothers [c] (by rw [hc]; rfl) rfl
  | [w] =>
    refine iff_of_true ?_ fun c d more h => ?_
    · rw [initialsJoined_append (List.cons_ne_nil _ _) hinitials hothers]
      simp
    · have hd : others = [d] :: more := (List.cons.inj h).2
      exact hothers [d] (by rw [hd]; rfl) rfl
  | w :: v :: initials =>
    obtain ⟨hw, hv, -⟩ : w.length = 1 ∧ v.length = 1 ∧ ∀ u ∈ initials, u.length = 1 := by
      simpa using hinitials
    obtain ⟨c, rfl⟩ := List.length_eq_one_iff.1 hw
    obtain ⟨d, rfl⟩ := List.length_eq_one_iff.1 hv
    refine iff_of_false (fun h => ?_) fun h => h c d (initials ++ others) rfl
    rw [initialsJoined_append (List.cons_ne_nil _ _) hinitials hothers] at h
    have hlength := congrArg List.length h
    simp only [List.length_cons, List.length_append] at hlength
    omega

theorem isSmallWord_of_mem_initialsJoined (h : ∀ w ∈ ws, IsSmallWord w) :
    ∀ w ∈ initialsJoined ws, IsSmallWord w := by
  obtain ⟨initials, others, rfl, hinitials, hothers⟩ := exists_initials ws
  rw [List.forall_mem_append] at h
  cases initials with
  | nil =>
    rw [List.nil_append, initialsJoined_of_startsLong hothers]
    exact h.2
  | cons w initials =>
    rw [initialsJoined_append (List.cons_ne_nil _ _) hinitials hothers]
    refine List.forall_mem_cons.2 ⟨⟨?_, fun c hc => ?_⟩, h.2⟩
    · intro hnil
      exact (h.1 w List.mem_cons_self).ne_nil (List.flatten_eq_nil_iff.1 hnil w List.mem_cons_self)
    · obtain ⟨v, hv, hc⟩ := List.mem_flatten.1 hc
      exact (h.1 v hv).isLower c hc

/-- Words of one letter are joined as capitals alone. -/
theorem flatMap_initialUpper_of_length (h : ∀ w ∈ ws, w.length = 1) :
    ws.flatMap initialUpper = ws.flatten.map Char.toUpper := by
  induction ws with
  | nil => rfl
  | cons w ws ih =>
    obtain ⟨hw, hmore⟩ := List.forall_mem_cons.1 h
    obtain ⟨c, rfl⟩ := List.length_eq_one_iff.1 hw
    rw [List.flatMap_cons, ih hmore]
    rfl

/-- A word of more than one letter starts with two. -/
theorem IsSmallWord.exists_cons_cons (h : IsSmallWord w) (hlong : w.length ≠ 1) :
    ∃ c d rest, w = c :: d :: rest := by
  match w with
  | [] => exact absurd rfl h.ne_nil
  | [c] => exact absurd rfl hlong
  | c :: d :: rest => exact ⟨c, d, rest, rfl⟩

/-- Capitals before words of which the first is long are all leading word. -/
theorem leadingCapitals_append_words (hne : s ≠ []) (hs : ∀ c ∈ s, isUppercase c)
    (hws : ∀ w ∈ ws, IsSmallWord w) (hlong : StartsLong ws) :
    leadingCapitals (s ++ ws.flatMap initialUpper) = s.length := by
  cases ws with
  | nil =>
    rw [List.flatMap_nil, List.append_nil]
    exact leadingCapitals_of_forall hs
  | cons w ws =>
    have hw := hws w List.mem_cons_self
    obtain ⟨c, d, rest, rfl⟩ := hw.exists_cons_cons (hlong w rfl)
    have hc := hw.isLower c (by simp)
    have hd := hw.isLower d (by simp)
    exact leadingCapitals_append_cons_cons hne hs (isUppercase_toUpper hc)
      (not_isUppercase_of_isLower hd) (isLowercase_of_isLower hd) _

/-- The first word is lowered alone if it is long. -/
theorem leadingLowercased_of_startsLong (hws : ∀ w ∈ ws, IsSmallWord w) (hlong : StartsLong ws) :
    leadingLowercased (ws.flatMap initialUpper) = camelCase ws := by
  cases ws with
  | nil => rfl
  | cons w ws =>
    have hw := hws w List.mem_cons_self
    obtain ⟨c, d, rest, rfl⟩ := hw.exists_cons_cons (hlong w rfl)
    have hc := hw.isLower c (by simp)
    have hone := leadingCapitals_cons_cons (isUppercase_toUpper hc)
      (not_isUppercase_of_isLower (hw.isLower d (by simp))) (rest ++ ws.flatMap initialUpper)
    have hlowered := leadingLowercased_append (s := [c.toUpper]) hone
    rwa [List.flatMap_singleton, toLowercase_toUpper hc] at hlowered

/-- **The leading word of joined words** is the first of them, or what words of one letter in front
are taken together to. -/
theorem leadingLowercased_flatMap_initialUpper (hws : ∀ w ∈ ws, IsSmallWord w) :
    leadingLowercased (ws.flatMap initialUpper) = camelCase (initialsJoined ws) := by
  obtain ⟨initials, others, rfl, hinitials, hothers⟩ := exists_initials ws
  obtain ⟨hsmall, hsmall'⟩ := List.forall_mem_append.1 hws
  cases initials with
  | nil =>
    rw [List.nil_append, initialsJoined_of_startsLong hothers]
    exact leadingLowercased_of_startsLong hsmall' hothers
  | cons w initials =>
    have hletters : ∀ c ∈ (w :: initials).flatten, c.isLower := by
      intro c hc
      obtain ⟨v, hv, hc⟩ := List.mem_flatten.1 hc
      exact (hsmall v hv).isLower c hc
    have hcapitals : ∀ c ∈ (w :: initials).flatten.map Char.toUpper, isUppercase c := by
      intro c hc
      obtain ⟨d, hd, rfl⟩ := List.mem_map.1 hc
      exact isUppercase_toUpper (hletters d hd)
    have hne : (w :: initials).flatten.map Char.toUpper ≠ [] := by
      obtain ⟨b, rfl⟩ := List.length_eq_one_iff.1 (hinitials w List.mem_cons_self)
      exact List.cons_ne_nil _ _
    rw [initialsJoined_append (List.cons_ne_nil _ _) hinitials hothers, camelCase,
      List.flatMap_append, flatMap_initialUpper_of_length hinitials,
      leadingLowercased_append (leadingCapitals_append_words hne hcapitals hsmall' hothers),
      flatMap_toLowercase_map_toUpper hletters]

/-! ## Names of words -/

/-- A text of letters needs no shield. -/
theorem digitShielded_of_letters (h : ∀ c ∈ t, c.isUpper ∨ c.isLower) : digitShielded t = t := by
  refine digitShielded_eq_self fun c hc hdigit => ?_
  have hletter := h c (List.mem_of_head? hc)
  have hlt : c.toNat < 0x80 := hletter.elim toNat_lt_of_isUpper toNat_lt_of_isLower
  exact forall_ascii (P := fun c => c.isUpper ∨ c.isLower → ¬ c.isDigit) (by decide) hlt hletter
    hdigit

theorem letter_of_mem_flatMap_initialUpper (hws : ∀ w ∈ ws, IsSmallWord w) :
    ∀ c ∈ ws.flatMap initialUpper, c.isUpper ∨ c.isLower := by
  intro c hc
  obtain ⟨w, hw, hc⟩ := List.mem_flatMap.1 hc
  have hletters := (hws w hw).isLower
  cases w with
  | nil => cases hc
  | cons d rest =>
    rcases List.mem_cons.1 hc with rfl | hc
    · exact .inl (isUpper_toUpper (hletters d List.mem_cons_self))
    · exact .inr (hletters c (List.mem_cons_of_mem _ hc))

theorem letter_of_mem_camelCase (hws : ∀ w ∈ ws, IsSmallWord w) :
    ∀ c ∈ camelCase ws, c.isUpper ∨ c.isLower := by
  cases ws with
  | nil => exact List.forall_mem_nil _
  | cons w ws =>
    obtain ⟨hw, hmore⟩ := List.forall_mem_cons.1 hws
    exact List.forall_mem_append.2
      ⟨fun c hc => .inr (hw.isLower c hc), letter_of_mem_flatMap_initialUpper hmore⟩

namespace Identifier

theorem ofTypeName_of_setApart (hws : ∀ w ∈ ws, IsSmallWord w) (h : SetApart ws raw) :
    (ofTypeName raw).name = ws.flatMap initialUpper := by
  rw [ofTypeName, h.pieces_eq, flatMap_capitalized_eq hws,
    digitShielded_of_letters (letter_of_mem_flatMap_initialUpper hws)]

theorem ofName_of_setApart (hws : ∀ w ∈ ws, IsSmallWord w) (h : SetApart ws raw) :
    (ofName raw).name = camelCase (initialsJoined ws) := by
  rw [ofName, h.pieces_eq, flatMap_capitalized_eq hws, leadingLowercased_flatMap_initialUpper hws,
    digitShielded_of_letters (letter_of_mem_camelCase (isSmallWord_of_mem_initialsJoined hws))]

/-- **Words set apart by separators become camel case.** The name of a type has every word with its
first letter in upper case, and the name of a value the same with the first word left small, where
words of one letter in front are one word. So the name of a value is the words in camel case exactly
if not both of the first two are of one letter, and two names of values are the same exactly if
their words are, once those of one letter in front have been taken together. -/
theorem words_become_camelCase {ws : List Text} {raw : Text} (hws : ∀ w ∈ ws, IsSmallWord w)
    (h : SetApart ws raw) :
    (ofTypeName raw).name = ws.flatMap initialUpper ∧
    (ofName raw).name = camelCase (initialsJoined ws) ∧
    ((ofName raw).name = camelCase ws ↔ ∀ c d more, ws ≠ [c] :: [d] :: more) ∧
    (initialsJoined ws = ws ↔ ∀ c d more, ws ≠ [c] :: [d] :: more) ∧
    ∀ vs raw', (∀ v ∈ vs, IsSmallWord v) → SetApart vs raw' →
      (ofName raw = ofName raw' ↔ initialsJoined ws = initialsJoined vs) := by
  have hjoined := isSmallWord_of_mem_initialsJoined hws
  refine ⟨ofTypeName_of_setApart hws h, ofName_of_setApart hws h, ?_, initialsJoined_eq_self_iff,
    fun vs raw' hvs h' => ?_⟩
  · rw [ofName_of_setApart hws h, ← initialsJoined_eq_self_iff]
    exact ⟨eq_of_camelCase_eq hjoined hws, congrArg camelCase⟩
  · constructor
    · intro hsame
      have hcamel : camelCase (initialsJoined ws) = camelCase (initialsJoined vs) := by
        rw [← ofName_of_setApart hws h, hsame, ofName_of_setApart hvs h']
      exact eq_of_camelCase_eq hjoined (isSmallWord_of_mem_initialsJoined hvs) hcamel
    · intro hsame
      have hname : (ofName raw).name = (ofName raw').name := by
        rw [ofName_of_setApart hws h, hsame, ofName_of_setApart hvs h']
      exact congrArg mk hname

/-- Coordinates before a long word come out like an acronym, whatever separates them. -/
theorem position_becomes_camelCase :
    (∀ w ∈ ["x".toList, "y".toList, "position".toList], IsSmallWord w) ∧
      SetApart ["x".toList, "y".toList, "position".toList] " x y: position!".toList ∧
      (ofTypeName " x y: position!".toList).name = "XYPosition".toList ∧
      (ofName " x y: position!".toList).name = "xyPosition".toList ∧
      ofName " x y: position!".toList = ofName "xy.position".toList ∧
      ofName " x y: position!".toList ≠ ofName "xyp-osition".toList := by
  have hwords : ∀ w ∈ ["x".toList, "y".toList, "position".toList], IsSmallWord w := by decide
  have hapart : SetApart ["x".toList, "y".toList, "position".toList]
      " x y: position!".toList := by decide +kernel
  obtain ⟨htype, hname, -, -, hsame⟩ := words_become_camelCase hwords hapart
  refine ⟨hwords, hapart, htype.trans (by decide), hname.trans (by decide), ?_, ?_⟩
  · exact (hsame ["xy".toList, "position".toList] _ (by decide) (by decide +kernel)).2 (by decide)
  · rw [Ne, hsame ["xyp".toList, "osition".toList] _ (by decide) (by decide +kernel)]
    decide

/-- **Initials run together.** The words of `a b` are not in camel case in the name of the value,
which is that of `ab` as well. -/
theorem initials_run_together :
    (ofName "a b".toList).name = "ab".toList ∧
      camelCase ["a".toList, "b".toList] = "aB".toList ∧
      ofName "a b".toList = ofName "ab".toList ∧
      (¬ ∀ (ws : List Text) (raw : Text), ws ≠ [] → (∀ w ∈ ws, IsSmallWord w) → SetApart ws raw →
        (ofName raw).name = camelCase ws) ∧
      ¬ ∀ (ws vs : List Text) (raw raw' : Text), (∀ w ∈ ws, IsSmallWord w) →
        (∀ v ∈ vs, IsSmallWord v) → SetApart ws raw → SetApart vs raw' →
        ofName raw = ofName raw' → ws = vs := by
  have hname : (ofName "a b".toList).name = "ab".toList := by decide +kernel
  have hcamel : camelCase ["a".toList, "b".toList] = "aB".toList := by decide
  have hsame : ofName "a b".toList = ofName "ab".toList := by decide +kernel
  have hapart : SetApart ["a".toList, "b".toList] "a b".toList := by decide +kernel
  refine ⟨hname, hcamel, hsame, fun h => ?_, fun h => ?_⟩
  · have hclaimed := h _ _ (List.cons_ne_nil _ _) (by decide) hapart
    rw [hname, hcamel] at hclaimed
    exact absurd hclaimed (by decide)
  · have hequal := h _ ["ab".toList] _ _ (by decide) (by decide) hapart (by decide +kernel) hsame
    exact absurd hequal (by decide)

end Identifier

end SwiftDecl
