import SwiftDecl.Proofs.Identifier.Shape

/-!
# Normalizing a name again

A normalized name is a raw name like any other, and to normalize it again should change nothing.
For that the name has to hold identifier characters only, so that it is one piece, and its first
character has to come back from its capital. Neither is so for every raw name: the capital of `ǰ`
is written with a combining mark, which is no identifier character, and the small form of `ẞ`
becomes two capitals. These are the only obstacles (`normalized_again_iff`). A leading word does not
grow when it is lowered (`leadingCapitals_le`), which keeps the second pass to characters that the
first has made small already.
-/

namespace SwiftDecl

open Unicode

variable {raw t u w p s : Text} {c d : Char}

/-! ## The second pass over the pieces -/

/-- A text of identifier characters is one piece. -/
theorem pieces_eq_singleton (hne : t ≠ []) (h : ∀ c ∈ t, isIdentifierChar c) :
    pieces t = [t] := by
  induction t with
  | nil => exact absurd rfl hne
  | cons c rest ih =>
    obtain ⟨hc, hrest⟩ := List.forall_mem_cons.1 h
    rw [pieces, if_pos hc]
    cases rest with
    | nil => rfl
    | cons d rest =>
      rw [ih (List.cons_ne_nil _ _) hrest]
      simp [hrest]

/-- A piece ends at the first other character. -/
theorem pieces_append_cons (hne : p ≠ []) (hp : ∀ c ∈ p, isIdentifierChar c)
    (hd : ¬ isIdentifierChar d) : pieces (p ++ d :: s) = p :: pieces s := by
  induction p with
  | nil => exact absurd rfl hne
  | cons c rest ih =>
    obtain ⟨hc, hrest⟩ := List.forall_mem_cons.1 hp
    rw [List.cons_append, pieces, if_pos hc]
    cases rest with
    | nil => simp [pieces, hd]
    | cons e rest =>
      rw [ih (List.cons_ne_nil _ _) hrest]
      simp [hrest]

/-- A text with another character splits at the first one. -/
theorem exists_first_separator (h : ¬ ∀ c ∈ t, isIdentifierChar c) :
    ∃ p d s, t = p ++ d :: s ∧ (∀ c ∈ p, isIdentifierChar c) ∧ ¬ isIdentifierChar d := by
  induction t with
  | nil => exact absurd (List.forall_mem_nil _) h
  | cons c rest ih =>
    by_cases hc : isIdentifierChar c
    · obtain ⟨p, d, s, rfl, hp, hd⟩ :=
        ih fun hrest => h (List.forall_mem_cons.2 ⟨hc, hrest⟩)
      exact ⟨c :: p, d, s, rfl, List.forall_mem_cons.2 ⟨hc, hp⟩, hd⟩
    · exact ⟨[], c, rest, rfl, List.forall_mem_nil _, hc⟩

/-- **The joined pieces of a text that starts with an identifier character.** If it has no other
characters they are the text, capitalized; else the first of those is gone, and what follows it is
joined. -/
theorem flatMap_capitalized_cons (hc : isIdentifierChar c) (t : Text) :
    (∀ d ∈ t, isIdentifierChar d) ∧ (pieces (c :: t)).flatMap capitalized = toUppercase c ++ t ∨
      ∃ p d s, t = p ++ d :: s ∧ ¬ isIdentifierChar d ∧
        (pieces (c :: t)).flatMap capitalized
          = toUppercase c ++ (p ++ (pieces s).flatMap capitalized) := by
  by_cases h : ∀ d ∈ t, isIdentifierChar d
  · refine .inl ⟨h, ?_⟩
    rw [pieces_eq_singleton (List.cons_ne_nil _ _) (List.forall_mem_cons.2 ⟨hc, h⟩),
      List.flatMap_singleton, capitalized]
  · obtain ⟨p, d, s, rfl, hp, hd⟩ := exists_first_separator h
    refine .inr ⟨p, d, s, rfl, hd, ?_⟩
    rw [← List.cons_append, pieces_append_cons (List.cons_ne_nil _ _)
      (List.forall_mem_cons.2 ⟨hc, hp⟩) hd, List.flatMap_cons, capitalized, List.append_assoc]

/-- Joined pieces do not start with a separator. -/
theorem flatMap_capitalized_ne_cons (hd : ¬ isIdentifierChar d) :
    (pieces raw).flatMap capitalized ≠ d :: s :=
  fun h => hd (opening_flatMap_capitalized (congrArg List.head? h)).1

/-! ## The second pass over the leading word -/

/-- No capital follows the leading run of capitals. -/
theorem not_isUppercase_of_getElem? (h : t[(t.takeWhile isUppercase).length]? = some c) :
    ¬ isUppercase c := by
  induction t with
  | nil => cases h
  | cons d rest ih =>
    by_cases hd : isUppercase d
    · rw [List.takeWhile_cons_of_pos hd] at h
      exact ih h
    · rw [List.takeWhile_cons_of_neg hd] at h
      obtain rfl : d = c := by simpa using h
      exact hd

/-- A run of capitals ends where another character stands. -/
theorem length_takeWhile_le {n : Nat} (h : ∀ c, t[n]? = some c → ¬ isUppercase c) :
    (t.takeWhile isUppercase).length ≤ n := by
  induction t generalizing n with
  | nil => exact Nat.zero_le n
  | cons d rest ih =>
    by_cases hd : isUppercase d
    · cases n with
      | zero => exact absurd hd (h d rfl)
      | succ n =>
        rw [List.takeWhile_cons_of_pos hd, List.length_cons]
        exact Nat.succ_le_succ (ih h)
    · rw [List.takeWhile_cons_of_neg hd]
      exact Nat.zero_le n

theorem getElem?_eq_of_drop_eq {k n : Nat} (h : u.drop k = t.drop k) (hn : k ≤ n) :
    u[n]? = t[n]? := by
  obtain ⟨m, rfl⟩ := Nat.exists_eq_add_of_le hn
  rw [← List.getElem?_drop, h, List.getElem?_drop]

/-- **A leading word does not grow** with what stands before its end. -/
theorem leadingCapitals_le (h : u.drop (leadingCapitals t) = t.drop (leadingCapitals t)) :
    leadingCapitals u ≤ leadingCapitals t := by
  have hsame := fun n => getElem?_eq_of_drop_eq (n := n) h
  unfold leadingCapitals at hsame ⊢
  dsimp only at hsame ⊢
  have hrun : (u.takeWhile isUppercase).length ≤ (t.takeWhile isUppercase).length := by
    refine length_takeWhile_le fun c hc => not_isUppercase_of_getElem? (t := t) ?_
    rw [← hsame _ (by split <;> omega), hc]
  rcases Nat.lt_or_eq_of_le hrun with hlt | heq
  · -- a shorter run is at most the longer one less its last capital
    split <;> split <;> omega
  · rw [heq, hsame _ (by split <;> omega)]

theorem leadingCapitals_le_length (t : Text) : leadingCapitals t ≤ t.length := by
  have hrun := (List.takeWhile_prefix (l := t) isUppercase).length_le
  unfold leadingCapitals
  dsimp only
  split <;> omega

/-- Small forms without a combining mark are single characters, and settled. -/
theorem lowered_settled (h : ∀ d ∈ t.flatMap toLowercase, isIdentifierChar d) :
    (t.flatMap toLowercase).length = t.length ∧
      ∀ d ∈ t.flatMap toLowercase, toLowercase d = [d] := by
  induction t with
  | nil => exact ⟨rfl, List.forall_mem_nil _⟩
  | cons c t ih =>
    rw [List.flatMap_cons, List.forall_mem_append] at h
    have hc : c ≠ 'İ' := by
      rintro rfl
      have hmark : (toLowercase 'İ').all isIdentifierChar = false := by decide +kernel
      rw [List.all_eq_true.2 h.1] at hmark
      cases hmark
    obtain ⟨d, hd⟩ := exists_toLowercase_eq hc
    obtain ⟨hlength, hsettled⟩ := ih h.2
    rw [List.flatMap_cons, hd, List.singleton_append, List.length_cons, hlength, List.length_cons]
    exact ⟨rfl, List.forall_mem_cons.2 ⟨toLowercase_of_head? (by rw [hd]; rfl), hsettled⟩⟩

/-- What has been lowered stays as it is when no more than that is lowered again. -/
theorem lowered_eq_self {k : Nat} (hk : k ≤ p.length) (hp : ∀ c ∈ p, toLowercase c = [c])
    (s : Text) : ((p ++ s).take k).flatMap toLowercase ++ (p ++ s).drop k = p ++ s := by
  have hsame : ((p ++ s).take k).flatMap toLowercase = ((p ++ s).take k).flatMap fun c => [c] := by
    refine List.flatMap_congr fun c hc => hp c ?_
    rw [List.take_append_of_le_length hk] at hc
    exact List.mem_of_mem_take hc
  rw [hsame, List.flatMap_singleton', List.take_append_drop]

/-- **A leading word in small letters is lowered to itself**: where its small forms are identifier
characters, the second pass lowers no more than the first one did. -/
theorem relowered_eq_self {k k' : Nat} {e : Char} (hk : leadingCapitals (c :: t) = k + 1)
    (hlowered : (c :: t.take k).flatMap toLowercase = d :: p)
    (hp : ∀ x ∈ d :: p, isIdentifierChar x)
    (hk' : leadingCapitals (e :: (p ++ t.drop k)) = k' + 1) :
    ((p ++ t.drop k).take k').flatMap toLowercase ++ (p ++ t.drop k).drop k' = p ++ t.drop k := by
  have hkt : k ≤ t.length := by simpa [hk] using leadingCapitals_le_length (c :: t)
  obtain ⟨hlength, hsettled⟩ := lowered_settled (t := c :: t.take k) (hlowered ▸ hp)
  rw [hlowered, List.length_cons, List.length_cons, Nat.add_right_cancel_iff,
    List.length_take_of_le hkt] at hlength
  have hgrow : leadingCapitals (e :: (p ++ t.drop k)) ≤ leadingCapitals (c :: t) := by
    refine leadingCapitals_le ?_
    rw [hk, List.drop_succ_cons, List.drop_succ_cons, List.drop_append_of_le_length hlength.ge,
      List.drop_eq_nil_of_le hlength.le, List.nil_append]
  have hle : k' ≤ p.length := by omega
  exact lowered_eq_self hle (fun x hx => hsettled x (hlowered ▸ List.mem_cons_of_mem _ hx)) _

/-- **Lowering does not bring a separator back**: where it gives the text before one, something else
stands in its place. -/
theorem lowered_ne_append_cons (hd : ¬ isIdentifierChar d) (p : Text) (k : Nat) :
    ((p ++ (pieces raw).flatMap capitalized).take k).flatMap toLowercase
      ++ (p ++ (pieces raw).flatMap capitalized).drop k ≠ p ++ d :: s := by
  induction p generalizing k with
  | nil =>
    rw [List.nil_append, List.nil_append]
    cases hjoined : (pieces raw).flatMap capitalized with
    | nil => simp
    | cons c t =>
      have hc := (opening_flatMap_capitalized (congrArg List.head? hjoined)).1
      obtain ⟨e, image, he⟩ := List.exists_cons_of_ne_nil (toLowercase_ne_nil c)
      cases k with
      | zero =>
        rintro ⟨⟩
        exact hd hc
      | succ k =>
        rw [List.take_succ_cons, List.flatMap_cons, he]
        rintro ⟨⟩
        exact hd (isIdentifierChar_of_head?_toLowercase hc (by rw [he]; rfl))
  | cons c p ih =>
    cases k with
    | zero => exact fun h => flatMap_capitalized_ne_cons hd (List.append_cancel_left h)
    | succ k =>
      intro h
      obtain ⟨e, image, he⟩ := List.exists_cons_of_ne_nil (toLowercase_ne_nil c)
      rw [List.cons_append, List.cons_append, List.take_succ_cons, List.flatMap_cons,
        List.drop_succ_cons, he, List.cons_append, List.cons_append, List.cons.injEq] at h
      -- a character that its small form starts with is that small form
      obtain ⟨rfl, h⟩ := h
      have hsettled : toLowercase e = [e] := toLowercase_of_head? (by rw [he]; rfl)
      obtain rfl : image = [] := by simpa [hsettled] using he.symm
      exact ih k h

/-- The small form of `ẞ` is capitalized to two characters. -/
theorem toUppercase_sharpS : toUppercase 'ß' = ['S', 'S'] := by decide

/-- The small form of a capital starts with no digit. -/
theorem not_isDigit_of_head?_toLowercase (h : isUppercase c)
    (hd : (toLowercase c).head? = some d) : ¬ d.isDigit := by
  intro hdigit
  by_cases hc : c = 'ẞ'
  · have hsmall : (toLowercase 'ẞ').head? = some 'ß' := by decide
    obtain rfl : 'ß' = d := by simpa [hc, hsmall] using hd
    exact absurd hdigit (by decide)
  · obtain ⟨e, he, hupper, -⟩ := exists_capital h hc hd
    obtain ⟨hself, hcapital⟩ := upper_of_isDigit hdigit
    obtain rfl : d = e := by simpa [hself] using he
    exact hcapital hupper

namespace Identifier

/-! ## Type names -/

/-- **A name that is its own capital** is the type name of itself if it holds identifier characters
only, and else it is not. -/
theorem ofTypeName_eq_self_iff (hc : isIdentifierChar c) (hupper : toUppercase c = [c])
    (hdigit : ¬ c.isDigit) (t : Text) :
    ofTypeName (c :: t) = ⟨c :: t⟩ ↔ ∀ d ∈ c :: t, isIdentifierChar d := by
  have hname {w : Text} (h : (pieces (c :: t)).flatMap capitalized = toUppercase c ++ w) :
      ofTypeName (c :: t) = ⟨c :: w⟩ := by
    rw [ofTypeName, h, hupper, digitShielded_eq_self (by rintro _ ⟨⟩; exact hdigit)]
    rfl
  rcases flatMap_capitalized_cons hc t with ⟨hall, hjoined⟩ | ⟨p, d, s, rfl, hd, hjoined⟩
  · exact iff_of_true (hname hjoined) (List.forall_mem_cons.2 ⟨hc, hall⟩)
  · refine iff_of_false (fun h => ?_) fun h => hd (h d (by simp))
    rw [hname hjoined, mk.injEq, List.cons.injEq] at h
    exact flatMap_capitalized_ne_cons hd (List.append_cancel_left h.2)

theorem ofTypeName_again_iff (raw : Text) :
    ofTypeName (ofTypeName raw).name = ofTypeName raw ↔
      ∀ c ∈ (ofTypeName raw).name, isIdentifierChar c := by
  cases hname : ofTypeName raw with
  | mk name =>
  cases name with
  | nil => exact iff_of_true rfl (List.forall_mem_nil _)
  | cons c t =>
    have hfirst : (ofTypeName raw).name.head? = some c := by rw [hname]; rfl
    obtain ⟨hc, hupper, hdigit⟩ := opening_ofTypeName hfirst
    exact ofTypeName_eq_self_iff hc hupper hdigit t

/-! ## Names of values -/

/-- **How the name of a value comes about**: there is none, or it starts with a character that is
its own capital but does not count as one, or it starts with the small form of a capital. -/
theorem ofName_cases (raw : Text) :
    (ofName raw).name = [] ∨
      (∃ c t, (ofName raw).name = c :: t ∧ isIdentifierChar c ∧ toUppercase c = [c] ∧
        ¬ isUppercase c ∧ ¬ c.isDigit) ∨
      ∃ c t k, (pieces raw).flatMap capitalized = c :: t ∧ isIdentifierChar c ∧ isUppercase c ∧
        leadingCapitals (c :: t) = k + 1 ∧
        (ofName raw).name = toLowercase c ++ ((t.take k).flatMap toLowercase ++ t.drop k) := by
  cases hjoined : (pieces raw).flatMap capitalized with
  | nil => exact .inl (by rw [ofName, hjoined]; rfl)
  | cons c t =>
    obtain ⟨hc, hupper⟩ := opening_flatMap_capitalized (congrArg List.head? hjoined)
    by_cases hcapital : isUppercase c
    · obtain ⟨k, hk⟩ := exists_leadingCapitals hcapital t
      refine .inr (.inr ⟨c, t, k, rfl, hc, hcapital, hk, ?_⟩)
      rw [ofName, hjoined, leadingLowercased_of_leadingCapitals hk, digitShielded_eq_self]
      intro d hd
      refine not_isDigit_of_head?_toLowercase hcapital ?_
      rwa [List.head?_append_of_ne_nil _ (toLowercase_ne_nil c)] at hd
    · rw [ofName, hjoined, leadingLowercased_of_not_isUppercase hcapital]
      by_cases hdigit : c.isDigit
      · have hshield : digitShielded (c :: t) = '_' :: c :: t := if_pos (by simpa using hdigit)
        exact .inr (.inl ⟨'_', c :: t, hshield, rfl, rfl, by decide, by decide⟩)
      · refine .inr (.inl ⟨c, t, ?_, hc, hupper, hcapital, hdigit⟩)
        rw [digitShielded_eq_self (by rintro _ ⟨⟩; exact hdigit)]

/-- A name without a leading word in capitals is that of a type. -/
theorem ofName_eq_ofTypeName
    (h : ∀ c, ((pieces raw).flatMap capitalized).head? = some c → ¬ isUppercase c) :
    ofName raw = ofTypeName raw := by
  rw [ofName, ofTypeName]
  cases hjoined : (pieces raw).flatMap capitalized with
  | nil => rfl
  | cons c t => rw [leadingLowercased_of_not_isUppercase (h c (by rw [hjoined]; rfl))]

/-- The second pass over a name whose first character comes back from its capital. -/
theorem ofName_cons {e : Char} (hc : toUppercase c = [e]) (he : isUppercase e)
    (hback : toLowercase e = [c])
    (h : (pieces (c :: t)).flatMap capitalized = toUppercase c ++ w) :
    ∃ k, leadingCapitals (e :: w) = k + 1 ∧
      ofName (c :: t) = ⟨c :: ((w.take k).flatMap toLowercase ++ w.drop k)⟩ := by
  obtain ⟨k, hk⟩ := exists_leadingCapitals he w
  refine ⟨k, hk, ?_⟩
  have hdigit : ¬ c.isDigit := not_isDigit_of_head?_toLowercase he (by rw [hback]; rfl)
  rw [ofName, h, hc, List.singleton_append, leadingLowercased_of_leadingCapitals hk, hback,
    List.singleton_append, digitShielded_eq_self (by rintro _ ⟨⟩; exact hdigit)]

/-- **A lowered name is normalized again to itself** if it holds identifier characters only, and
else it is not. -/
theorem ofName_lowered_iff {k : Nat} (hc : isIdentifierChar c) (hupper : isUppercase c)
    (hne : c ≠ 'ẞ') (hk : leadingCapitals (c :: t) = k + 1) :
    ofName (toLowercase c ++ ((t.take k).flatMap toLowercase ++ t.drop k))
        = ⟨toLowercase c ++ ((t.take k).flatMap toLowercase ++ t.drop k)⟩ ↔
      ∀ d ∈ toLowercase c ++ ((t.take k).flatMap toLowercase ++ t.drop k), isIdentifierChar d := by
  obtain ⟨d, image, hd⟩ := List.exists_cons_of_ne_nil (toLowercase_ne_nil c)
  obtain ⟨e, he, hcapital, hback⟩ := exists_capital hupper hne (d := d) (by rw [hd]; rfl)
  have hid : isIdentifierChar d := isIdentifierChar_of_head?_toLowercase hc (by rw [hd]; rfl)
  rw [hd, List.cons_append, ← List.append_assoc]
  rcases flatMap_capitalized_cons hid (image ++ (t.take k).flatMap toLowercase ++ t.drop k) with
    ⟨hall, hjoined⟩ | ⟨p, x, s, hsplit, hx, hjoined⟩
  · refine iff_of_true ?_ (List.forall_mem_cons.2 ⟨hid, hall⟩)
    obtain ⟨k', hk', hname⟩ := ofName_cons he hcapital hback hjoined
    have hlowered : (c :: t.take k).flatMap toLowercase
        = d :: (image ++ (t.take k).flatMap toLowercase) := by
      rw [List.flatMap_cons, hd, List.cons_append]
    have hletters : ∀ x ∈ image ++ (t.take k).flatMap toLowercase, isIdentifierChar x :=
      fun x hx => hall x (List.mem_append_left _ hx)
    rw [hname, relowered_eq_self hk hlowered (List.forall_mem_cons.2 ⟨hid, hletters⟩) hk']
  · refine iff_of_false (fun h => ?_) fun h => hx (h x (by simp [hsplit]))
    obtain ⟨k', -, hname⟩ := ofName_cons he hcapital hback hjoined
    rw [hname, mk.injEq, List.cons.injEq, hsplit] at h
    exact lowered_ne_append_cons hx p k' h.2

/-- A name of a value starts with `ß` only where `ẞ` was to be lowered. -/
theorem head?_ofName_ne_sharpS (h : ∀ c ∈ (pieces raw).flatMap capitalized, c ≠ 'ẞ') :
    (ofName raw).name.head? ≠ some 'ß' := by
  intro hhead
  obtain ⟨-, hshield | hhead⟩ := opening_digitShielded hhead
  · exact absurd hshield (by decide)
  rcases opening_leadingLowercased hhead with ⟨hhead, -⟩ | ⟨d, hhead, hupper, hd⟩
  · have hself := (opening_flatMap_capitalized hhead).2
    rw [toUppercase_sharpS] at hself
    cases hself
  · obtain ⟨e, he, -⟩ := exists_capital hupper (h d (List.mem_of_head? hhead)) hd
    rw [toUppercase_sharpS] at he
    cases he

/-- The small form of `ẞ` is capitalized to two capitals, the first of which is lowered again. -/
theorem ofName_sharpS (t : Text) : ofName ('ß' :: t) ≠ ⟨'ß' :: w⟩ := by
  obtain ⟨v, hjoined⟩ : ∃ v, (pieces ('ß' :: t)).flatMap capitalized = 'S' :: v := by
    rcases flatMap_capitalized_cons (c := 'ß') (by decide) t with
      ⟨-, hjoined⟩ | ⟨p, d, s, -, -, hjoined⟩
    · exact ⟨_, toUppercase_sharpS ▸ hjoined⟩
    · exact ⟨_, toUppercase_sharpS ▸ hjoined⟩
  obtain ⟨k, hk⟩ := exists_leadingCapitals (c := 'S') (by decide) v
  rw [ofName, hjoined, leadingLowercased_of_leadingCapitals hk,
    show toLowercase 'S' = ['s'] from rfl, List.singleton_append,
    digitShielded_eq_self (by rintro _ ⟨⟩; decide)]
  rintro ⟨⟩

theorem ofName_again_iff (raw : Text) :
    ofName (ofName raw).name = ofName raw ↔
      (∀ c ∈ (ofName raw).name, isIdentifierChar c) ∧ (ofName raw).name.head? ≠ some 'ß' := by
  rw [show ofName raw = ⟨(ofName raw).name⟩ from rfl]
  rcases ofName_cases raw with hname | ⟨c, t, hname, hc, hupper, hcapital, hdigit⟩ |
    ⟨c, t, k, -, hc, hcapital, hk, hname⟩
  · rw [hname]
    exact iff_of_true rfl ⟨List.forall_mem_nil _, by simp⟩
  · -- the second pass finds no capital in front and so goes as for a type
    have hself : ofName (c :: t) = ofTypeName (c :: t) := by
      refine ofName_eq_ofTypeName fun d hd => ?_
      rcases flatMap_capitalized_cons hc t with ⟨-, hjoined⟩ | ⟨p, x, s, -, -, hjoined⟩
      all_goals
        obtain rfl : c = d := by simpa [hjoined, hupper] using hd
        exact hcapital
    have hfirst : (c :: t).head? ≠ some 'ß' := by
      rintro ⟨⟩
      rw [toUppercase_sharpS] at hupper
      cases hupper
    rw [hname, hself, ofTypeName_eq_self_iff hc hupper hdigit]
    exact (and_iff_left hfirst).symm
  · by_cases hne : c = 'ẞ'
    · have hsmall : toLowercase 'ẞ' = ['ß'] := by decide
      rw [hname, hne, hsmall, List.singleton_append]
      exact iff_of_false (ofName_sharpS _) fun h => h.2 rfl
    · have hfirst : (toLowercase c).head? ≠ some 'ß' := by
        intro h
        obtain ⟨e, he, -⟩ := exists_capital hcapital hne h
        rw [toUppercase_sharpS] at he
        cases he
      rw [hname, List.head?_append_of_ne_nil _ (toLowercase_ne_nil c), and_iff_left hfirst]
      exact ofName_lowered_iff hc hcapital hne hk

/-! ## Raw names that settle -/

/-- **Whether a character settles**: neither it nor a character of its capital is `ẞ` or has a small
form with another character than those of identifiers. -/
def settles (c : Char) : Bool :=
  (c :: toUppercase c).all fun d => d != 'ẞ' && (d :: toLowercase d).all isIdentifierChar

theorem settles_of_ascii (h : c.toNat < 0x80) (hc : isIdentifierChar c) : settles c :=
  forall_ascii (P := fun c => isIdentifierChar c → settles c) (by decide) h hc

/-- **Names of characters that settle are normalized once and for all.** -/
theorem again_of_settles (h : ∀ c ∈ raw, isIdentifierChar c → settles c) :
    ofName (ofName raw).name = ofName raw ∧ ofTypeName (ofTypeName raw).name = ofTypeName raw := by
  have hjoined : ∀ d ∈ (pieces raw).flatMap capitalized,
      d ≠ 'ẞ' ∧ isIdentifierChar d ∧ ∀ e ∈ toLowercase d, isIdentifierChar e :=
    forall_mem_flatMap_capitalized fun c hc hid => by
      simpa [settles] using h c hc hid
  have htype : ∀ c ∈ (ofTypeName raw).name, isIdentifierChar c :=
    forall_mem_digitShielded rfl fun d hd => (hjoined d hd).2.1
  have hvalue : ∀ c ∈ (ofName raw).name, isIdentifierChar c :=
    forall_mem_digitShielded rfl
      (forall_mem_leadingLowercased (fun d hd => (hjoined d hd).2.1) fun d hd => (hjoined d hd).2.2)
  exact ⟨(ofName_again_iff raw).2 ⟨hvalue, head?_ofName_ne_sharpS fun d hd => (hjoined d hd).1⟩,
    (ofTypeName_again_iff raw).2 htype⟩

/-- A raw name in ASCII is normalized once and for all. -/
theorem again_of_ascii (h : ∀ c ∈ raw, c.toNat < 0x80) :
    ofName (ofName raw).name = ofName raw ∧ ofTypeName (ofTypeName raw).name = ofTypeName raw :=
  again_of_settles fun c hc => settles_of_ascii (h c hc)

/-- **Which names are normalized once and for all.** A type name is if it holds identifier
characters only, and the name of a value if moreover it does not start with `ß`, and no others are;
so every raw name is whose characters settle. -/
theorem normalized_again_iff (raw : Text) :
    (ofTypeName (ofTypeName raw).name = ofTypeName raw ↔
      ∀ c ∈ (ofTypeName raw).name, isIdentifierChar c) ∧
    (ofName (ofName raw).name = ofName raw ↔
      (∀ c ∈ (ofName raw).name, isIdentifierChar c) ∧ (ofName raw).name.head? ≠ some 'ß') ∧
    ((∀ c ∈ raw, isIdentifierChar c → settles c) →
      ofName (ofName raw).name = ofName raw ∧
        ofTypeName (ofTypeName raw).name = ofTypeName raw) :=
  ⟨ofTypeName_again_iff raw, ofName_again_iff raw, again_of_settles⟩

/-- A ligature, an acronym and a digit in front: these settle. -/
theorem ligature_normalized_again :
    (∀ c ∈ "2 ﬁnal URLs".toList, isIdentifierChar c → settles c) ∧
      (ofName "ﬁnal URLs".toList).name = "fInalURLs".toList ∧
      ofName (ofName "2 ﬁnal URLs".toList).name = ofName "2 ﬁnal URLs".toList := by
  have hall : ("2 ﬁnal URLs".toList.all fun c => !isIdentifierChar c || settles c) = true := by
    decide +kernel
  have hsettles : ∀ c ∈ "2 ﬁnal URLs".toList, isIdentifierChar c → settles c := by
    intro c hc hid
    simpa [hid] using List.all_eq_true.1 hall c hc
  exact ⟨hsettles, by decide +kernel, ((normalized_again_iff _).2.2 hsettles).1⟩

/-- The combining mark of `ǰ` is lost in the second pass, and the `ß` of `ẞ` becomes two letters in
it. -/
theorem caron_not_normalized_again :
    (ofName "ǰ".toList).name = "j\u030C".toList ∧
      (ofName (ofName "ǰ".toList).name).name = "j".toList ∧
      ofName (ofName "ǰ".toList).name ≠ ofName "ǰ".toList ∧
      ofTypeName (ofTypeName "ǰ".toList).name ≠ ofTypeName "ǰ".toList ∧
      (ofName "ẞ".toList).name = "ß".toList ∧
      (ofName (ofName "ẞ".toList).name).name = "ss".toList := by
  decide +kernel

end Identifier

end SwiftDecl
