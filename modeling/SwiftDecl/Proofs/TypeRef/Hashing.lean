import SwiftDecl.Proofs.TypeRef.Sameness

/-!
# What a hasher is fed with

References are kept in hashed sets, so those that are the same have to feed a hasher alike. They do,
since a fingerprint shows nothing that sameness ignores (`fingerprint_stripped`); and those that are
not the same never do, even when all that a hasher sees is a row of numbers that does not say where
a text, a count or a flag begins. A name ends at its terminator and a count says how many arguments
follow, so the row can be read back from the front (`stripped_eq_of_fed_append`).
-/

namespace SwiftDecl

namespace TypeRef

variable {a b : TypeRef} {as bs : List TypeRef} {r s : List Nat}

/-! ## Text in bytes -/

/-- The bytes of a text in UTF-8. -/
def utf8 (t : Text) : List Nat :=
  (t.flatMap String.utf8EncodeChar).map UInt8.toNat

theorem utf8_injective : Function.Injective utf8 := by
  intro t u h
  have hbytes : t.flatMap String.utf8EncodeChar = u.flatMap String.utf8EncodeChar :=
    List.map_injective_iff.2 (fun _ _ => UInt8.toNat_inj.1) h
  have hencoded : (String.ofList t).toByteArray = (String.ofList u).toByteArray := by
    rw [String.toByteArray_ofList, String.toByteArray_ofList, List.utf8Encode, hbytes]
    rfl
  exact String.ofList_injective (String.toByteArray_inj.1 hencoded)

theorem toNat_utf8EncodeChar_lt (c : Char) :
    ∀ byte ∈ String.utf8EncodeChar c, byte.toNat < 0xFF := by
  have hlt : ∀ {n : Nat}, n < 0xFF → (UInt8.ofNat n).toNat < 0xFF := by
    intro n hn
    rw [UInt8.toNat_ofNat']
    omega
  -- one byte, or two, three or four, by the size of the code point
  unfold String.utf8EncodeChar
  dsimp only
  split_ifs <;> simp only [List.forall_mem_cons]
  · exact ⟨hlt (by omega), List.forall_mem_nil _⟩
  · exact ⟨hlt (by omega), hlt (by omega), List.forall_mem_nil _⟩
  · exact ⟨hlt (by omega), hlt (by omega), hlt (by omega), List.forall_mem_nil _⟩
  · exact ⟨hlt (by omega), hlt (by omega), hlt (by omega), hlt (by omega), List.forall_mem_nil _⟩

/-- `0xFF` is no byte of UTF-8, so it can terminate a text. -/
theorem not_mem_utf8 (t : Text) : 0xFF ∉ utf8 t := by
  intro h
  obtain ⟨byte, hbyte, hff⟩ := List.mem_map.1 h
  obtain ⟨c, -, hc⟩ := List.mem_flatMap.1 hbyte
  exact absurd hff (Nat.ne_of_lt (toNat_utf8EncodeChar_lt c byte hc))

/-- **A terminated text can be read off**, whatever follows it. -/
theorem eq_of_utf8_append {t u : Text} (h : utf8 t ++ 0xFF :: r = utf8 u ++ 0xFF :: s) :
    t = u ∧ r = s := by
  have htakes : ∀ (t : Text) (r : List Nat),
      (utf8 t ++ 0xFF :: r).takeWhile (· != 0xFF) = utf8 t := by
    intro t r
    rw [List.takeWhile_append_of_pos, List.takeWhile_cons_of_neg (by simp), List.append_nil]
    intro n hn
    have hne : n ≠ 0xFF := ne_of_mem_of_not_mem hn (not_mem_utf8 t)
    simpa using hne
  have htext : utf8 t = utf8 u := by rw [← htakes t r, h, htakes]
  rw [htext] at h
  exact ⟨utf8_injective htext, (List.cons.inj (List.append_cancel_left h)).2⟩

/-! ## The row of numbers -/

/-- The numbers that a piece comes to: a text by its bytes and a terminator, a count by itself and a
flag by zero or one. -/
def Piece.fed : Piece → List Nat
  | .text t => utf8 t ++ [0xFF]
  | .count n => [n]
  | .flag o => [o.toNat]

/-- **What a hasher is fed with**, in one row. -/
def fed (t : TypeRef) : List Nat :=
  t.fingerprint.flatMap Piece.fed

theorem fingerprints_eq_flatMap (ts : List TypeRef) : fingerprints ts = ts.flatMap fingerprint := by
  induction ts with
  | nil => rfl
  | cons t ts ih => rw [fingerprints, ih, List.flatMap_cons]

theorem fed_mk {m : Module} {h : Head} {o : Bool} :
    (mk m h as o).fed = utf8 h.name ++ 0xFF :: as.length :: (as.flatMap fed ++ [o.toNat]) := by
  have hargs : as.flatMap fed = (as.flatMap fingerprint).flatMap Piece.fed :=
    List.flatMap_assoc.symm
  rw [hargs, fed, fingerprint, fingerprints_eq_flatMap]
  simp [Piece.fed]

/-- A fingerprint shows nothing that sameness ignores. -/
theorem fingerprint_stripped (t : TypeRef) : t.stripped.fingerprint = t.fingerprint := by
  induction t using ofArgs with
  | mk m h as o ih =>
  have hargs : (strippedAll as).length = as.length ∧
      fingerprints (strippedAll as) = fingerprints as := by
    induction as with
    | nil => exact ⟨rfl, rfl⟩
    | cons t ts ihargs =>
      obtain ⟨hlength, hprints⟩ := ihargs fun u hu => ih u (List.mem_cons_of_mem _ hu)
      rw [strippedAll, List.length_cons, List.length_cons, hlength, fingerprints, fingerprints,
        hprints, ih t List.mem_cons_self]
      exact ⟨rfl, rfl⟩
  rw [stripped, fingerprint, fingerprint, hargs.1, hargs.2]
  rfl

/-- As many references are read back from a row as are known to be in it, if each of them can be. -/
theorem strippedAll_eq_of_flatMap_append
    (hread : ∀ a ∈ as, ∀ {b : TypeRef} {r s : List Nat}, a.fed ++ r = b.fed ++ s →
      a.stripped = b.stripped ∧ r = s)
    (hlength : as.length = bs.length) (h : as.flatMap fed ++ r = bs.flatMap fed ++ s) :
    strippedAll as = strippedAll bs ∧ r = s := by
  induction as generalizing bs with
  | nil =>
    obtain rfl : bs = [] := List.length_eq_zero_iff.1 hlength.symm
    exact ⟨rfl, h⟩
  | cons a as ih =>
    cases bs with
    | nil => cases hlength
    | cons b bs =>
      rw [List.flatMap_cons, List.flatMap_cons, List.append_assoc, List.append_assoc] at h
      obtain ⟨hab, h⟩ := hread a List.mem_cons_self h
      obtain ⟨has, h⟩ := ih (fun a ha => hread a (List.mem_cons_of_mem _ ha))
        (Nat.succ_inj.1 hlength) h
      rw [strippedAll, strippedAll, hab, has]
      exact ⟨rfl, h⟩

/-- **A reference can be read back** from the front of a row, up to what sameness ignores. -/
theorem stripped_eq_of_fed_append (h : a.fed ++ r = b.fed ++ s) :
    a.stripped = b.stripped ∧ r = s := by
  induction a using ofArgs generalizing b r s with
  | mk m n as o ih =>
  obtain ⟨m', n', bs, o'⟩ := b
  simp only [fed_mk, List.append_assoc, List.cons_append, List.nil_append] at h
  obtain ⟨hname, h⟩ := eq_of_utf8_append h
  obtain ⟨hlength, h⟩ := List.cons.inj h
  obtain ⟨hargs, h⟩ := strippedAll_eq_of_flatMap_append (fun a ha => ih a ha) hlength h
  obtain ⟨hflag, h⟩ := List.cons.inj h
  have hoptional : o = o' := by cases o <;> cases o' <;> first | rfl | cases hflag
  rw [stripped, stripped, hname, hargs, hoptional]
  exact ⟨rfl, h⟩

theorem beq_iff_fingerprint_eq : (a == b) = true ↔ a.fingerprint = b.fingerprint := by
  rw [beq_iff_stripped_eq]
  constructor
  · intro h
    rw [← fingerprint_stripped a, h, fingerprint_stripped]
  · intro h
    have hfed : a.fed ++ [] = b.fed ++ [] := by rw [fed, fed, h]
    exact (stripped_eq_of_fed_append hfed).1

theorem beq_iff_fed_eq : (a == b) = true ↔ a.fed = b.fed := by
  constructor
  · intro h
    rw [fed, fed, beq_iff_fingerprint_eq.1 h]
  · intro h
    exact beq_iff_stripped_eq.2 (stripped_eq_of_fed_append (congrArg (· ++ []) h)).1

/-! ## Sameness and construction -/

/-- **A change of arguments respects sameness**, and asks nothing of the arguments that are
replaced. -/
theorem beq_withArgs (h : (a == b) = true)
    (hargs : List.Forall₂ (fun t u => (t == u) = true) as bs) :
    (a.withArgs as == b.withArgs bs) = true := by
  obtain ⟨m, n, as', o⟩ := a
  obtain ⟨m', n', bs', o'⟩ := b
  obtain ⟨hname, -, hoptional⟩ := beq_mk.1 h
  exact beq_mk.2 ⟨hname, sameAll_iff.2 hargs, hoptional⟩

theorem beq_arrayOf (h : (a == b) = true) : (arrayOf a == arrayOf b) = true :=
  beq_mk.2 ⟨rfl, sameAll_iff.2 (.cons h .nil), rfl⟩

theorem beq_dictionaryOf {a' b' : TypeRef} (h : (a == b) = true) (h' : (a' == b') = true) :
    (dictionaryOf a a' == dictionaryOf b b') = true :=
  beq_mk.2 ⟨rfl, sameAll_iff.2 (.cons h (.cons h' .nil)), rfl⟩

/-- The other modifiers respect sameness as well, into whichever modules the types are moved. -/
theorem beq_modified (h : (a == b) = true) :
    (a.optional == b.optional) = true ∧ (a.nonOptional == b.nonOptional) = true ∧
      ∀ m m' : Module, (a.inModule m == b.inModule m') = true := by
  obtain ⟨m, n, as, o⟩ := a
  obtain ⟨m', n', bs, o'⟩ := b
  obtain ⟨hname, hargs, hoptional⟩ := beq_mk.1 h
  exact ⟨beq_mk.2 ⟨hname, hargs, rfl⟩, beq_mk.2 ⟨hname, hargs, rfl⟩,
    fun _ _ => beq_mk.2 ⟨hname, hargs, hoptional⟩⟩

/-- **Sameness is what a hasher can tell.** References are the same just if they feed it alike, in
pieces or in one row of numbers, and just if they are equal when module and way of writing are
forgotten at every depth. That is an equivalence, and whatever is built from references that are
the same, or made of them by the same step, is the same again. -/
theorem sameness_is_hashed :
    (∀ a b : TypeRef, ((a == b) = true ↔ a.fingerprint = b.fingerprint) ∧
      ((a == b) = true ↔ a.fed = b.fed) ∧ ((a == b) = true ↔ a.stripped = b.stripped)) ∧
    (∀ a : TypeRef, (a == a) = true) ∧
    (∀ a b : TypeRef, (a == b) = true → (b == a) = true) ∧
    (∀ a b c : TypeRef, (a == b) = true → (b == c) = true → (a == c) = true) ∧
    (∀ a b : TypeRef, (a == b) = true →
      (arrayOf a == arrayOf b) = true ∧
      (∀ a' b' : TypeRef, (a' == b') = true → (dictionaryOf a a' == dictionaryOf b b') = true) ∧
      (∀ as bs : List TypeRef, List.Forall₂ (fun t u => (t == u) = true) as bs →
        (a.withArgs as == b.withArgs bs) = true) ∧
      (a.optional == b.optional) = true ∧
      (a.nonOptional == b.nonOptional) = true ∧
      ∀ m m' : Module, (a.inModule m == b.inModule m') = true) :=
  ⟨fun _ _ => ⟨beq_iff_fingerprint_eq, beq_iff_fed_eq, beq_iff_stripped_eq⟩,
    fun _ => BEq.rfl, fun _ _ => BEq.symm, fun _ _ _ => BEq.trans,
    fun _ _ h => ⟨beq_arrayOf h, fun _ _ => beq_dictionaryOf h, fun _ _ => beq_withArgs h,
      beq_modified h⟩⟩

/-- An array of a type of one module and a type called `Array`, over a type of another. -/
theorem imageArray_hashed :
    (arrayOf ((named "UIImage".toList).inModule (.custom "UIKit".toList))).fed
        = ((named "Array".toList).withArgs [named "UIImage".toList]).fed ∧
      (named "UIImage".toList).optional.fed ≠ (named "UIImage".toList).fed := by
  have himage : ((named "UIImage".toList).inModule (.custom "UIKit".toList)
      == named "UIImage".toList) = true := by decide
  have hname : (arrayOf (named "UIImage".toList)
      == (named "Array".toList).withArgs [named "UIImage".toList]) = true := by decide
  have hsame := sameness_is_hashed.1
  have harray := (sameness_is_hashed.2.2.2.2 _ _ himage).1
  refine ⟨(hsame _ _).2.1.1 (sameness_is_hashed.2.2.2.1 _ _ _ harray hname), fun h => ?_⟩
  exact absurd ((hsame _ _).2.1.2 h) (by decide)

end TypeRef

end SwiftDecl
