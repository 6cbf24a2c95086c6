import SwiftDecl.Proofs.Dependencies.UsedTypes
import SwiftDecl.Proofs.Rows
import SwiftDecl.Proofs.TypeRef.Spelling

/-!
# Kinds of references

Two references that are the same have the same tree of names, so the types they use correspond, one
to one and in order (`forall₂_beq_usedTypes`). They may still be written differently, for an array
goes by its brackets or by its name. That is decided by the kind of each node. Where the kinds agree
at all nodes the heads do, and then so do the spellings, of the references and of everything in them
(`writtenAlike_usedTypes`).
-/

namespace SwiftDecl

/-- What kind of reference it is, apart from the name. -/
inductive Kind where
  | plain
  /-- Part of the language. -/
  | builtin
  | array
  | dictionary
deriving DecidableEq

/-- The kind of a head. -/
def Head.kind : Head → Kind
  | plain _ => .plain
  | builtin _ => .builtin
  | array => .array
  | dictionary => .dictionary

/-- A head is known by its name and its kind. -/
theorem Head.eq_of_name_of_kind :
    ∀ {h h' : Head}, h.name = h'.name → h.kind = h'.kind → h = h'
  | plain _, plain _, hname, _ => congrArg plain hname
  | builtin _, builtin _, hname, _ => congrArg builtin hname
  | array, array, _, _ => rfl
  | dictionary, dictionary, _, _ => rfl

namespace TypeRef

variable {t u : TypeRef} {ts us : List TypeRef} {R : TypeRef → TypeRef → Prop}

/-- The kind of a reference. -/
def kind (t : TypeRef) : Kind :=
  t.head.kind

/-- Types that use related types are related themselves, for each is the first that it uses. -/
theorem rel_of_usedTypes (h : List.Forall₂ R t.usedTypes u.usedTypes) : R t u := by
  obtain ⟨m, head, as, o⟩ := t
  obtain ⟨m', head', as', o'⟩ := u
  rw [usedTypes_mk, usedTypes_mk] at h
  exact (List.forall₂_cons.1 h).1

/-- **Types that are the same use the same types**, one by one. -/
theorem forall₂_beq_usedTypes (h : (t == u) = true) :
    List.Forall₂ (fun t u => (t == u) = true) t.usedTypes u.usedTypes := by
  induction t using ofArgs generalizing u with
  | mk m head as o ih =>
  obtain ⟨m', head', as', o'⟩ := u
  obtain ⟨-, hargs, -⟩ := beq_mk.1 h
  rw [usedTypes_mk, usedTypes_mk]
  refine .cons h (forall₂_flatMap ?_)
  have hboth := (List.forall₂_and_left _ _).2 ⟨ih, sameAll_iff.1 hargs⟩
  exact hboth.imp fun t u htu => htu.1 htu.2

/-- Types that are the same use as many types. -/
theorem length_usedTypes_of_beq (h : List.Forall₂ (fun t u => (t == u) = true) ts us) :
    List.Forall₂ (fun t u => t.usedTypes.length = u.usedTypes.length) ts us :=
  h.imp fun _ _ htu => (forall₂_beq_usedTypes htu).length_eq

/-- **Two references that are the same and are written alike.** -/
structure WrittenAlike (t u : TypeRef) : Prop where
  same : (t == u) = true
  spelling : t.spelling = u.spelling

/-- **Types that are the same and of the same kinds are written alike**, and so is what they use. -/
theorem writtenAlike_usedTypes (h : (t == u) = true)
    (hkind : List.Forall₂ (fun t u => t.kind = u.kind) t.usedTypes u.usedTypes) :
    List.Forall₂ WrittenAlike t.usedTypes u.usedTypes := by
  induction t using ofArgs generalizing u with
  | mk m head as o ih =>
  obtain ⟨m', head', as', o'⟩ := u
  obtain ⟨hname, hargs, rfl⟩ := beq_mk.1 h
  rw [sameAll_iff] at hargs
  rw [usedTypes_mk, usedTypes_mk] at hkind ⊢
  obtain ⟨hhead, hbelow⟩ := List.forall₂_cons.1 hkind
  obtain rfl : head = head' := Head.eq_of_name_of_kind hname hhead
  -- the arguments are written alike, each by the induction over the tree
  have hstretches := forall₂_stretches (length_usedTypes_of_beq hargs) hbelow
  have halike :
      List.Forall₂ (fun t u => List.Forall₂ WrittenAlike t.usedTypes u.usedTypes) as as' :=
    ((List.forall₂_and_left _ _).2 ⟨ih, hargs⟩).mp (fun t u htu hu => htu.1 htu.2 hu) hstretches
  have hspellings : spellings as = spellings as' := by
    rw [spellings_eq_map, spellings_eq_map]
    exact map_eq_map_iff_forall₂.2 (halike.imp fun t u htu => (rel_of_usedTypes htu).spelling)
  refine .cons ⟨h, ?_⟩ (forall₂_flatMap halike)
  rw [spelling, spelling, hspellings]

/-- The same for types in a row, stretch by stretch. -/
theorem writtenAlike_stretches (h : List.Forall₂ (fun t u => (t == u) = true) ts us)
    (hkind : List.Forall₂ (fun t u => t.kind = u.kind) (usedTypesOf ts) (usedTypesOf us)) :
    List.Forall₂ (fun t u => List.Forall₂ WrittenAlike t.usedTypes u.usedTypes) ts us := by
  rw [usedTypesOf_eq_flatMap, usedTypesOf_eq_flatMap] at hkind
  exact h.mp (fun _ _ htu hk => writtenAlike_usedTypes htu hk)
    (forall₂_stretches (length_usedTypes_of_beq h) hkind)

theorem isVoid_eq_of_beq (h : (t == u) = true) : t.isVoid = u.isVoid :=
  BEq.congr_left h

end TypeRef

end SwiftDecl
