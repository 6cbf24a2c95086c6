import SwiftDecl.Json.Shape
import SwiftDecl.Proofs.Json.Placed
import Mathlib.Data.List.Forall2

/-!
# What a decoder reads is the value

A decoder walks a tree with all its places, and may refuse it in the midst. What it accepts depends
on the value of the tree alone: `Reads` says so of a decoder by way of a function on values, which
knows no places and gives no reasons. Decoders made from decoders inherit it, and a document is read
as its value is (`Reads.document`).
-/

namespace SwiftDecl

namespace Json

variable {α : Type} {read? : Value → Option α} {decode : Decoder α}

/-! ## Reading values -/

namespace Value

/-- The string that a value is. -/
def text? : Value → Option Text
  | .scalar (.string s) => some s
  | _ => none

/-- The boolean that a value is. -/
def flag? : Value → Option Bool
  | .scalar (.boolean b) => some b
  | _ => none

/-- Nothing if a value is `null`, and else what it is read as. -/
def optional? (read? : Value → Option α) : Value → Option (Option α)
  | .scalar .null => some none
  | v => (read? v).map some

/-- What the items of an array are read as, one by one. -/
def list? (read? : Value → Option α) : Value → Option (List α)
  | .array items => items.mapM read?
  | _ => none

/-- A value that is a string. -/
def IsText (s : Text) (v : Value) : Prop :=
  v = .scalar (.string s)

/-- A value that is a boolean. -/
def IsFlag (b : Bool) (v : Value) : Prop :=
  v = .scalar (.boolean b)

/-- A value that is `null` for nothing, and else of a kind. -/
def IsOptional (kind : α → Value → Prop) : Option α → Value → Prop
  | none, v => v = .scalar .null
  | some a, v => kind a v

/-- A value that is an array of items of a kind. -/
def IsList (kind : α → Value → Prop) (as : List α) (v : Value) : Prop :=
  ∃ vs, v = .array vs ∧ List.Forall₂ kind as vs

variable {kind : α → Value → Prop}

theorem text?_eq_some_iff (v : Value) (s : Text) : v.text? = some s ↔ IsText s v := by
  unfold IsText
  cases v with
  | scalar c => cases c <;> simp [text?]
  | array vs => simp [text?]
  | object ms => simp [text?]

theorem flag?_eq_some_iff (v : Value) (b : Bool) : v.flag? = some b ↔ IsFlag b v := by
  unfold IsFlag
  cases v with
  | scalar c => cases c <;> simp [flag?]
  | array vs => simp [flag?]
  | object ms => simp [flag?]

theorem optional?_of_ne_null {v : Value} (h : v ≠ .scalar .null) :
    v.optional? read? = (read? v).map some := by
  unfold optional?
  split
  · exact absurd rfl h
  · rfl

/-- What is read as something or nothing, `null` being read as nothing only. -/
theorem optional?_eq_some_iff (h : ∀ v a, read? v = some a ↔ kind a v)
    (hnull : read? (.scalar .null) = none) (v : Value) (a? : Option α) :
    v.optional? read? = some a? ↔ IsOptional kind a? v := by
  by_cases hv : v = .scalar .null
  · subst hv
    cases a? with
    | none => exact ⟨fun _ => rfl, fun _ => rfl⟩
    | some a => simp [optional?, IsOptional, ← h, hnull]
  · rw [optional?_of_ne_null hv]
    cases a? with
    | none => simp [IsOptional, hv]
    | some a => simp [IsOptional, h]

theorem mapM_eq_some_iff (h : ∀ v a, read? v = some a ↔ kind a v) (vs : List Value) (as : List α) :
    vs.mapM read? = some as ↔ List.Forall₂ kind as vs := by
  induction vs generalizing as with
  | nil => cases as <;> simp
  | cons v vs ih =>
    rw [List.mapM_cons]
    cases as with
    | nil =>
      cases read? v with
      | none => simp
      | some a => cases vs.mapM read? <;> simp
    | cons a as =>
      rw [List.forall₂_cons, ← h, ← ih]
      cases read? v with
      | none => simp
      | some b => cases vs.mapM read? <;> simp

theorem list?_eq_some_iff (h : ∀ v a, read? v = some a ↔ kind a v) (v : Value) (as : List α) :
    v.list? read? = some as ↔ IsList kind as v := by
  cases v with
  | scalar s => simp [list?, IsList]
  | array vs => simp [list?, IsList, mapM_eq_some_iff h]
  | object ms => simp [list?, IsList]

/-- A pair is an array of two values, of which each is known by how it is read. -/
theorem list?_pair_eq_some_iff {a b : α} {first second : Value → Prop}
    (ha : ∀ v, read? v = some a ↔ first v) (hb : ∀ v, read? v = some b ↔ second v) (v : Value) :
    v.list? read? = some [a, b] ↔ ∃ x y, v = .array [x, y] ∧ first x ∧ second y := by
  have hitem : ∀ (w : Value) (c : α), read? w = some c ↔ read? w = some c := fun _ _ => Iff.rfl
  rw [list?_eq_some_iff hitem]
  constructor
  · rintro ⟨vs, rfl, h⟩
    obtain ⟨x, _, hx, hmore, rfl⟩ := List.forall₂_cons_left_iff.1 h
    obtain ⟨y, _, hy, hend, rfl⟩ := List.forall₂_cons_left_iff.1 hmore
    obtain rfl := List.forall₂_nil_left_iff.1 hend
    exact ⟨x, y, rfl, (ha x).1 hx, (hb y).1 hy⟩
  · rintro ⟨x, y, rfl, hx, hy⟩
    exact ⟨_, rfl, .cons ((ha x).2 hx) (.cons ((hb y).2 hy) .nil)⟩

/-! ### Other readings -/

section Mapped

variable {β : Type} (read? : Value → Option α) (f : α → β)

theorem map_optional? (v : Value) :
    (v.optional? read?).map (Option.map f) = v.optional? fun w => (read? w).map f := by
  unfold optional?
  split
  · rfl
  · rw [Option.map_map, Option.map_map]
    rfl

theorem map_list? (v : Value) :
    (v.list? read?).map (List.map f) = v.list? fun w => (read? w).map f := by
  cases v with
  | array vs =>
    change (vs.mapM read?).map (List.map f) = vs.mapM fun w => (read? w).map f
    induction vs with
    | nil => rfl
    | cons v vs ih =>
      rw [List.mapM_cons, List.mapM_cons, ← ih]
      cases read? v with
      | none => rfl
      | some a => cases vs.mapM read? <;> rfl
  | _ => rfl

end Mapped

/-- An item that is read as another one may stand in its place. -/
theorem list?_congr {read? : Value → Option α} {before after : List Value} {v w : Value}
    (h : read? v = read? w) :
    (Value.array (before ++ v :: after)).list? read?
      = (Value.array (before ++ w :: after)).list? read? := by
  simp only [list?, List.mapM_append, List.mapM_cons, h]

theorem optional?_congr {read? : Value → Option α} {v w : Value} (hv : v ≠ .scalar .null)
    (hw : w ≠ .scalar .null) (h : read? v = read? w) : v.optional? read? = w.optional? read? := by
  rw [optional?_of_ne_null hv, optional?_of_ne_null hw, h]

end Value

/-! ## Decoders -/

theorem toOption_bind {ε β : Type} (x : Except ε α) (f : α → Except ε β) :
    (x >>= f).toOption = x.toOption.bind fun a => (f a).toOption := by
  cases x <;> rfl

/-- **A decoder reads values**: what it makes of a tree is what a function makes of its value. -/
def Reads (decode : Decoder α) (read? : Value → Option α) : Prop :=
  ∀ tree : Tree, tree.IsPlaced → (decode tree).toOption = tree.value.toOption.bind read?

mutual

/-- A value that can be read has text behind it. -/
theorem Tree.exists_rest : ∀ (tree : Tree) (v : Value), tree.value = .ok v →
    ∃ rest, tree.rest = .ok rest
  | .fault _, _, h => nomatch h
  | .scalar _ rest, _, _ => ⟨rest, rfl⟩
  | .array _ items, _, h => by
    rw [Tree.value] at h
    cases hvs : items.values with
    | error r => rw [hvs] at h; cases h
    | ok vs => exact Items.exists_rest items vs hvs
  | .object _ members, _, h => by
    rw [Tree.value] at h
    cases hms : members.values with
    | error r => rw [hms] at h; cases h
    | ok ms => exact Members.exists_rest members ms hms

/-- The same for the items of an array. -/
theorem Items.exists_rest : ∀ (items : Items) (vs : List Value), items.values = .ok vs →
    ∃ rest, items.rest = .ok rest
  | .closed rest, _, _ => ⟨rest, rfl⟩
  | .broken _, _, h => nomatch h
  | .item value more, _, h => by
    rw [Items.values] at h
    cases hvs : more.values with
    | error r =>
      rw [hvs] at h
      cases hv : value.value <;> rw [hv] at h <;> cases h
    | ok vs => exact Items.exists_rest more vs hvs

/-- The same for the members of an object. -/
theorem Members.exists_rest : ∀ (members : Members) (ms : List (Text × Value)),
    members.values = .ok ms → ∃ rest, members.rest = .ok rest
  | .closed rest, _, _ => ⟨rest, rfl⟩
  | .broken _, _, h => nomatch h
  | .member _ _ value more, _, h => by
    rw [Members.values] at h
    cases hms : more.values with
    | error r =>
      rw [hms] at h
      cases hv : value.value <;> rw [hv] at h <;> cases h
    | ok ms => exact Members.exists_rest more ms hms

end

/-- The values of items together with one more before them. -/
theorem toOption_values_item (value : Tree) (more : Items) :
    (Items.item value more).values.toOption
      = value.value.toOption.bind fun v => more.values.toOption.map (v :: ·) := by
  rw [Items.values]
  cases value.value with
  | error r => rfl
  | ok v => cases more.values <;> rfl

/-- The members of an object together with one more before them. -/
theorem toOption_values_member (key behindKey : Text) (value : Tree) (more : Members) :
    (Members.member key behindKey value more).values.toOption
      = value.value.toOption.bind fun v => more.values.toOption.map ((key, v) :: ·) := by
  rw [Members.values]
  cases value.value with
  | error r => rfl
  | ok v => cases more.values <;> rfl

theorem toOption_value_array (start : Text) (items : Items) :
    (Tree.array start items).value.toOption = items.values.toOption.map .array := by
  rw [Tree.value]
  cases items.values <;> rfl

theorem toOption_value_object (start : Text) (members : Members) :
    (Tree.object start members).value.toOption = members.values.toOption.map .object := by
  rw [Tree.value]
  cases members.values <;> rfl

theorem reads_decodeText : Reads decodeText Value.text? := by
  intro tree _
  cases tree with
  | fault r => rfl
  | scalar s rest => cases s <;> rfl
  | array start items =>
    rw [toOption_value_array]
    cases items.values <;> rfl
  | object start members =>
    rw [toOption_value_object]
    cases members.values <;> rfl

theorem reads_decodeFlag : Reads decodeFlag Value.flag? := by
  intro tree _
  cases tree with
  | fault r => rfl
  | scalar s rest => cases s <;> rfl
  | array start items =>
    rw [toOption_value_array]
    cases items.values <;> rfl
  | object start members =>
    rw [toOption_value_object]
    cases members.values <;> rfl

/-- A decoder that lets `null` through. -/
theorem Reads.optional (h : Reads decode read?) :
    Reads (decodeOptional decode) (Value.optional? read?) := by
  intro tree hplaced
  have hmap : ∀ x : Except Refusal α, (x.map some).toOption = x.toOption.map some := by
    intro x
    cases x <;> rfl
  have hdecode := h tree hplaced
  cases tree with
  | fault r => exact (hmap _).trans (congrArg (Option.map some) hdecode)
  | scalar s rest =>
    cases s with
    | null => rfl
    | _ => exact (hmap _).trans (congrArg (Option.map some) hdecode)
  | array start items =>
    refine (hmap _).trans ((congrArg (Option.map some) hdecode).trans ?_)
    rw [toOption_value_array]
    cases items.values <;> rfl
  | object start members =>
    refine (hmap _).trans ((congrArg (Option.map some) hdecode).trans ?_)
    rw [toOption_value_object]
    cases members.values <;> rfl

theorem toOption_decoded_item (value : Tree) (more : Items) :
    ((Items.item value more).decoded decode).toOption
      = (decode value).toOption.bind fun a => (more.decoded decode).toOption.map (a :: ·) := by
  rw [Items.decoded]
  cases decode value with
  | error r => rfl
  | ok a => cases more.decoded decode <;> rfl

/-- A decoder of items, along the items. -/
theorem Reads.items (h : Reads decode read?) (items : Items) (behind : Text)
    (hplaced : items.IsPlaced behind) :
    (items.decoded decode).toOption = items.values.toOption.bind fun vs => vs.mapM read? := by
  match items with
  | .closed rest => rfl
  | .broken r => rfl
  | .item value more =>
    obtain ⟨-, hvalue, hmore⟩ := hplaced
    rw [toOption_values_item, toOption_decoded_item, h value hvalue]
    cases hv : value.value with
    | error r => rfl
    | ok v =>
      -- only behind a value that can be read do the other items have a place
      obtain ⟨rest, hrest⟩ := Tree.exists_rest value v hv
      rw [Reads.items h more rest (hmore rest hrest)]
      change (read? v).bind _ = (more.values.toOption.map (v :: ·)).bind _
      cases more.values.toOption with
      | none => cases read? v <;> rfl
      | some vs =>
        change _ = List.mapM read? (v :: vs)
        rw [List.mapM_cons]
        cases read? v with
        | none => rfl
        | some a => cases hvs : vs.mapM read? <;> simp [hvs]

/-- A decoder of arrays. -/
theorem Reads.list (h : Reads decode read?) : Reads (decodeList decode) (Value.list? read?) := by
  intro tree hplaced
  cases tree with
  | fault r => rfl
  | scalar s rest => rfl
  | array start items =>
    rw [toOption_value_array, Option.bind_map]
    exact Reads.items h items _ hplaced
  | object start members =>
    rw [toOption_value_object]
    cases members.values <;> rfl

/-- **A document is read as its value is.** -/
theorem Reads.document (h : Reads decode read?) (document : Text) :
    (decodeDocument decode document).toOption = (valueOf document).toOption.bind read? := by
  have hdecode := h (treeOf document) (isPlaced_treeOf document)
  have hmap : ∀ x : Except Refusal α,
      (x.mapError fun r => r.inDocument document).toOption = x.toOption := by
    intro x
    cases x <;> rfl
  rw [decodeDocument, hmap, valueOf]
  simp only [toOption_bind, hdecode]
  cases (treeOf document).value with
  | error r => rfl
  | ok v =>
    cases (treeOf document).rest with
    | error r => cases hread : read? v <;> simp [Except.toOption, hread]
    | ok rest =>
      cases hend : atEnd rest with
      | error r => cases hread : read? v <;> simp [Except.toOption, hread, hend]
      | ok u => cases hread : read? v <;> simp [Except.toOption, hread, hend, pure, Except.pure]

end Json

end SwiftDecl
