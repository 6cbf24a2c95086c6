import SwiftDecl.Json.Record

/-!
# Trees as they are read

A tree carries the text after each of its parts. Whoever looks at that text, as a reader of records
does when its last field is read, must find the end of an array just where the tree has it. That is
so of every tree that is read from a document (`isPlaced_treeOf`), though not of every tree.
-/

namespace SwiftDecl

namespace Json

variable {t rest : Text}

mutual

/-- **A tree whose arrays end where the text behind their items says.** -/
def Tree.IsPlaced : Tree → Prop
  | .fault _ => True
  | .scalar _ _ => True
  | .array start items => items.IsPlaced (start.drop 1)
  | .object _ members => members.IsPlaced

/-- The same for the items of an array, `behind` being the text after what comes before them. -/
def Items.IsPlaced : Items → Text → Prop
  | .closed _, behind => endOfArray behind = .ok ()
  | .broken _, behind => endOfArray behind ≠ .ok ()
  | .item value more, behind =>
    endOfArray behind ≠ .ok () ∧ value.IsPlaced ∧ ∀ rest, value.rest = .ok rest → more.IsPlaced rest

/-- The same for the members of an object. -/
def Members.IsPlaced : Members → Prop
  | .closed _ => True
  | .broken _ => True
  | .member _ _ value more => value.IsPlaced ∧ more.IsPlaced

end

/-! ## The end of an array -/

/-- An array ends at a bracket. -/
theorem endOfArray_eq_ok_iff : endOfArray t = .ok () ↔ ∃ rest, skipSpace t = ']' :: rest := by
  unfold endOfArray
  split
  case h_3 => split <;> simp_all
  all_goals simp_all

theorem endOfArray_of_afterItem_closed (h : afterItem t = .closed rest) :
    endOfArray t = .ok () := by
  rw [endOfArray_eq_ok_iff]
  unfold afterItem at h
  split at h
  case h_2 bracket hs => exact ⟨_, hs⟩
  case h_3 => split at h <;> cases h
  all_goals cases h

theorem endOfArray_ne_of_afterItem (h : ∀ rest, afterItem t ≠ .closed rest) :
    endOfArray t ≠ .ok () := by
  rw [Ne, endOfArray_eq_ok_iff]
  rintro ⟨rest, hs⟩
  exact h rest (by simp only [afterItem, hs])

theorem endOfArray_of_afterBracket_closed (h : afterBracket t = .closed rest) :
    endOfArray t = .ok () := by
  rw [endOfArray_eq_ok_iff]
  unfold afterBracket at h
  split at h
  case h_2 bracket hs => exact ⟨_, hs⟩
  all_goals cases h

theorem endOfArray_ne_of_afterBracket (h : ∀ rest, afterBracket t ≠ .closed rest) :
    endOfArray t ≠ .ok () := by
  rw [Ne, endOfArray_eq_ok_iff]
  rintro ⟨rest, hs⟩
  exact h rest (by simp only [afterBracket, hs])

/-! ## Reading -/

theorem isPlaced_readWord (s : Scalar) (word t : Text) : (readWord s word t).IsPlaced := by
  fun_induction readWord s word t with
  | case3 word c t ih => exact ih
  | _ => trivial

theorem isPlaced_scalarTree (c : Char) (t : Text) : (scalarTree c t).IsPlaced := by
  have hstring : (stringTree t).IsPlaced := by
    unfold stringTree
    split <;> trivial
  have hnumber : (numberTree (c :: t)).IsPlaced := by
    unfold numberTree
    split <;> trivial
  unfold scalarTree
  repeat' split
  · exact hstring
  · exact isPlaced_readWord _ _ _
  · exact isPlaced_readWord _ _ _
  · exact isPlaced_readWord _ _ _
  · exact hnumber
  · trivial

section Nested

variable {readValue : (t : Text) → ValueOf t} (hvalue : ∀ t, (readValue t).1.IsPlaced)

include hvalue

/-- Items are read from where the array has not ended. -/
theorem isPlaced_readItems {behind : Text} (hopen : endOfArray behind ≠ .ok ()) :
    (readItems readValue t).IsPlaced behind := by
  fun_induction readItems readValue t generalizing behind with
  | case1 t value r =>
    rename_i hr
    exact ⟨hopen, hvalue t, fun rest hrest => by rw [hr] at hrest; cases hrest⟩
  | case2 t value behindValue hv closing =>
    rename_i hn
    refine ⟨hopen, hvalue t, fun rest hrest => ?_⟩
    obtain rfl : behindValue = rest := Except.ok.inj (hv.symm.trans hrest)
    exact endOfArray_of_afterItem_closed hn
  | case3 t value behindValue hv r =>
    rename_i hn
    refine ⟨hopen, hvalue t, fun rest hrest => ?_⟩
    obtain rfl : behindValue = rest := Except.ok.inj (hv.symm.trans hrest)
    exact endOfArray_ne_of_afterItem fun rest h => by rw [hn] at h; cases h
  | case4 t value behindValue hv more hn =>
    rename_i ih
    refine ⟨hopen, hvalue t, fun rest hrest => ?_⟩
    obtain rfl : behindValue = rest := Except.ok.inj (hv.symm.trans hrest)
    exact ih (endOfArray_ne_of_afterItem fun rest h => by rw [hn] at h; cases h)

theorem isPlaced_readMembers : (readMembers readValue t).IsPlaced := by
  fun_induction readMembers readValue t with
  | case1 => trivial
  | case2 => exact ⟨trivial, trivial⟩
  | case3 | case4 | case5 => exact ⟨hvalue _, trivial⟩
  | case6 =>
    rename_i ih
    exact ⟨hvalue _, ih⟩

theorem isPlaced_readArray : (readArray readValue t).IsPlaced t := by
  unfold readArray
  split
  case h_1 closing hb => exact endOfArray_of_afterBracket_closed hb
  case h_2 r hb => exact endOfArray_ne_of_afterBracket fun rest h => by rw [hb] at h; cases h
  case h_3 next hb =>
    exact isPlaced_readItems hvalue
      (endOfArray_ne_of_afterBracket fun rest h => by rw [hb] at h; cases h)

theorem isPlaced_readObject : (readObject readValue t).IsPlaced := by
  unfold readObject
  split
  · trivial
  · trivial
  · exact isPlaced_readMembers hvalue

end Nested

/-- What is read is placed, however deep it is nested. -/
theorem isPlaced_readValue (allowance : Nat) (t : Text) : (readValue allowance t).1.IsPlaced := by
  induction allowance generalizing t with
  | zero =>
    unfold readValue
    split
    · trivial
    · split
      · trivial
      · split
        · trivial
        · exact isPlaced_scalarTree _ _
  | succ deeper ih =>
    unfold readValue
    split
    · trivial
    · split
      · exact isPlaced_readArray ih
      · split
        · exact isPlaced_readObject ih
        · exact isPlaced_scalarTree _ _

/-- **The tree of a document is placed.** -/
theorem isPlaced_treeOf (document : Text) : (treeOf document).IsPlaced :=
  isPlaced_readValue nestingLimit document

end Json

end SwiftDecl
