import SwiftDecl.Proofs.Function.Validation
import SwiftDecl.Proofs.Parameter.Construction
import SwiftDecl.Proofs.Rows
import Mathlib.Data.List.Induction

/-!
# The local name after a run of steps

A parameter may be given local names and default values any number of times, in any order. Each step
overwrites what it is about and reads nothing of it, so only the last of each kind counts
(`editedBy_named`). For a local name that is not quite to say that the last one is there: it may be
dropped, and then an earlier one that was of use is gone as well. What is kept of it is an
identifier, not empty and not the label (`last_local_name_binds`).
-/

namespace SwiftDecl

namespace Parameter

variable {name : Text} {given : Option Text} {i : Identifier} {p : Parameter}

/-! ## Runs of steps -/

/-- The parameter after a number of steps. -/
def editedBy (p : Parameter) (run : List Edit) : Parameter :=
  run.foldl edited p

/-- The local name that a step gives. -/
def Edit.localName? : Edit → Option Text
  | .localName raw => some raw
  | .defaultValue _ => none

/-- The default value that a step gives. -/
def Edit.defaultValue? : Edit → Option Text
  | .localName _ => none
  | .defaultValue value => some value

/-- **What is given last in a run of steps**, of what each of them gives. -/
def lastGiven (given? : Edit → Option Text) (run : List Edit) : Option Text :=
  (run.filterMap given?).getLast?

/-- One more step gives what it gives, or leaves what was given before it. -/
theorem lastGiven_concat (given? : Edit → Option Text) (run : List Edit) (e : Edit) :
    lastGiven given? (run ++ [e]) = (given? e).or (lastGiven given? run) :=
  SwiftDecl.lastGiven_concat given? run e

/-- The parameter with what is kept of the last local name, and with the last default value. -/
def settled (name : Text) (type : TypeRef) (run : List Edit) : Parameter :=
  ⟨name, keptLocalName name (lastGiven Edit.localName? run), type,
    lastGiven Edit.defaultValue? run⟩

/-- **A step takes what it gives in place of what was given before**, and leaves the rest. -/
theorem settled_edited (name : Text) (type : TypeRef) (run : List Edit) (e : Edit) :
    (settled name type run).edited e = settled name type (run ++ [e]) := by
  rw [settled, settled, lastGiven_concat, lastGiven_concat]
  cases e with
  | localName raw => exact withLocalName_eq raw _
  | defaultValue value => rfl

/-- **A run of steps leaves what was given last**, and label and type as they were. -/
theorem editedBy_named (name : Text) (type : TypeRef) (run : List Edit) :
    (named name type).editedBy run = settled name type run := by
  induction run using List.reverseRecOn with
  | nil => rfl
  | append_singleton run e ih =>
    have hstep : (named name type).editedBy (run ++ [e])
        = ((named name type).editedBy run).edited e := by
      unfold editedBy
      rw [List.foldl_append]
      rfl
    rw [hstep, ih, settled_edited]

/-! ## What is kept of a local name -/

/-- A local name is idle if it comes to nothing, or to the label. -/
theorem idle_iff {name raw : Text} :
    ((Identifier.ofName raw).isEmpty || Identifier.ofName raw == .ofName name) = true ↔
      ¬ IsNameable raw ∨ Identifier.ofName raw = .ofName name := by
  rw [Bool.or_eq_true, isEmpty_ofName_iff_not, beq_iff_eq]

theorem keptLocalName_eq_some_iff :
    keptLocalName name given = some i ↔
      ∃ raw, given = some raw ∧
        (IsNameable raw ∧ Identifier.ofName raw ≠ .ofName name) ∧ .ofName raw = i := by
  rw [keptLocalName, Option.bind_eq_some_iff]
  refine exists_congr fun raw => and_congr_right fun _ => ?_
  rw [Option.ite_none_left_eq_some, idle_iff, not_or, not_not, Option.some_inj]

theorem keptLocalName_eq_none_iff :
    keptLocalName name given = none ↔ given = none ∨
      ∃ raw, given = some raw ∧ (¬ IsNameable raw ∨ Identifier.ofName raw = .ofName name) := by
  cases given with
  | none => simp [keptLocalName]
  | some raw =>
    rw [keptLocalName, Option.bind_some, ite_eq_left_iff, idle_iff]
    simp only [reduceCtorEq, imp_false, not_not, Option.some.injEq, exists_eq_left', false_or]

/-- **The local name of a parameter**, when `given` is the last one that it was given: an identifier
that is neither empty nor the label, or none where the last one did not come to such an identifier.
The body sees the parameter under it, or else under the label. -/
structure BindsLast (p : Parameter) (given : Option Text) : Prop where
  nonempty : ∀ i, p.localName = some i → i.name ≠ []
  apart : ∀ i, p.localName = some i → i.name ≠ p.identifier.name
  normalized : ∀ i, p.localName = some i → ∃ raw, given = some raw ∧ i = .ofName raw
  absent_iff : p.localName = none ↔ given = none ∨
    ∃ raw, given = some raw ∧ (¬ IsNameable raw ∨ Identifier.ofName raw = p.identifier)
  seen : p.bindingName = (p.localName.map Identifier.name).getD p.identifier.name
  unseen_iff : p.bindingName = [] ↔ p.localName = none ∧ ¬ IsNameable p.name

/-- A parameter with what is kept of a local name binds it. -/
theorem bindsLast_of_localName_eq (h : p.localName = keptLocalName p.name given) :
    p.BindsLast given := by
  have hsome : ∀ i, p.localName = some i → ∃ raw, given = some raw ∧
      (IsNameable raw ∧ Identifier.ofName raw ≠ p.identifier) ∧ .ofName raw = i := fun i hi =>
    keptLocalName_eq_some_iff.1 (h.symm.trans hi)
  have hnonempty : ∀ i, p.localName = some i → i.name ≠ [] := by
    intro i hi
    obtain ⟨raw, -, ⟨hraw, -⟩, rfl⟩ := hsome i hi
    exact fun hnil => isEmpty_ofName_iff_not.1 (List.isEmpty_iff.2 hnil) hraw
  have hseen : p.bindingName = (p.localName.map Identifier.name).getD p.identifier.name := by
    unfold bindingName binding
    cases p.localName <;> rfl
  refine ⟨hnonempty, fun i hi hname => ?_, fun i hi => ?_, h ▸ keptLocalName_eq_none_iff, hseen,
    ?_⟩
  · obtain ⟨raw, -, ⟨-, hne⟩, rfl⟩ := hsome i hi
    exact hne (congrArg Identifier.mk hname)
  · obtain ⟨raw, hraw, -, rfl⟩ := hsome i hi
    exact ⟨raw, hraw, rfl⟩
  · rw [hseen]
    cases hlocal : p.localName with
    | none =>
      rw [← isEmpty_ofName_iff_not, Identifier.isEmpty, List.isEmpty_iff]
      simp [identifier]
    | some i => simp [hnonempty i hlocal]

/-- **The last local name binds a parameter**, in whatever order local names and default values were
given. The local name is what the last one that was given comes to, or none; the default value is
the last one, as it was given; and label and type are those the parameter was made with. Nothing
else is left of a run: two runs that give the same last lead to the same parameter. -/
theorem last_local_name_binds (name : Text) (type : TypeRef) (run : List Edit) :
    ((named name type).editedBy run).BindsLast (lastGiven Edit.localName? run) ∧
      ((named name type).editedBy run).defaultValue = lastGiven Edit.defaultValue? run ∧
      ((named name type).editedBy run).name = name ∧
      ((named name type).editedBy run).type = type ∧
      ∀ run', lastGiven Edit.localName? run' = lastGiven Edit.localName? run →
        lastGiven Edit.defaultValue? run' = lastGiven Edit.defaultValue? run →
        (named name type).editedBy run' = (named name type).editedBy run := by
  rw [editedBy_named]
  refine ⟨bindsLast_of_localName_eq rfl, rfl, rfl, rfl, fun run' hlocal hdefault => ?_⟩
  rw [editedBy_named, settled, settled, hlocal, hdefault]

/-- A local name that is of use, and behind it one that comes to the label. -/
def renamedBack : List Edit :=
  [.localName "new value".toList, .defaultValue "0".toList, .localName "[VALUE]".toList,
    .defaultValue "1".toList]

/-- Of the first local name nothing is left though the second one is dropped, until it is given
again. -/
theorem renamedBack_binds_label :
    (∃ p, (named "value".toList .int).editedBy renamedBack = p ∧ p.localName = none ∧
      p.bindingName = "value".toList ∧ p.defaultValue = some "1".toList ∧
      (named "value".toList .int).editedBy
        [.defaultValue "1".toList, .localName "VALUE".toList, .localName "[VALUE]".toList] = p) ∧
    ∃ p i, (named "value".toList .int).editedBy
        (renamedBack ++ [.localName "new value".toList]) = p ∧
      p.localName = some i ∧ i.name = "newValue".toList ∧ i.name ≠ p.identifier.name := by
  obtain ⟨hbinds, hdefault, -, -, hsame⟩ :=
    last_local_name_binds "value".toList .int renamedBack
  have hnone : ((named "value".toList .int).editedBy renamedBack).localName = none :=
    hbinds.absent_iff.2 (.inr ⟨_, rfl, .inr (by decide +kernel)⟩)
  have hagain := (last_local_name_binds "value".toList .int
    (renamedBack ++ [.localName "new value".toList])).1
  have hsome : ((named "value".toList .int).editedBy
      (renamedBack ++ [.localName "new value".toList])).localName
        = some ⟨"newValue".toList⟩ := by decide +kernel
  refine ⟨⟨_, rfl, hnone, ?_, hdefault, hsame _ rfl rfl⟩, _, _, rfl, hsome, rfl,
    hagain.apart _ hsome⟩
  rw [hbinds.seen, hnone]
  decide +kernel

end Parameter

end SwiftDecl
