import SwiftDecl.Parameter

/-!
# Parameters as they are constructed

A parameter starts with a label and a type and is then changed step by step. Whatever the steps, a
local name is the normal form of some text, and label and type stay what they are. A step that gives
a local name leaves the one that is kept of it, or none (`withLocalName_eq`), whatever the local
name was before.
-/

namespace SwiftDecl

namespace Parameter

/-- The local name that is kept of one that is given: none if it comes to nothing, or to the
label. -/
def keptLocalName (name : Text) (localName : Option Text) : Option Identifier :=
  localName.bind fun raw =>
    if (Identifier.ofName raw).isEmpty || Identifier.ofName raw == Identifier.ofName name then none
    else some (.ofName raw)

theorem withLocalName_eq (raw : Text) (p : Parameter) :
    p.withLocalName raw = { p with localName := keptLocalName p.name (some raw) } := by
  rw [withLocalName, keptLocalName, Option.bind_some,
    apply_ite fun kept : Option Identifier => ({ p with localName := kept } : Parameter)]
  rfl

theorem name_withLocalName (raw : Text) (p : Parameter) : (p.withLocalName raw).name = p.name := by
  rw [withLocalName_eq]

@[simp] theorem type_withLocalName (raw : Text) (p : Parameter) :
    (p.withLocalName raw).type = p.type := by
  rw [withLocalName_eq]

@[simp] theorem type_withDefaultValue (value : Text) (p : Parameter) :
    (p.withDefaultValue value).type = p.type :=
  rfl

/-- **A parameter that steps of construction lead to.** -/
inductive Made : Parameter → Prop where
  | named (name : Text) (type : TypeRef) : Made (.named name type)
  | edited {p : Parameter} (h : p.Made) (e : Edit) : Made (p.edited e)

/-- A local name has been normalized. -/
theorem Made.exists_ofName {p : Parameter} (h : p.Made) {i : Identifier}
    (hi : p.localName = some i) :
    ∃ raw, i = .ofName raw := by
  induction h with
  | named name type => cases hi
  | @edited p _ e ih =>
    cases e with
    | localName raw =>
      simp only [Parameter.edited, withLocalName] at hi
      split at hi
      · cases hi
      · exact ⟨raw, (Option.some.inj hi).symm⟩
    | defaultValue value => exact ih hi

end Parameter

end SwiftDecl
