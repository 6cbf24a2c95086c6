import SwiftDecl.Proofs.Function.Interchange
import SwiftDecl.Proofs.Manifest.TypeForms

/-!
# Spellings of a type

A type can be written in more than one way: with its members in another order, by its name alone,
with what would stand in for a member written out, or with another name for a module that is not
imported. `TypeSpec.Respelled` is one such step, at any depth. What a value means as a type is the
plain reference (`meaning?`), which depends on the members only by the way of `Agree`, and so no
step changes it (`meaning?_of_respelled`).
-/

namespace SwiftDecl

namespace Manifest

namespace TypeSpec

open Json (Value fits given required Lacks)

variable {v w : Value} {ms ms' : List (Text × Value)}

/-! ## Steps -/

/-- Whether a value stands for a module that is not imported. -/
def IsUnimported (v : Value) : Prop :=
  v = .scalar .null ∨ v = .scalar (.string "host".toList) ∨ v = .scalar (.string "stdlib".toList)

/-- **One step from a spelling of a type to another one**, in the value or in a type inside it. -/
inductive Respelled : Value → Value → Prop
  /-- The same members in another order. -/
  | order {ms ms' : List (Text × Value)} (h : ms.Perm ms') : Respelled (.object ms) (.object ms')
  /-- A name alone, or an object that has the name and nothing else. -/
  | name (name : Text) :
      Respelled (.scalar (.string name)) (.object [("name".toList, .scalar (.string name))])
  /-- What is not said to be optional is not. -/
  | isOptional {ms : List (Text × Value)} (hnew : Lacks "optional" ms) :
      Respelled (.object ms) (.object (("optional".toList, .scalar (.boolean false)) :: ms))
  /-- Only a type with a name can have arguments and a module. -/
  | noArgs {ms : List (Text × Value)} (hname : ¬ Lacks "name" ms) (hnew : Lacks "args" ms) :
      Respelled (.object ms) (.object (("args".toList, .array []) :: ms))
  | noModule {ms : List (Text × Value)} (hname : ¬ Lacks "name" ms) (hnew : Lacks "module" ms) :
      Respelled (.object ms) (.object (("module".toList, .scalar .null) :: ms))
  /-- Modules that are not imported stand for each other. -/
  | module {ms : List (Text × Value)} {v w : Value} (hv : IsUnimported v) (hw : IsUnimported w) :
      Respelled (.object (("module".toList, v) :: ms)) (.object (("module".toList, w) :: ms))
  | element {ms : List (Text × Value)} {v w : Value} (h : Respelled v w) :
      Respelled (.object (("array".toList, v) :: ms)) (.object (("array".toList, w) :: ms))
  | entry {ms : List (Text × Value)} {before after : List Value} {v w : Value}
      (h : Respelled v w) :
      Respelled (.object (("dictionary".toList, .array (before ++ v :: after)) :: ms))
        (.object (("dictionary".toList, .array (before ++ w :: after)) :: ms))
  | arg {ms : List (Text × Value)} {before after : List Value} {v w : Value}
      (h : Respelled v w) :
      Respelled (.object (("args".toList, .array (before ++ v :: after)) :: ms))
        (.object (("args".toList, .array (before ++ w :: after)) :: ms))

/-- `null` is no spelling of a type. -/
theorem Respelled.ne_null (h : Respelled v w) : v ≠ .scalar .null ∧ w ≠ .scalar .null := by
  cases h <;> exact ⟨nofun, nofun⟩

/-! ## Meaning -/

/-- **What a type means**: the reference, as a plain one. -/
def meaning (t : TypeSpec) : TypeRef :=
  t.toTypeRef.asPlain

/-- What a value means as a type. -/
def meaning? (v : Value) : Option TypeRef :=
  (ofValue? v).map meaning

/-- What a value means as the module of a type. -/
def moduleMeaning? (v : Value) : Option Module :=
  (v.optional? Value.text?).map fun name => (moduleNamed name).asPlain

theorem asPlain_marked (o : Bool) (t : TypeRef) : (marked o t).asPlain = marked o t.asPlain := by
  obtain ⟨m, h, as, o'⟩ := t
  cases o <;> rfl

theorem meaning_array (element : TypeSpec) (o : Bool) :
    (array element o).meaning = marked o (.mk .host .array [element.meaning] false) := by
  rw [meaning, toTypeRef, asPlain_marked]
  rfl

theorem meaning_dictionary (key value : TypeSpec) (o : Bool) :
    (dictionary key value o).meaning
      = marked o (.mk .host .dictionary [key.meaning, value.meaning] false) := by
  rw [meaning, toTypeRef, asPlain_marked]
  rfl

theorem toTypeRefs_eq_map (ts : List TypeSpec) : toTypeRefs ts = ts.map toTypeRef := by
  induction ts with
  | nil => rfl
  | cons t ts ih => rw [toTypeRefs, ih, List.map_cons]

theorem meaning_named (name : Text) (args : List TypeSpec) (o : Bool) (module : Option Text) :
    (named name args o module).meaning
      = marked o (.mk (moduleNamed module).asPlain (.plain name) (args.map meaning) false) := by
  have hargs : TypeRef.asPlainAll (toTypeRefs args) = args.map meaning := by
    rw [TypeRef.asPlainAll_eq_map, toTypeRefs_eq_map, List.map_map]
    rfl
  rw [meaning, toTypeRef, asPlain_marked, ← hargs]
  rfl

theorem map_list?_ofValue? (v : Value) :
    (v.list? ofValue?).map (List.map meaning) = v.list? meaning? :=
  Value.map_list? ofValue? meaning v

theorem map_arrayForm? (ms : List (Text × Value)) :
    (arrayForm? (memberParts ms)).map meaning =
      if fits Form.array.keys ms then
        (required "array" meaning? ms).bind fun t =>
          (given "optional" Value.flag? false ms).map fun o => marked o (.mk .host .array [t] false)
      else none := by
  have helement : required "array" meaning? ms = (required "array" ofValue? ms).map meaning :=
    (Json.required_map meaning).symm
  rw [arrayForm?_memberParts, helement, apply_ite (Option.map meaning), Option.bind_map,
    Option.map_bind]
  congr 2
  funext element
  simp only [Function.comp_def, Option.map_map, meaning_array]

theorem map_dictionaryForm? (ms : List (Text × Value)) :
    (dictionaryForm? (memberParts ms)).map meaning =
      if fits Form.dictionary.keys ms then
        (required "dictionary" (Value.list? meaning?) ms).bind fun
          | [t, u] => (given "optional" Value.flag? false ms).map fun o =>
            marked o (.mk .host .dictionary [t, u] false)
          | _ => none
      else none := by
  have hentries : required "dictionary" (Value.list? meaning?) ms
      = (required "dictionary" (Value.list? ofValue?) ms).map (List.map meaning) := by
    rw [Json.required_map]
    simp only [map_list?_ofValue?]
  rw [dictionaryForm?_memberParts, hentries, apply_ite (Option.map meaning), Option.bind_map,
    Option.map_bind]
  congr 2
  funext ts
  match ts with
  | [] => rfl
  | [_] => rfl
  | [key, value] =>
    simp only [Function.comp_def, Option.map_map, meaning_dictionary, List.map_cons, List.map_nil]
  | _ :: _ :: _ :: _ => rfl

theorem map_namedForm? (ms : List (Text × Value)) :
    (namedForm? (memberParts ms)).map meaning =
      if fits Form.named.keys ms then
        (required "name" Value.text? ms).bind fun name =>
          (given "args" (Value.list? meaning?) [] ms).bind fun args =>
            (given "optional" Value.flag? false ms).bind fun o =>
              (given "module" moduleMeaning? .host ms).map fun module =>
                marked o (.mk module (.plain name) args false)
      else none := by
  have hargs : given "args" (Value.list? meaning?) [] ms
      = (given "args" (Value.list? ofValue?) [] ms).map (List.map meaning) := by
    rw [Json.given_map]
    simp only [map_list?_ofValue?, List.map_nil]
  have hmodule : given "module" moduleMeaning? .host ms
      = (given "module" (Value.optional? Value.text?) none ms).map
          fun name => (moduleNamed name).asPlain := by
    rw [Json.given_map]
    rfl
  rw [namedForm?_memberParts, hargs, hmodule, apply_ite (Option.map meaning)]
  simp only [Option.map_bind, Option.bind_map, Function.comp_def, Option.map_map, meaning_named,
    Form.keys, Option.map_none]

/-- **Members that mean the same**, in whichever form they are read. -/
structure Agree (ms ms' : List (Text × Value)) : Prop where
  fits : ∀ form : Form, form ≠ .bare → fits form.keys ms = fits form.keys ms'
  isOptional : given "optional" Value.flag? false ms = given "optional" Value.flag? false ms'
  element : required "array" meaning? ms = required "array" meaning? ms'
  entries : required "dictionary" (Value.list? meaning?) ms
    = required "dictionary" (Value.list? meaning?) ms'
  name : required "name" Value.text? ms = required "name" Value.text? ms'
  args : given "args" (Value.list? meaning?) [] ms = given "args" (Value.list? meaning?) [] ms'
  module : given "module" moduleMeaning? .host ms = given "module" moduleMeaning? .host ms'

theorem meaning?_of_agree (h : Agree ms ms') : meaning? (.object ms) = meaning? (.object ms') := by
  have hforms : ∀ ns : List (Text × Value), meaning? (.object ns)
      = (((arrayForm? (memberParts ns)).map meaning).or
          (((dictionaryForm? (memberParts ns)).map meaning).or
            ((namedForm? (memberParts ns)).map meaning))) := by
    intro ns
    rw [meaning?, ofValue?_object, ofMembers?]
    simp only [Option.orElse_eq_orElse, Option.orElse_eq_or, Option.map_or]
  have harray := h.fits .array (by decide)
  have hdictionary := h.fits .dictionary (by decide)
  have hnamed := h.fits .named (by decide)
  rw [hforms, hforms, map_arrayForm?, map_arrayForm?, map_dictionaryForm?, map_dictionaryForm?,
    map_namedForm?, map_namedForm?, harray, hdictionary, hnamed, h.isOptional, h.element,
    h.entries, h.name, h.args, h.module]

/-! ## No step changes the meaning -/

theorem moduleMeaning?_of_isUnimported (h : IsUnimported v) : moduleMeaning? v = some .host := by
  rcases h with rfl | rfl | rfl <;> rfl

/-- A member that only one form has leaves the others as they are, if they are spoilt already. -/
theorem fits_cons_of_named {key : Text} {form : Form} (hname : ¬ Lacks "name" ms)
    (hform : form ≠ .named) : fits form.keys ((key, v) :: ms) = fits form.keys ms := by
  have hmem : "name".toList ∈ ms.map Prod.fst := not_not.1 hname
  have hforeign : "name".toList ∉ form.keys.map String.toList := by
    cases form <;> first | exact absurd rfl hform | decide
  rw [Json.fits_of_foreign hmem hforeign,
    Json.fits_of_foreign (List.mem_cons_of_mem _ hmem) hforeign]

/-- **A step leaves the meaning of a value as it is.** -/
theorem meaning?_of_respelled (h : Respelled v w) : meaning? v = meaning? w := by
  induction h with
  | order h => exact congrArg (Option.map meaning) (congrArg Part.type? (part_object_perm h))
  | name name => rfl
  | isOptional hnew =>
    refine meaning?_of_agree ⟨fun form hform => ?_, ?_, ?_, ?_, ?_, ?_, ?_⟩
    · have hkey : "optional" ∈ form.keys := by
        cases form <;> first | exact absurd rfl hform | decide
      exact (Json.fits_cons hkey hnew).symm
    all_goals simp [Json.required_cons, Json.given_cons, Json.given_of_lacks hnew, Value.flag?]
  | noArgs hname hnew =>
    refine meaning?_of_agree ⟨fun form hform => ?_, ?_, ?_, ?_, ?_, ?_, ?_⟩
    · by_cases hnamed : form = .named
      · subst hnamed
        exact (Json.fits_cons (by decide) hnew).symm
      · exact (fits_cons_of_named hname hnamed).symm
    all_goals simp [Json.required_cons, Json.given_cons, Json.given_of_lacks hnew, Value.list?]
  | noModule hname hnew =>
    refine meaning?_of_agree ⟨fun form hform => ?_, ?_, ?_, ?_, ?_, ?_, ?_⟩
    · by_cases hnamed : form = .named
      · subst hnamed
        exact (Json.fits_cons (by decide) hnew).symm
      · exact (fits_cons_of_named hname hnamed).symm
    all_goals simp [Json.required_cons, Json.given_cons, Json.given_of_lacks hnew]
    rfl
  | module hv hw =>
    refine meaning?_of_agree ⟨fun form _ => Json.fits_eq_of_keys (.refl _), ?_, ?_, ?_, ?_, ?_, ?_⟩
    all_goals simp [Json.required_cons, Json.given_cons, moduleMeaning?_of_isUnimported hv,
      moduleMeaning?_of_isUnimported hw]
  | element _ ih =>
    refine meaning?_of_agree ⟨fun form _ => Json.fits_eq_of_keys (.refl _), ?_, ?_, ?_, ?_, ?_, ?_⟩
    all_goals simp [Json.required_cons, Json.given_cons, ih]
  | entry _ ih =>
    refine meaning?_of_agree ⟨fun form _ => Json.fits_eq_of_keys (.refl _), ?_, ?_, ?_, ?_, ?_, ?_⟩
    all_goals simp [Json.required_cons, Json.given_cons, Value.list?_congr ih]
  | arg _ ih =>
    refine meaning?_of_agree ⟨fun form _ => Json.fits_eq_of_keys (.refl _), ?_, ?_, ?_, ?_, ?_, ?_⟩
    all_goals simp [Json.required_cons, Json.given_cons, Value.list?_congr ih]

end TypeSpec

end Manifest

end SwiftDecl
