import SwiftDecl.Manifest.Reader
import SwiftDecl.Proofs.Json.Members
import SwiftDecl.Proofs.Json.Reading
import Mathlib.Logic.Relation

/-!
# The forms of a type

A type is written in one of four forms. `TypeSpec.WrittenAs` says of each what it looks like, and
reading a value is recognizing what is written there (`ofValue?_eq_some_iff`). The forms are told
apart by a key that one requires and the others refuse, so a value is read in one form at most
(`Form.unique`). Hence neither the order in which the forms are tried, at any depth, nor the order
of an object's members makes a difference (`ofValue?_exact`).
-/

namespace SwiftDecl

namespace Json

/-- **Another order of members**, in one object somewhere in a value. -/
inductive Value.Reordered : Value → Value → Prop
  | members {ms ms' : List (Text × Value)} (h : ms.Perm ms') : Reordered (.object ms) (.object ms')
  | item {before after : List Value} {v w : Value} (h : Reordered v w) :
      Reordered (.array (before ++ v :: after)) (.array (before ++ w :: after))
  | member {before after : List (Text × Value)} {key : Text} {v w : Value} (h : Reordered v w) :
      Reordered (.object (before ++ (key, v) :: after)) (.object (before ++ (key, w) :: after))

end Json

namespace Manifest

namespace TypeSpec

open Json (Value fits given required Has HasOr Lacks OnlyKeys)

variable {α : Type} {v w : Value} {ms ms' : List (Text × Value)} {key : String}
variable {t t' : TypeSpec}

/-! ## Parts -/

theorem memberParts_eq_map (ms : List (Text × Value)) :
    memberParts ms = ms.map fun m => (m.1, part m.2) := by
  induction ms with
  | nil => rfl
  | cons m ms ih => rw [memberParts, ih, List.map_cons]

theorem parts?_eq_mapM (vs : List Value) : parts? vs = vs.mapM ofValue? := by
  induction vs with
  | nil => rfl
  | cons v vs ih =>
    rw [parts?, List.mapM_cons, ih, ofValue?]
    cases (part v).type? with
    | none => rfl
    | some t => cases vs.mapM ofValue? <;> rfl

theorem part_array (vs : List Value) :
    part (.array vs) = ((vs.mapM ofValue?).map Part.types).getD .other := by
  rw [part, parts?_eq_mapM]
  cases vs.mapM ofValue? <;> rfl

/-- What a value can be read as inside a type, when the types are read by a function. -/
def partBy (read : Value → Option TypeSpec) : Value → Part
  | .scalar s => .scalar s
  | .array items => ((items.mapM read).map Part.types).getD .other
  | .object members => ((read (.object members)).map Part.type).getD .other

theorem part_object (ms : List (Text × Value)) :
    part (.object ms) = ((ofMembers? (memberParts ms)).map Part.type).getD .other := by
  rw [part]
  cases ofMembers? (memberParts ms) <;> rfl

theorem ofValue?_object (ms : List (Text × Value)) :
    ofValue? (.object ms) = ofMembers? (memberParts ms) := by
  rw [ofValue?, part_object]
  cases ofMembers? (memberParts ms) <;> rfl

theorem partBy_ofValue? : ∀ v : Value, partBy ofValue? v = part v
  | .scalar _ => rfl
  | .array vs => (part_array vs).symm
  | .object ms => by rw [partBy, ofValue?_object, part_object]

theorem types?_part (v : Value) : (part v).types? = v.list? ofValue? := by
  cases v with
  | scalar s => rfl
  | array vs =>
    rw [part_array, Value.list?]
    cases vs.mapM ofValue? <;> rfl
  | object ms =>
    rw [part_object]
    cases ofMembers? (memberParts ms) <;> rfl

/-- What reads scalars only reads a part as it reads the value. -/
theorem part_of_scalars {read : Part → Option α} {read? : Value → Option α}
    (hscalar : ∀ s, read (.scalar s) = read? (.scalar s))
    (hpart : (∀ t, read (.type t) = none) ∧ (∀ ts, read (.types ts) = none) ∧ read .other = none)
    (hvalue : (∀ vs, read? (.array vs) = none) ∧ ∀ ms, read? (.object ms) = none) (v : Value) :
    read (part v) = read? v := by
  obtain ⟨htype, htypes, hother⟩ := hpart
  cases v with
  | scalar s => exact hscalar s
  | array vs =>
    rw [part_array, hvalue.1]
    cases vs.mapM ofValue? with
    | none => exact hother
    | some ts => exact htypes ts
  | object ms =>
    rw [part_object, hvalue.2]
    cases ofMembers? (memberParts ms) with
    | none => exact hother
    | some t => exact htype t

theorem flag?_part (v : Value) : (part v).flag? = v.flag? :=
  part_of_scalars (fun s => by cases s <;> rfl) ⟨fun _ => rfl, fun _ => rfl, rfl⟩
    ⟨fun _ => rfl, fun _ => rfl⟩ v

theorem text?_part (v : Value) : (part v).text? = v.text? :=
  part_of_scalars (fun s => by cases s <;> rfl) ⟨fun _ => rfl, fun _ => rfl, rfl⟩
    ⟨fun _ => rfl, fun _ => rfl⟩ v

theorem optionalText?_part (v : Value) : (part v).optionalText? = v.optional? Value.text? :=
  part_of_scalars (fun s => by cases s <;> rfl) ⟨fun _ => rfl, fun _ => rfl, rfl⟩
    ⟨fun _ => rfl, fun _ => rfl⟩ v

section MemberParts

variable (read : Part → Option α) (absent : α)

theorem fits_memberParts {keys : List String} : fits keys (memberParts ms) = fits keys ms := by
  refine Json.fits_eq_of_keys (.of_eq ?_)
  rw [memberParts_eq_map, List.map_map]
  rfl

theorem required_memberParts :
    required key read (memberParts ms) = required key (fun v => read (part v)) ms := by
  rw [memberParts_eq_map, required, required, Json.lookup_map, Option.bind_map]
  rfl

theorem given_memberParts :
    given key read absent (memberParts ms) = given key (fun v => read (part v)) absent ms := by
  rw [memberParts_eq_map, given, given, Json.lookup_map]
  cases Json.lookup key ms <;> rfl

end MemberParts

theorem arrayForm?_memberParts (ms : List (Text × Value)) :
    arrayForm? (memberParts ms) =
      if fits ["array", "optional"] ms then
        (required "array" ofValue? ms).bind fun element =>
          (given "optional" Value.flag? false ms).map fun o => .array element o
      else none := by
  simp only [arrayForm?, fits_memberParts, required_memberParts, given_memberParts, flag?_part,
    Option.map_eq_bind]
  rfl

theorem dictionaryForm?_memberParts (ms : List (Text × Value)) :
    dictionaryForm? (memberParts ms) =
      if fits ["dictionary", "optional"] ms then
        (required "dictionary" (Value.list? ofValue?) ms).bind fun
          | [key, value] =>
            (given "optional" Value.flag? false ms).map fun o => .dictionary key value o
          | _ => none
      else none := by
  simp only [dictionaryForm?, fits_memberParts, required_memberParts, given_memberParts,
    flag?_part, types?_part, Option.map_eq_bind]
  rfl

theorem namedForm?_memberParts (ms : List (Text × Value)) :
    namedForm? (memberParts ms) =
      if fits ["name", "args", "optional", "module"] ms then
        (required "name" Value.text? ms).bind fun name =>
          (given "args" (Value.list? ofValue?) [] ms).bind fun args =>
            (given "optional" Value.flag? false ms).bind fun o =>
              (given "module" (Value.optional? Value.text?) none ms).map fun module =>
                .named name args o module
      else none := by
  simp only [namedForm?, fits_memberParts, required_memberParts, given_memberParts, flag?_part,
    types?_part, text?_part, optionalText?_part, Option.map_eq_bind]
  rfl

/-! ## Forms -/

/-- The ways of writing a type. -/
inductive Form where
  | bare | array | dictionary | named
deriving DecidableEq

namespace Form

/-- All forms, in the order in which they are tried. -/
def all : List Form :=
  [bare, array, dictionary, named]

theorem mem_all (form : Form) : form ∈ all := by
  cases form <;> decide

/-- The type that an object is in one form. -/
def ofMembers? : Form → List (Text × Part) → Option TypeSpec
  | bare, _ => none
  | array, members => arrayForm? members
  | dictionary, members => dictionaryForm? members
  | named, members => namedForm? members

/-- The type that a value is in one form, the types inside it being read by a function. -/
def readBy? (read : Value → Option TypeSpec) : Form → Value → Option TypeSpec
  | bare, .scalar (.string name) => some (.bare name)
  | form, .object members => form.ofMembers? (members.map fun m => (m.1, partBy read m.2))
  | _, _ => none

/-- **The type that a value is in one form.** -/
def read? : Form → Value → Option TypeSpec :=
  readBy? ofValue?

/-- The keys that a form has. -/
def keys : Form → List String
  | bare => []
  | array => ["array", "optional"]
  | dictionary => ["dictionary", "optional"]
  | named => ["name", "args", "optional", "module"]

/-- The key that a form requires. -/
def mark : Form → String
  | bare => ""
  | array => "array"
  | dictionary => "dictionary"
  | named => "name"

end Form

/-- The form in which a type is written. -/
def form : TypeSpec → Form
  | bare _ => .bare
  | array _ _ => .array
  | dictionary _ _ _ => .dictionary
  | named _ _ _ _ => .named

theorem read?_object (form : Form) (ms : List (Text × Value)) :
    form.read? (.object ms) = form.ofMembers? (memberParts ms) := by
  have hparts : ms.map (fun m => (m.1, partBy ofValue? m.2)) = memberParts ms := by
    rw [memberParts_eq_map]
    simp only [partBy_ofValue?]
  rw [← hparts]
  cases form <;> rfl

theorem read?_bare_eq_some_iff :
    Form.bare.read? v = some t ↔ ∃ name, v = .scalar (.string name) ∧ t = .bare name := by
  cases v with
  | scalar s => cases s <;> simp [Form.read?, Form.readBy?, eq_comm]
  | array vs => simp [Form.read?, Form.readBy?]
  | object ms => simp [read?_object, Form.ofMembers?]

theorem read?_array_eq_some_iff :
    Form.array.read? v = some t ↔
      ∃ ms element o, v = .object ms ∧ fits Form.array.keys ms = true ∧
        required "array" ofValue? ms = some element ∧
        given "optional" Value.flag? false ms = some o ∧ t = .array element o := by
  cases v with
  | scalar s => simp [Form.read?, Form.readBy?]
  | array vs => simp [Form.read?, Form.readBy?]
  | object ms =>
    rw [read?_object, Form.ofMembers?, arrayForm?_memberParts, Option.ite_none_right_eq_some]
    simp only [Option.bind_eq_some_iff, Option.map_eq_some_iff]
    constructor
    · rintro ⟨hfits, element, helement, o, ho, rfl⟩
      exact ⟨ms, element, o, rfl, hfits, helement, ho, rfl⟩
    · rintro ⟨_, element, o, ⟨⟩, hfits, helement, ho, rfl⟩
      exact ⟨hfits, element, helement, o, ho, rfl⟩

theorem read?_dictionary_eq_some_iff :
    Form.dictionary.read? v = some t ↔
      ∃ ms key value o, v = .object ms ∧ fits Form.dictionary.keys ms = true ∧
        required "dictionary" (Value.list? ofValue?) ms = some [key, value] ∧
        given "optional" Value.flag? false ms = some o ∧ t = .dictionary key value o := by
  cases v with
  | scalar s => simp [Form.read?, Form.readBy?]
  | array vs => simp [Form.read?, Form.readBy?]
  | object ms =>
    rw [read?_object, Form.ofMembers?, dictionaryForm?_memberParts, Option.ite_none_right_eq_some]
    simp only [Option.bind_eq_some_iff]
    constructor
    · rintro ⟨hfits, ts, hts, ht⟩
      split at ht
      · obtain ⟨o, ho, rfl⟩ := Option.map_eq_some_iff.1 ht
        exact ⟨ms, _, _, o, rfl, hfits, hts, ho, rfl⟩
      · cases ht
    · rintro ⟨_, key, value, o, ⟨⟩, hfits, hts, ho, rfl⟩
      exact ⟨hfits, [key, value], hts, Option.map_eq_some_iff.2 ⟨o, ho, rfl⟩⟩

theorem read?_named_eq_some_iff :
    Form.named.read? v = some t ↔
      ∃ ms name args o module, v = .object ms ∧ fits Form.named.keys ms = true ∧
        required "name" Value.text? ms = some name ∧
        given "args" (Value.list? ofValue?) [] ms = some args ∧
        given "optional" Value.flag? false ms = some o ∧
        given "module" (Value.optional? Value.text?) none ms = some module ∧
        t = .named name args o module := by
  cases v with
  | scalar s => simp [Form.read?, Form.readBy?]
  | array vs => simp [Form.read?, Form.readBy?]
  | object ms =>
    rw [read?_object, Form.ofMembers?, namedForm?_memberParts, Option.ite_none_right_eq_some]
    simp only [Option.bind_eq_some_iff, Option.map_eq_some_iff]
    constructor
    · rintro ⟨hfits, name, hname, args, hargs, o, ho, module, hmodule, rfl⟩
      exact ⟨ms, name, args, o, module, rfl, hfits, hname, hargs, ho, hmodule, rfl⟩
    · rintro ⟨_, name, args, o, module, ⟨⟩, hfits, hname, hargs, ho, hmodule, rfl⟩
      exact ⟨hfits, name, hname, args, hargs, o, ho, module, hmodule, rfl⟩

/-- What is read in a form is a type of that form. -/
theorem Form.eq_form_of_read? {form : Form} (h : form.read? v = some t) : form = t.form := by
  cases form with
  | bare =>
    obtain ⟨_, -, rfl⟩ := read?_bare_eq_some_iff.1 h
    rfl
  | array =>
    obtain ⟨_, _, _, -, -, -, -, rfl⟩ := read?_array_eq_some_iff.1 h
    rfl
  | dictionary =>
    obtain ⟨_, _, _, _, -, -, -, -, rfl⟩ := read?_dictionary_eq_some_iff.1 h
    rfl
  | named =>
    obtain ⟨_, _, _, _, _, -, -, -, -, -, -, rfl⟩ := read?_named_eq_some_iff.1 h
    rfl

/-- An object that is a type in a form has the key of that form, and no other than its keys. -/
theorem Form.keys_of_read? {form : Form} (h : form.read? (.object ms) = some t) :
    form.mark.toList ∈ ms.map Prod.fst ∧
      ∀ k ∈ ms.map Prod.fst, k ∈ form.keys.map String.toList := by
  cases form with
  | bare => cases h
  | array =>
    obtain ⟨_, _, _, ⟨⟩, hfits, hmark, -⟩ := read?_array_eq_some_iff.1 h
    exact ⟨not_not.1 (Json.not_lacks_of_required hmark), (Json.fits_iff.1 hfits).known⟩
  | dictionary =>
    obtain ⟨_, _, _, _, ⟨⟩, hfits, hmark, -⟩ := read?_dictionary_eq_some_iff.1 h
    exact ⟨not_not.1 (Json.not_lacks_of_required hmark), (Json.fits_iff.1 hfits).known⟩
  | named =>
    obtain ⟨_, _, _, _, _, ⟨⟩, hfits, hmark, -⟩ := read?_named_eq_some_iff.1 h
    exact ⟨not_not.1 (Json.not_lacks_of_required hmark), (Json.fits_iff.1 hfits).known⟩

/-- **A value is read in one form at most.** -/
theorem Form.unique {form form' : Form} (h : form.read? v = some t) (h' : form'.read? v = some t') :
    form = form' := by
  have hmarks : ∀ f g : Form, f ≠ .bare → g ≠ .bare →
      f.mark.toList ∈ g.keys.map String.toList → f = g := by
    intro f g
    cases f <;> cases g <;> decide
  cases v with
  | scalar s =>
    have hbare : ∀ f t, Form.read? f (.scalar s) = some t → f = .bare := by
      intro f t hf
      cases f with
      | bare => rfl
      | _ => cases hf
    rw [hbare form t h, hbare form' t' h']
  | array vs => cases form <;> cases h
  | object ms =>
    refine hmarks form form' (fun hf => ?_) (fun hf => ?_) ?_
    · subst hf
      cases h
    · subst hf
      cases h'
    · exact (keys_of_read? h').2 _ (keys_of_read? h).1

/-! ## Exactness -/

/-- A type is read as a whole value. -/
theorem reads_decodeType : Json.Reads decodeType ofValue? := by
  intro tree _
  unfold decodeType
  cases tree.value with
  | error r => rfl
  | ok v =>
    change _ = ofValue? v
    dsimp only
    cases ofValue? v <;> rfl

/-- A value is the type that some form reads it as. -/
theorem ofValue?_eq_findSome? (v : Value) : ofValue? v = Form.all.findSome? (·.read? v) := by
  cases v with
  | scalar s => cases s <;> rfl
  | array vs =>
    rw [ofValue?, part_array]
    cases vs.mapM ofValue? <;> rfl
  | object ms =>
    rw [ofValue?_object, ofMembers?]
    simp only [Form.all, List.findSome?_cons, List.findSome?_nil, read?_object, Form.ofMembers?]
    cases arrayForm? (memberParts ms) with
    | some t => rfl
    | none =>
      cases dictionaryForm? (memberParts ms) with
      | some t => rfl
      | none => cases namedForm? (memberParts ms) <;> rfl

/-- **Some form of a list reads a value**, and which of the list is of no account. -/
theorem findSome?_read?_eq_some_iff {order : List Form} :
    order.findSome? (·.read? v) = some t ↔ ∃ form ∈ order, form.read? v = some t := by
  refine ⟨fun h => List.exists_of_findSome?_eq_some h, fun ⟨form, hmem, hform⟩ => ?_⟩
  cases hfound : order.findSome? (·.read? v) with
  | none => exact absurd hform (by simp [List.findSome?_eq_none_iff.1 hfound form hmem])
  | some t' =>
    obtain ⟨form', -, hform'⟩ := List.exists_of_findSome?_eq_some hfound
    obtain rfl := Form.unique hform hform'
    exact hform'.symm.trans hform

/-- A value is a type if it is read so in the form of that type. -/
theorem ofValue?_eq_some_iff_read? : ofValue? v = some t ↔ t.form.read? v = some t := by
  rw [ofValue?_eq_findSome?, findSome?_read?_eq_some_iff]
  constructor
  · rintro ⟨form, -, hform⟩
    rwa [← Form.eq_form_of_read? hform]
  · intro h
    exact ⟨t.form, t.form.mem_all, h⟩

theorem given_optional_eq_some_iff {o : Bool} (h : (ms.map Prod.fst).Nodup) :
    given "optional" Value.flag? false ms = some o ↔
      HasOr "optional" (Value.IsFlag o) (o = false) ms :=
  Json.given_eq_some_iff (fun v => Value.flag?_eq_some_iff v o) h

mutual

/-- **A type as it is written**: a string, or an object under the keys of its form, with what the
form requires, and with nothing left out that differs from what stands in for it. -/
def WrittenAs : TypeSpec → Value → Prop
  | .bare name, v => v.IsText name
  | .array element o, v =>
    ∃ ms, v = .object ms ∧ OnlyKeys ["array", "optional"] ms ∧
      Has "array" element.WrittenAs ms ∧ HasOr "optional" (Value.IsFlag o) (o = false) ms
  | .dictionary key value o, v =>
    ∃ ms, v = .object ms ∧ OnlyKeys ["dictionary", "optional"] ms ∧
      Has "dictionary" (fun pair => ∃ k x, pair = .array [k, x] ∧ key.WrittenAs k ∧ value.WrittenAs x)
        ms ∧
      HasOr "optional" (Value.IsFlag o) (o = false) ms
  | .named name args o module, v =>
    ∃ ms, v = .object ms ∧ OnlyKeys ["name", "args", "optional", "module"] ms ∧
      Has "name" (Value.IsText name) ms ∧
      HasOr "args" (fun row => ∃ vs, row = .array vs ∧ AllWrittenAs args vs) (args = []) ms ∧
      HasOr "optional" (Value.IsFlag o) (o = false) ms ∧
      HasOr "module" (Value.IsOptional Value.IsText module) (module = none) ms

/-- Types as they are written one by one. -/
def AllWrittenAs : List TypeSpec → List Value → Prop
  | [], vs => vs = []
  | t :: ts, vs => ∃ v more, vs = v :: more ∧ t.WrittenAs v ∧ AllWrittenAs ts more

end

mutual

/-- **A value is a type just if the type is written there.** -/
theorem ofValue?_eq_some_iff : ∀ (t : TypeSpec) (v : Value), ofValue? v = some t ↔ t.WrittenAs v
  | .bare name, v => by
    rw [ofValue?_eq_some_iff_read?, form, read?_bare_eq_some_iff, WrittenAs]
    constructor
    · rintro ⟨_, rfl, ⟨⟩⟩
      rfl
    · exact fun h => ⟨name, h, rfl⟩
  | .array element o, v => by
    have helement := ofValue?_eq_some_iff element
    rw [ofValue?_eq_some_iff_read?, form, read?_array_eq_some_iff, WrittenAs]
    constructor
    · rintro ⟨ms, _, _, rfl, hfits, he, ho, ⟨⟩⟩
      have honly := Json.fits_iff.1 hfits
      exact ⟨ms, rfl, honly, (Json.required_eq_some_iff helement honly.nodup).1 he,
        (given_optional_eq_some_iff honly.nodup).1 ho⟩
    · rintro ⟨ms, rfl, honly, he, ho⟩
      exact ⟨ms, element, o, rfl, Json.fits_iff.2 honly,
        (Json.required_eq_some_iff helement honly.nodup).2 he,
        (given_optional_eq_some_iff honly.nodup).2 ho, rfl⟩
  | .dictionary key value o, v => by
    have hpair := Value.list?_pair_eq_some_iff (ofValue?_eq_some_iff key)
      (ofValue?_eq_some_iff value)
    rw [ofValue?_eq_some_iff_read?, form, read?_dictionary_eq_some_iff, WrittenAs]
    constructor
    · rintro ⟨ms, _, _, _, rfl, hfits, hkv, ho, ⟨⟩⟩
      have honly := Json.fits_iff.1 hfits
      exact ⟨ms, rfl, honly, (Json.required_eq_some_iff hpair honly.nodup).1 hkv,
        (given_optional_eq_some_iff honly.nodup).1 ho⟩
    · rintro ⟨ms, rfl, honly, hkv, ho⟩
      exact ⟨ms, key, value, o, rfl, Json.fits_iff.2 honly,
        (Json.required_eq_some_iff hpair honly.nodup).2 hkv,
        (given_optional_eq_some_iff honly.nodup).2 ho, rfl⟩
  | .named name args o module, v => by
    have hname : ∀ w : Value, w.text? = some name ↔ w.IsText name :=
      fun w => Value.text?_eq_some_iff w name
    have hargs : ∀ w : Value, w.list? ofValue? = some args ↔
        ∃ vs, w = .array vs ∧ AllWrittenAs args vs := by
      intro w
      have hrow := mapM_ofValue?_eq_some_iff args
      cases w with
      | array vs => simp [Value.list?, hrow]
      | _ => simp [Value.list?]
    have hmodule : ∀ w : Value, w.optional? Value.text? = some module ↔
        w.IsOptional Value.IsText module :=
      fun w => Value.optional?_eq_some_iff Value.text?_eq_some_iff rfl w module
    rw [ofValue?_eq_some_iff_read?, form, read?_named_eq_some_iff, WrittenAs]
    constructor
    · rintro ⟨ms, _, _, _, _, rfl, hfits, hn, ha, ho, hm, ⟨⟩⟩
      have honly := Json.fits_iff.1 hfits
      exact ⟨ms, rfl, honly, (Json.required_eq_some_iff hname honly.nodup).1 hn,
        (Json.given_eq_some_iff hargs honly.nodup).1 ha,
        (given_optional_eq_some_iff honly.nodup).1 ho,
        (Json.given_eq_some_iff hmodule honly.nodup).1 hm⟩
    · rintro ⟨ms, rfl, honly, hn, ha, ho, hm⟩
      exact ⟨ms, name, args, o, module, rfl, Json.fits_iff.2 honly,
        (Json.required_eq_some_iff hname honly.nodup).2 hn,
        (Json.given_eq_some_iff hargs honly.nodup).2 ha,
        (given_optional_eq_some_iff honly.nodup).2 ho,
        (Json.given_eq_some_iff hmodule honly.nodup).2 hm, rfl⟩

/-- The same for types one by one. -/
theorem mapM_ofValue?_eq_some_iff : ∀ (ts : List TypeSpec) (vs : List Value),
    vs.mapM ofValue? = some ts ↔ AllWrittenAs ts vs
  | [], vs => by
    cases vs with
    | nil => exact ⟨fun _ => rfl, fun _ => rfl⟩
    | cons v vs =>
      rw [List.mapM_cons, AllWrittenAs]
      cases ofValue? v with
      | none => simp
      | some t => cases vs.mapM ofValue? <;> simp
  | t :: ts, vs => by
    have ht := ofValue?_eq_some_iff t
    have hts := mapM_ofValue?_eq_some_iff ts
    rw [AllWrittenAs]
    cases vs with
    | nil => simp
    | cons v more =>
      rw [List.mapM_cons]
      simp only [List.cons.injEq, ← ht, ← hts]
      cases hv : ofValue? v with
      | none => simp [hv]
      | some t' => cases hmore : more.mapM ofValue? <;> simp [hv, hmore]

end

/-! ## Order -/

/-- Reading row by row depends on the readings of the items only. -/
theorem mapM_congr {read read' : Value → Option TypeSpec} {vs : List Value}
    (h : ∀ v ∈ vs, read v = read' v) : vs.mapM read = vs.mapM read' := by
  induction vs with
  | nil => rfl
  | cons v vs ih =>
    obtain ⟨hv, hvs⟩ := List.forall_mem_cons.1 h
    rw [List.mapM_cons, List.mapM_cons, hv, ih hvs]

/-- **Whoever reads types by trying the forms in some order reads them alike**, be the order another
one for every value. -/
theorem eq_ofValue?_of_tried {read : Value → Option TypeSpec}
    (h : ∀ v, ∃ order : List Form, order.Perm Form.all ∧
      read v = order.findSome? (·.readBy? read v)) (v : Value) : read v = ofValue? v := by
  -- a form looks at the values inside, and these are smaller
  induction hn : sizeOf v using Nat.strongRecOn generalizing v with
  | ind n ih =>
  subst hn
  have hform : ∀ form : Form, form.readBy? read v = form.read? v := by
    intro form
    cases v with
    | scalar s => cases form <;> cases s <;> rfl
    | array vs => cases form <;> rfl
    | object ms =>
      have hparts : ms.map (fun m => (m.1, partBy read m.2))
          = ms.map fun m => (m.1, partBy ofValue? m.2) := by
        refine List.map_congr_left fun m hm => ?_
        have hlt : sizeOf m.2 < sizeOf (Value.object ms) := by
          have hmem := List.sizeOf_lt_of_mem hm
          obtain ⟨k, x⟩ := m
          simp only [Prod.mk.sizeOf_spec, Value.object.sizeOf_spec] at hmem ⊢
          omega
        obtain ⟨k, x⟩ := m
        cases x with
        | scalar s => rfl
        | array vs =>
          have hvs : vs.mapM read = vs.mapM ofValue? := by
            refine mapM_congr fun w hw => ih _ ?_ w rfl
            have hmem := List.sizeOf_lt_of_mem hw
            simp only [Value.array.sizeOf_spec] at hlt
            omega
          simp only [partBy, hvs]
        | object ns => simp only [partBy, ih _ hlt (.object ns) rfl]
      cases form <;> simp only [Form.readBy?, Form.read?, hparts]
  obtain ⟨order, hperm, hread⟩ := h v
  have hforms : (fun form : Form => form.readBy? read v) = (·.read? v) := funext hform
  rw [hread, hforms, ofValue?_eq_findSome?]
  ext t
  simp only [findSome?_read?_eq_some_iff, hperm.mem_iff]

theorem arrayForm?_perm {ps ps' : List (Text × Part)} (h : ps.Perm ps') :
    arrayForm? ps = arrayForm? ps' := by
  refine Json.ite_fits_perm h fun hnodup => ?_
  rw [Json.required_perm h hnodup, Json.given_perm h hnodup]

theorem dictionaryForm?_perm {ps ps' : List (Text × Part)} (h : ps.Perm ps') :
    dictionaryForm? ps = dictionaryForm? ps' := by
  refine Json.ite_fits_perm h fun hnodup => ?_
  rw [Json.required_perm h hnodup, Json.given_perm h hnodup]

theorem namedForm?_perm {ps ps' : List (Text × Part)} (h : ps.Perm ps') :
    namedForm? ps = namedForm? ps' := by
  refine Json.ite_fits_perm h fun hnodup => ?_
  simp only [Json.required_perm h hnodup, Json.given_perm h hnodup]

/-- What an object is does not depend on the order of its members. -/
theorem part_object_perm (h : ms.Perm ms') : part (.object ms) = part (.object ms') := by
  have hparts : (memberParts ms).Perm (memberParts ms') := by
    rw [memberParts_eq_map, memberParts_eq_map]
    exact h.map _
  rw [part_object, part_object, ofMembers?, ofMembers?, arrayForm?_perm hparts,
    dictionaryForm?_perm hparts, namedForm?_perm hparts]

/-- An item that is read as another one may stand in its place. -/
theorem part_array_congr {before after : List Value} (h : ofValue? v = ofValue? w) :
    part (.array (before ++ v :: after)) = part (.array (before ++ w :: after)) := by
  simp only [part_array, List.mapM_append, List.mapM_cons, h]

/-- A member that is read as another one may stand in its place. -/
theorem part_object_congr {before after : List (Text × Value)} {k : Text} (h : part v = part w) :
    part (.object (before ++ (k, v) :: after)) = part (.object (before ++ (k, w) :: after)) := by
  simp only [part_object, memberParts_eq_map, List.map_append, List.map_cons, h]

/-- The order of members makes no difference, in whichever object it is changed. -/
theorem part_eq_of_reordered (h : v.Reordered w) : part v = part w := by
  induction h with
  | members h => exact part_object_perm h
  | item _ ih => exact part_array_congr (congrArg Part.type? ih)
  | member _ ih => exact part_object_congr ih

/-! ## All in one -/

/-- **A value is read as a type just if that type is written there**; in one form at most, so that
the forms may be tried in any order; and with the members of its objects in any order. -/
theorem ofValue?_exact (v : Value) :
    (∀ document, Json.valueOf document = .ok v →
      (Json.decodeDocument decodeType document).toOption = ofValue? v) ∧
    (∀ t, ofValue? v = some t ↔ t.WrittenAs v) ∧
    (∀ (form form' : Form) (t t' : TypeSpec),
      form.read? v = some t → form'.read? v = some t' → form = form') ∧
    (∀ read : Value → Option TypeSpec,
      (∀ w, ∃ order : List Form,
        order.Perm Form.all ∧ read w = order.findSome? (·.readBy? read w)) →
        read v = ofValue? v) ∧
    (∀ w, Relation.ReflTransGen Value.Reordered v w → ofValue? w = ofValue? v) := by
  refine ⟨fun document hdocument => ?_, fun t => ofValue?_eq_some_iff t v,
    fun form form' t t' h h' => Form.unique h h', fun read h => eq_ofValue?_of_tried h v,
    fun w h => ?_⟩
  · rw [reads_decodeType.document, hdocument]
    rfl
  · induction h with
    | refl => rfl
    | tail _ hstep ih => exact (congrArg Part.type? (part_eq_of_reordered hstep)).symm.trans ih

/-- An optional array of pairs, one of whose arguments is a dictionary: it is read from a document
as an array only, and also if the mark comes last. -/
theorem ofValue?_exact_nested :
    let dictionary : Value := .object
      [("dictionary".toList, .array [.scalar (.string "K".toList), .scalar (.string "V".toList)])]
    let pair : Value := .object
      [("args".toList, .array [.scalar (.string "A".toList), dictionary]),
        ("name".toList, .scalar (.string "Pair".toList))]
    let mark : Text × Value := ("optional".toList, .scalar (.boolean true))
    let v : Value := .object [mark, ("array".toList, pair)]
    let w : Value := .object [("array".toList, pair), mark]
    let t : TypeSpec :=
      .array (.named "Pair".toList
        [.bare "A".toList, .dictionary (.bare "K".toList) (.bare "V".toList) false] false none) true
    let document :=
      ("\x7b\"optional\":true,\"array\":\x7b\"args\":[\"A\",\x7b\"dictionary\":[\"K\",\"V\"]\x7d]," ++
        "\"name\":\"Pair\"\x7d\x7d").toList
    Json.valueOf document = .ok v ∧
      (Json.decodeDocument decodeType document).toOption = some t ∧ t.WrittenAs v ∧
      Form.array.read? v = some t ∧ Form.named.read? v = none ∧
      v.Reordered w ∧ ofValue? w = some t := by
  intro dictionary pair mark v w t document
  obtain ⟨hread, hwritten, hform, -, horder⟩ := ofValue?_exact v
  have hdocument : Json.valueOf document = .ok v := by decide +kernel
  have harray : Form.array.read? v = some t := rfl
  have hv : ofValue? v = some t := ofValue?_eq_some_iff_read?.2 harray
  have hswap : v.Reordered w := .members (.swap _ _ _)
  have hnamed : Form.named.read? v = none := by
    rw [Option.eq_none_iff_forall_ne_some]
    intro t' h
    cases hform _ _ _ _ harray h
  exact ⟨hdocument, (hread document hdocument).trans hv, (hwritten t).1 hv, harray, hnamed, hswap,
    (horder w (.single hswap)).trans hv⟩

end TypeSpec

end Manifest

end SwiftDecl
