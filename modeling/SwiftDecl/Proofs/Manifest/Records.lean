import SwiftDecl.Manifest.Reader
import SwiftDecl.Proofs.Json.Members
import SwiftDecl.Proofs.Json.Reading

/-!
# What a record is read as

A record is gathered field by field, from an object or from an array. What is known in the end
depends on what stands under each key, and on nothing else: `Gathering.gather?_eq_some_iff` says so
of the members in any order, `Gathering.gatherRow?_eq` brings an array under the keys of the fields,
and `Gathering.reads` says that the reader of the record reads just that.
-/

namespace SwiftDecl

namespace Json

/-- The members that a value gives to a record: those of an object, or the items of an array under
the keys of the record in their order. -/
def Value.members? (keys : List String) : Value → Option (List (Text × Value))
  | .scalar _ => none
  | .array items =>
    if items.length ≤ keys.length then some ((keys.map String.toList).zip items) else none
  | .object members => some members

/-- **Members as a record is given them**: by an object, or by an array of the first fields in their
order. -/
def Value.IsRecord (keys : List String) (ms : List (Text × Value)) (v : Value) : Prop :=
  v = .object ms ∨
    ∃ items, v = .array items ∧ items.length ≤ keys.length ∧
      ms = (keys.map String.toList).zip items

theorem Value.members?_eq_some_iff {keys : List String} {v : Value} {ms : List (Text × Value)} :
    v.members? keys = some ms ↔ v.IsRecord keys ms := by
  cases v with
  | scalar s => simp [members?, IsRecord]
  | array items => simp [members?, IsRecord, eq_comm]
  | object ns => simp [members?, IsRecord]

end Json

namespace Manifest

open Json (Value Tree Items Members Decoder Reads RecordField RecordSchema Lacks fits given lookup
  required)

variable {σ α : Type}

/-! ## Fields -/

/-- A field of a record, with the function on values that its decoder reads. -/
structure Slot (σ : Type) where
  Entry : Type
  key : String
  get : σ → Option Entry
  set : Option Entry → σ → σ
  decode : Decoder Entry
  read? : Value → Option Entry
  reads : Reads decode read?
  get_set : ∀ entry known, get (set entry known) = entry

namespace Slot

/-- The field as the reader of the record has it. -/
def field (slot : Slot σ) : RecordField σ :=
  fieldOf slot.key slot.get slot.set slot.decode

/-- What the members of a record say of a field: nothing if its key is not there, and else what
stands there, if it can be read. -/
def found? (slot : Slot σ) (absent : Option slot.Entry) (ms : List (Text × Value)) :
    Option (Option slot.Entry) :=
  given slot.key (fun v => (slot.read? v).map some) absent ms

variable {slot : Slot σ} {absent : Option slot.Entry} {ms : List (Text × Value)} {v : Value}

theorem found?_of_lacks (h : Lacks slot.key ms) : slot.found? absent ms = some absent := by
  rw [found?, given, Json.lookup_eq_none_iff.2 h]

theorem found?_cons_self :
    slot.found? absent ((slot.key.toList, v) :: ms) = (slot.read? v).map some := by
  rw [found?, given, Json.lookup_cons_self]

theorem found?_cons_of_ne {k : Text} (h : k ≠ slot.key.toList) :
    slot.found? absent ((k, v) :: ms) = slot.found? absent ms := by
  rw [found?, found?, given, given, Json.lookup_cons_of_ne h]

variable {entry : slot.Entry}

theorem required_eq_some_iff :
    required slot.key slot.read? ms = some entry ↔ slot.found? none ms = some (some entry) := by
  rw [required, found?, given]
  cases lookup slot.key ms with
  | none => simp
  | some v => cases hread : slot.read? v <;> simp [hread]

theorem given_eq_some_iff {byDefault : slot.Entry} :
    given slot.key slot.read? byDefault ms = some entry ↔
      ∃ found, slot.found? none ms = some found ∧ found.getD byDefault = entry := by
  rw [given, found?, given]
  cases lookup slot.key ms with
  | none => simp
  | some v => cases hread : slot.read? v <;> simp [hread]

end Slot

/-- **How a record is gathered**: its fields have keys of their own, none of them is known at the
start, none is touched by another, and together they are all there is. -/
structure Gathering (σ : Type) where
  slots : List (Slot σ)
  start : σ
  distinct : (slots.map Slot.key).Nodup
  free : ∀ slot ∈ slots, slot.get start = none
  apart : ∀ slot ∈ slots, ∀ other ∈ slots, slot.key ≠ other.key →
    ∀ entry known, other.get (slot.set entry known) = other.get known
  ext : ∀ known known', (∀ slot ∈ slots, slot.get known = slot.get known') → known = known'

namespace Gathering

variable {g : Gathering σ} {slot : Slot σ} {known known' : σ} {ms : List (Text × Value)}

/-- The keys of the fields. -/
def keys (g : Gathering σ) : List String :=
  g.slots.map Slot.key

/-- The field under a key. -/
def slotAt? (g : Gathering σ) (key : Text) : Option (Slot σ) :=
  g.slots.find? (·.key.toList == key)

/-- What is known once members are gathered. -/
def gather? (g : Gathering σ) : σ → List (Text × Value) → Option σ
  | known, [] => some known
  | known, (key, v) :: more =>
    match g.slotAt? key with
    | none => none
    | some slot =>
      if (slot.get known).isSome then none
      else (slot.read? v).bind fun entry => g.gather? (slot.set (some entry) known) more

/-- What is known once the items of an array are gathered as fields in order. -/
def gatherRow? : List (Slot σ) → σ → List Value → Option σ
  | _, known, [] => some known
  | [], _, _ :: _ => none
  | slot :: slots, known, v :: more =>
    (slot.read? v).bind fun entry => gatherRow? slots (slot.set (some entry) known) more

theorem eq_of_key_eq {other : Slot σ} (hs : slot ∈ g.slots) (ho : other ∈ g.slots)
    (h : slot.key = other.key) : slot = other :=
  List.inj_on_of_nodup_map g.distinct hs ho h

theorem mem_keys (hs : slot ∈ g.slots) : slot.key ∈ g.keys :=
  List.mem_map_of_mem hs

theorem of_slotAt? {key : Text} (h : g.slotAt? key = some slot) :
    slot ∈ g.slots ∧ slot.key.toList = key := by
  unfold slotAt? at h
  exact ⟨List.mem_of_find?_eq_some h, by simpa using List.find?_some h⟩

theorem slotAt?_key (hs : slot ∈ g.slots) : g.slotAt? slot.key.toList = some slot := by
  cases hfound : g.slotAt? slot.key.toList with
  | none =>
    have hnone := List.find?_eq_none.1 hfound slot hs
    exact absurd (beq_self_eq_true _) hnone
  | some other =>
    obtain ⟨ho, hkey⟩ := of_slotAt? hfound
    rw [eq_of_key_eq ho hs (String.toList_injective hkey)]

theorem slotAt?_eq_none_iff {key : Text} :
    g.slotAt? key = none ↔ key ∉ g.keys.map String.toList := by
  simp only [slotAt?, keys, List.find?_eq_none, beq_iff_eq, List.map_map, List.mem_map,
    Function.comp_apply, not_exists, not_and]

/-! ## Members -/

section Step

variable {other : Slot σ} {v : Value} {entry : slot.Entry}

theorem get_set_of_ne (hs : slot ∈ g.slots) (ho : other ∈ g.slots) (h : other ≠ slot) :
    other.get (slot.set (some entry) known) = other.get known :=
  g.apart slot hs other ho (fun hkey => h (eq_of_key_eq hs ho hkey).symm) _ _

theorem key_ne_of_ne (hs : slot ∈ g.slots) (ho : other ∈ g.slots) (h : other ≠ slot) :
    slot.key.toList ≠ other.key.toList :=
  fun hkey => h (eq_of_key_eq hs ho (String.toList_injective hkey)).symm

/-- What is known already and may not be given again, once a field is gathered. -/
theorem forall_lacks_set_iff (hs : slot ∈ g.slots) (hfree : ¬ (slot.get known).isSome = true) :
    (∀ other ∈ g.slots,
        (other.get (slot.set (some entry) known)).isSome → Lacks other.key ms) ↔
      Lacks slot.key ms ∧ ∀ other ∈ g.slots, (other.get known).isSome →
        Lacks other.key ((slot.key.toList, v) :: ms) := by
  constructor
  · intro h
    refine ⟨h slot hs (by rw [slot.get_set]; rfl), fun other ho hknown => ?_⟩
    have hne : other ≠ slot := fun hother => hfree (hother ▸ hknown)
    refine Json.lacks_cons_iff.2 ⟨(key_ne_of_ne hs ho hne).symm, h other ho ?_⟩
    rwa [get_set_of_ne hs ho hne]
  · rintro ⟨hnew, h⟩ other ho hknown
    by_cases hother : other = slot
    · exact hother ▸ hnew
    · rw [get_set_of_ne hs ho hother] at hknown
      exact (Json.lacks_cons_iff.1 (h other ho hknown)).2

/-- What members say of a field, once the first of them is gathered. -/
theorem found?_set (hs : slot ∈ g.slots) (ho : other ∈ g.slots) (hread : slot.read? v = some entry)
    (hnew : Lacks slot.key ms) :
    other.found? (other.get (slot.set (some entry) known)) ms
      = other.found? (other.get known) ((slot.key.toList, v) :: ms) := by
  by_cases hother : other = slot
  · subst hother
    rw [Slot.found?_of_lacks hnew, other.get_set, Slot.found?_cons_self, hread]
    rfl
  · rw [get_set_of_ne hs ho hother, Slot.found?_cons_of_ne (key_ne_of_ne hs ho hother)]

end Step

/-- **What is gathered is what stands under each key**: the members fit, what was known before is
not given again, and each field is what the members say of it. -/
theorem gather?_eq_some_iff :
    g.gather? known ms = some known' ↔
      fits g.keys ms = true ∧
        (∀ slot ∈ g.slots, (slot.get known).isSome → Lacks slot.key ms) ∧
        ∀ slot ∈ g.slots, slot.found? (slot.get known) ms = some (slot.get known') := by
  induction ms generalizing known with
  | nil =>
    have hsame : known = known' ↔
        ∀ slot ∈ g.slots, some (slot.get known) = some (slot.get known') := by
      refine ⟨fun h _ _ => by rw [h], fun h => g.ext _ _ fun slot hs => ?_⟩
      exact Option.some.inj (h slot hs)
    rw [gather?, Option.some.injEq, hsame]
    exact ⟨fun h => ⟨rfl, fun _ _ _ => List.not_mem_nil, h⟩, fun h => h.2.2⟩
  | cons m ms ih =>
    obtain ⟨k, v⟩ := m
    rw [gather?]
    cases hslot : g.slotAt? k with
    | none =>
      -- a foreign key spoils the record, whatever stands under it
      have hforeign := slotAt?_eq_none_iff.1 hslot
      have hfits : fits g.keys ((k, v) :: ms) = false :=
        Json.fits_of_foreign List.mem_cons_self hforeign
      simp [hfits]
    | some slot =>
      obtain ⟨hs, rfl⟩ := of_slotAt? hslot
      dsimp only
      split
      · -- a key that was given before is here again
        rename_i hgiven
        refine iff_of_false nofun fun ⟨_, hlacks, _⟩ => ?_
        exact hlacks slot hs hgiven List.mem_cons_self
      · rename_i hfree
        cases hread : slot.read? v with
        | none =>
          refine iff_of_false nofun fun ⟨_, _, hfound⟩ => ?_
          have hself := hfound slot hs
          rw [Slot.found?_cons_self, hread] at hself
          cases hself
        | some entry =>
          rw [Option.bind_some, ih, forall_lacks_set_iff hs hfree,
            Json.fits_cons_iff (mem_keys hs)]
          constructor
          · rintro ⟨hms, ⟨hnew, hgiven⟩, hfound⟩
            refine ⟨⟨hms, hnew⟩, hgiven, fun other ho => ?_⟩
            rw [← found?_set hs ho hread hnew]
            exact hfound other ho
          · rintro ⟨⟨hms, hnew⟩, hgiven, hfound⟩
            refine ⟨hms, ⟨hnew, hgiven⟩, fun other ho => ?_⟩
            rw [found?_set hs ho hread hnew]
            exact hfound other ho

/-- The same from the start. -/
theorem gather?_start_eq_some_iff :
    g.gather? g.start ms = some known ↔
      fits g.keys ms = true ∧ ∀ slot ∈ g.slots, slot.found? none ms = some (slot.get known) := by
  have hfree : ∀ slot ∈ g.slots, (slot.get g.start).isSome → Lacks slot.key ms := by
    intro slot hs h
    rw [g.free slot hs] at h
    cases h
  have hfound : (∀ slot ∈ g.slots, slot.found? (slot.get g.start) ms = some (slot.get known)) ↔
      ∀ slot ∈ g.slots, slot.found? none ms = some (slot.get known) :=
    forall₂_congr fun slot hs => by rw [g.free slot hs]
  rw [gather?_eq_some_iff, hfound]
  exact ⟨fun h => ⟨h.1, h.2.2⟩, fun h => ⟨h.1, hfree, h.2⟩⟩

/-! ## Rows -/

/-- **An array is gathered as the object that has its items under the keys in their order.** -/
theorem gatherRow?_eq {slots : List (Slot σ)} (hslots : slots.Sublist g.slots)
    (hfree : ∀ slot ∈ slots, slot.get known = none) (vs : List Value) :
    gatherRow? slots known vs =
      if vs.length ≤ slots.length then
        g.gather? known ((slots.map fun slot => slot.key.toList).zip vs)
      else none := by
  induction slots generalizing known vs with
  | nil => cases vs <;> rfl
  | cons slot slots ih =>
    cases vs with
    | nil => rfl
    | cons v vs =>
      have hs : slot ∈ g.slots := hslots.subset List.mem_cons_self
      have hrest : slots.Sublist g.slots := (List.sublist_cons_self _ _).trans hslots
      -- the key is none of the later ones, so these are as free as before
      have hnew : slot.key ∉ slots.map Slot.key :=
        (List.nodup_cons.1 ((hslots.map Slot.key).nodup g.distinct)).1
      have hnext : ∀ entry, ∀ other ∈ slots, other.get (slot.set entry known) = none := by
        intro entry other ho
        have hkey : slot.key ≠ other.key := fun h => hnew (h ▸ List.mem_map_of_mem ho)
        rw [g.apart slot hs other (hrest.subset ho) hkey]
        exact hfree other (List.mem_cons_of_mem _ ho)
      have hnone : ¬ (slot.get known).isSome := by
        rw [hfree slot List.mem_cons_self]
        exact Bool.false_ne_true
      rw [gatherRow?, List.map_cons, List.zip_cons_cons, gather?, slotAt?_key hs]
      simp only [if_neg hnone, List.length_cons, Nat.add_le_add_iff_right, ih hrest (hnext _)]
      split
      · rfl
      · exact Option.bind_fun_none _

/-! ## Reading -/

/-- A schema whose fields are gathered so. -/
structure Of (g : Gathering σ) (schema : RecordSchema σ α) : Prop where
  fields : schema.fields = g.slots.map Slot.field
  start : schema.start = g.start

variable {schema : RecordSchema σ α}

/-- What the record is, when this much is known. -/
def finish? (schema : RecordSchema σ α) (known : σ) : Option α :=
  (schema.finish known).toOption

/-- A field is read as its value is, if it can be. -/
theorem field_read_cases (slot : Slot σ) (known : σ) (tree : Tree) (hplaced : tree.IsPlaced) :
    (∃ r, slot.field.read tree known = .error r ∧ tree.value.toOption.bind slot.read? = none) ∨
      ∃ v entry, slot.field.read tree known = .ok (slot.set (some entry) known) ∧
        tree.value = .ok v ∧ slot.read? v = some entry := by
  have hreads := slot.reads tree hplaced
  have hread : slot.field.read tree known
      = (slot.decode tree).map fun entry => slot.set (some entry) known := rfl
  rw [hread]
  cases hdecode : slot.decode tree with
  | error r =>
    rw [hdecode] at hreads
    exact .inl ⟨r, rfl, hreads.symm⟩
  | ok entry =>
    rw [hdecode] at hreads
    cases hv : tree.value with
    | error r =>
      rw [hv] at hreads
      cases hreads
    | ok v =>
      rw [hv] at hreads
      exact .inr ⟨v, entry, rfl, rfl, hreads.symm⟩

theorem find?_field (h : g.Of schema) (key : Text) :
    schema.fields.find? (·.key == key) = (g.slotAt? key).map Slot.field := by
  rw [h.fields, List.find?_map]
  rfl

/-- The members of an object are read as they are gathered. -/
theorem toOption_ofMembers (h : g.Of schema) : ∀ (members : Members) (known : σ),
    members.IsPlaced →
      (schema.ofMembers known members).toOption
        = members.values.toOption.bind fun ms => (g.gather? known ms).bind (finish? schema)
  | .closed rest, known, _ => by
    change _ = finish? schema known
    rw [RecordSchema.ofMembers, finish?]
    cases schema.finish known <;> rfl
  | .broken r, _, _ => rfl
  | .member key behindKey value more, known, hplaced => by
    obtain ⟨hvalue, hmore⟩ := hplaced
    rw [Json.toOption_values_member, RecordSchema.ofMembers, find?_field h]
    cases hslot : g.slotAt? key with
    | none =>
      change none = _
      cases value.value.toOption <;> cases more.values.toOption <;> simp [gather?, hslot]
    | some slot =>
      dsimp only [Option.map_some]
      by_cases hgiven : (slot.get known).isSome = true
      · rw [if_pos (show slot.field.isGiven known = true from hgiven)]
        change none = _
        cases value.value.toOption <;> cases more.values.toOption <;> simp [gather?, hslot, hgiven]
      · rw [if_neg (show ¬ slot.field.isGiven known = true from hgiven)]
        obtain ⟨r, hfield, hnone⟩ | ⟨v, entry, hfield, hv, hread⟩ :=
          field_read_cases slot known value hvalue
        · trans none
          · rw [hfield]
            cases value.rest <;> rfl
          · cases hv : value.value.toOption with
            | none => rfl
            | some v =>
              rw [hv, Option.bind_some] at hnone
              cases more.values.toOption <;> simp [gather?, hslot, hgiven, hnone]
        · rw [hfield, hv]
          change (schema.ofMembers (slot.set (some entry) known) more).toOption = _
          rw [toOption_ofMembers h more _ hmore]
          cases more.values.toOption with
          | none => rfl
          | some ms => simp [Except.toOption, gather?, hslot, hgiven, hread]

/-- Behind the last field an array has to end. -/
theorem toOption_ofItems_nil (schema : RecordSchema σ α) (known : σ) (behind : Text) (items : Items)
    (hplaced : items.IsPlaced behind) :
    (schema.ofItems [] known behind items).toOption
      = items.values.toOption.bind fun vs => (gatherRow? [] known vs).bind (finish? schema) := by
  rw [RecordSchema.ofItems]
  cases items with
  | closed rest =>
    change _ = finish? schema known
    rw [finish?, show Json.endOfArray behind = .ok () from hplaced]
    cases schema.finish known <;> rfl
  | broken r =>
    change _ = none
    have hopen : Json.endOfArray behind ≠ .ok () := hplaced
    cases hend : Json.endOfArray behind with
    | ok u => exact absurd hend hopen
    | error r => cases schema.finish known <;> rfl
  | item value more =>
    -- one item too many: a row is not read beyond the last field
    have hopen : Json.endOfArray behind ≠ .ok () := hplaced.1
    trans none
    · cases hend : Json.endOfArray behind with
      | ok u => exact absurd hend hopen
      | error r => cases schema.finish known <;> rfl
    · rw [Json.toOption_values_item]
      cases value.value.toOption <;> cases more.values.toOption <;> rfl

/-- The items of an array are read as they are gathered. -/
theorem toOption_ofItems (schema : RecordSchema σ α) :
    ∀ (slots : List (Slot σ)) (known : σ) (behind : Text) (items : Items), items.IsPlaced behind →
      (schema.ofItems (slots.map Slot.field) known behind items).toOption
        = items.values.toOption.bind fun vs => (gatherRow? slots known vs).bind (finish? schema) := by
  intro slots
  induction slots with
  | nil => exact toOption_ofItems_nil schema
  | cons slot slots ih =>
    intro known behind items hplaced
    cases items with
    | closed rest =>
      change _ = finish? schema known
      rw [List.map_cons, RecordSchema.ofItems, finish?]
      cases schema.finish known <;> rfl
    | broken r => rfl
    | item value more =>
      obtain ⟨-, hvalue, hmore⟩ := hplaced
      rw [Json.toOption_values_item, List.map_cons, RecordSchema.ofItems]
      obtain ⟨r, hfield, hnone⟩ | ⟨v, entry, hfield, hv, hread⟩ :=
        field_read_cases slot known value hvalue
      · trans none
        · rw [hfield]
          cases value.rest <;> rfl
        · cases hv : value.value.toOption with
          | none => rfl
          | some v =>
            rw [hv, Option.bind_some] at hnone
            cases more.values.toOption <;> simp [gatherRow?, hnone]
      · obtain ⟨rest, hrest⟩ := Json.Tree.exists_rest value v hv
        rw [hfield, hrest, hv]
        change (schema.ofItems (slots.map Slot.field) (slot.set (some entry) known) rest more).toOption
          = _
        rw [ih _ rest more (hmore rest hrest)]
        cases more.values.toOption with
        | none => rfl
        | some vs => simp [Except.toOption, gatherRow?, hread]

/-- The record that a value is. -/
def record? (g : Gathering σ) (schema : RecordSchema σ α) (v : Value) : Option α :=
  (v.members? g.keys).bind fun ms => (g.gather? g.start ms).bind (finish? schema)

/-- **The reader of a record reads what is gathered**, from an object as from an array. -/
theorem reads (h : g.Of schema) : Reads schema.decode (g.record? schema) := by
  intro tree hplaced
  cases tree with
  | fault r => rfl
  | scalar s rest => rfl
  | array start items =>
    have hrow := gatherRow?_eq (List.Sublist.refl _) g.free
    rw [Json.toOption_value_array, RecordSchema.decode, h.start, h.fields,
      toOption_ofItems schema _ _ _ _ hplaced, Option.bind_map]
    cases items.values.toOption with
    | none => rfl
    | some vs =>
      change (gatherRow? g.slots g.start vs).bind _ = g.record? schema (.array vs)
      rw [hrow, record?, Value.members?]
      simp only [keys, List.length_map, List.map_map]
      split <;> rfl
  | object start members =>
    rw [Json.toOption_value_object, RecordSchema.decode, h.start, toOption_ofMembers h _ _ hplaced,
      Option.bind_map]
    rfl

end Gathering

end Manifest

end SwiftDecl
