import SwiftDecl.Manifest.Loading
import SwiftDecl.Proofs.Manifest.Records
import SwiftDecl.Proofs.Manifest.TypeForms

/-!
# Which documents are manifests

The three records of a manifest are read as what stands under their keys: `ParamSpec.ofValue?`,
`FunctionSpec.ofValue?` and `Manifest.ofValue?` say so as functions on values, and `WrittenAs` says
what a value must look like. A document is a manifest just if it is written so (`parse_exact`), and
then each record may be an object or an array, so that a manifest need not be an object
(`not_all_manifests_objects`).
-/

namespace SwiftDecl

namespace Manifest

open Json (Value Reads RecordSchema Has HasOr OnlyKeys fits given required)

variable {σ α : Type} {ms : List (Text × Value)} {v : Value}

/-! ## Parameters -/

namespace ParamSpec

/-- The keys of a parameter. -/
def keys : List String :=
  ["name", "localName", "type", "default"]

/-- The parameter that members are. -/
def ofMembers? (ms : List (Text × Value)) : Option ParamSpec :=
  if fits keys ms then do
    let name ← required "name" Value.text? ms
    let localName ← given "localName" (Value.optional? Value.text?) none ms
    let type ← required "type" TypeSpec.ofValue? ms
    let defaultValue ← given "default" (Value.optional? Value.text?) none ms
    return ⟨name, localName, type, defaultValue⟩
  else none

/-- The parameter that a value is. -/
def ofValue? (v : Value) : Option ParamSpec :=
  (v.members? keys).bind ofMembers?

/-- Members that a parameter is written as. -/
def WrittenIn (p : ParamSpec) (ms : List (Text × Value)) : Prop :=
  OnlyKeys keys ms ∧
    Has "name" (Value.IsText p.name) ms ∧
    HasOr "localName" (Value.IsOptional Value.IsText p.localName) (p.localName = none) ms ∧
    Has "type" p.type.WrittenAs ms ∧
    HasOr "default" (Value.IsOptional Value.IsText p.defaultValue) (p.defaultValue = none) ms

/-- **A parameter as it is written.** -/
def WrittenAs (p : ParamSpec) (v : Value) : Prop :=
  ∃ ms, v.IsRecord keys ms ∧ p.WrittenIn ms

/-- The fields of a parameter. -/
def nameSlot : Slot PartialParam :=
  ⟨Text, "name", (·.name), fun e p => { p with name := e }, Json.decodeText, Value.text?,
    Json.reads_decodeText, fun _ _ => rfl⟩

@[inherit_doc nameSlot]
def localNameSlot : Slot PartialParam :=
  ⟨Option Text, "localName", (·.localName), fun e p => { p with localName := e },
    Json.decodeOptional Json.decodeText, Value.optional? Value.text?,
    Json.reads_decodeText.optional, fun _ _ => rfl⟩

@[inherit_doc nameSlot]
def typeSlot : Slot PartialParam :=
  ⟨TypeSpec, "type", (·.type), fun e p => { p with type := e }, decodeType, TypeSpec.ofValue?,
    TypeSpec.reads_decodeType, fun _ _ => rfl⟩

@[inherit_doc nameSlot]
def defaultSlot : Slot PartialParam :=
  ⟨Option Text, "default", (·.defaultValue), fun e p => { p with defaultValue := e },
    Json.decodeOptional Json.decodeText, Value.optional? Value.text?,
    Json.reads_decodeText.optional, fun _ _ => rfl⟩

/-- How a parameter is gathered. -/
def gathering : Gathering PartialParam where
  slots := [nameSlot, localNameSlot, typeSlot, defaultSlot]
  start := ⟨none, none, none, none⟩
  distinct := by decide
  free := by simp [nameSlot, localNameSlot, typeSlot, defaultSlot]
  apart := by simp [nameSlot, localNameSlot, typeSlot, defaultSlot]
  ext := by
    rintro ⟨⟩ ⟨⟩ h
    simpa [nameSlot, localNameSlot, typeSlot, defaultSlot] using h

theorem gather?_bind_finish? (ms : List (Text × Value)) :
    (gathering.gather? gathering.start ms).bind (Gathering.finish? paramSchema)
      = ofMembers? ms := by
  ext p
  rw [Option.bind_eq_some_iff, ofMembers?, Option.ite_none_right_eq_some]
  simp only [Gathering.gather?_start_eq_some_iff, Option.bind_eq_bind, Option.bind_eq_some_iff]
  constructor
  · -- only the name and the type must have been found
    rintro ⟨⟨name?, localName?, type?, default?⟩, ⟨hfits, hfound⟩, hp⟩
    obtain ⟨hname, hlocal, htype, hdefault, -⟩ := by
      simpa only [gathering, List.forall_mem_cons] using hfound
    cases name? with
    | none => cases hp
    | some name =>
      cases type? with
      | none => cases hp
      | some type =>
        exact ⟨hfits, name, nameSlot.required_eq_some_iff.2 hname, _,
          localNameSlot.given_eq_some_iff.2 ⟨_, hlocal, rfl⟩, type,
          typeSlot.required_eq_some_iff.2 htype, _,
          defaultSlot.given_eq_some_iff.2 ⟨_, hdefault, rfl⟩, hp⟩
  · rintro ⟨hfits, name, hname, localName, hlocal, type, htype, defaultValue, hdefault, hp⟩
    obtain ⟨_, hl, rfl⟩ := localNameSlot.given_eq_some_iff.1 hlocal
    obtain ⟨_, hd, rfl⟩ := defaultSlot.given_eq_some_iff.1 hdefault
    have hn := nameSlot.required_eq_some_iff.1 hname
    have ht := typeSlot.required_eq_some_iff.1 htype
    refine ⟨⟨some name, _, some type, _⟩, ⟨hfits, ?_⟩, hp⟩
    simp only [gathering, List.forall_mem_cons]
    exact ⟨hn, hl, ht, hd, nofun⟩

/-- A parameter is read as a value is. -/
theorem reads_decodeParam : Reads decodeParam ofValue? := by
  have hreads : Reads paramSchema.decode (gathering.record? paramSchema) :=
    Gathering.reads ⟨rfl, rfl⟩
  have hrecord : gathering.record? paramSchema = ofValue? := by
    funext v
    exact congrArg _ (funext gather?_bind_finish?)
  rwa [hrecord] at hreads

theorem ofMembers?_eq_some_iff (p : ParamSpec) (ms : List (Text × Value)) :
    ofMembers? ms = some p ↔ p.WrittenIn ms := by
  have hname : ∀ v : Value, v.text? = some p.name ↔ v.IsText p.name :=
    fun v => v.text?_eq_some_iff p.name
  have hoptional : ∀ (s? : Option Text) (v : Value),
      v.optional? Value.text? = some s? ↔ v.IsOptional Value.IsText s? :=
    fun s? v => v.optional?_eq_some_iff Value.text?_eq_some_iff rfl s?
  have htype := TypeSpec.ofValue?_eq_some_iff p.type
  rw [ofMembers?, Option.ite_none_right_eq_some, Json.fits_iff, WrittenIn]
  refine and_congr_right fun honly => ?_
  simp only [Option.bind_eq_bind, Option.bind_eq_some_iff,
    ← Json.required_eq_some_iff hname honly.nodup, ← Json.required_eq_some_iff htype honly.nodup,
    ← Json.given_eq_some_iff (hoptional _) honly.nodup]
  constructor
  · rintro ⟨name, hn, localName, hl, type, ht, defaultValue, hd, ⟨⟩⟩
    exact ⟨hn, hl, ht, hd⟩
  · rintro ⟨hn, hl, ht, hd⟩
    exact ⟨_, hn, _, hl, _, ht, _, hd, rfl⟩

/-- **A value is a parameter just if the parameter is written there.** -/
theorem ofValue?_eq_some_iff (v : Value) (p : ParamSpec) :
    ofValue? v = some p ↔ p.WrittenAs v := by
  rw [ofValue?, Option.bind_eq_some_iff, WrittenAs]
  simp only [Value.members?_eq_some_iff, ofMembers?_eq_some_iff]

end ParamSpec

/-! ## Functions -/

namespace FunctionSpec

/-- The keys of a function. -/
def keys : List String :=
  ["name", "comments", "static", "generics", "params", "throws", "returns", "body"]

/-- The function that members are. -/
def ofMembers? (ms : List (Text × Value)) : Option FunctionSpec :=
  if fits keys ms then do
    let name ← required "name" Value.text? ms
    let comments ← given "comments" (Value.list? Value.text?) [] ms
    let isStatic ← given "static" Value.flag? false ms
    let generics ← given "generics" (Value.optional? Value.text?) none ms
    let params ← given "params" (Value.list? ParamSpec.ofValue?) [] ms
    let throws ← given "throws" Value.flag? false ms
    let returns ← given "returns" (Value.optional? TypeSpec.ofValue?) none ms
    let body ← given "body" Value.text? [] ms
    return ⟨name, comments, isStatic, generics, params, throws, returns, body⟩
  else none

/-- The function that a value is. -/
def ofValue? (v : Value) : Option FunctionSpec :=
  (v.members? keys).bind ofMembers?

/-- Members that a function is written as. -/
def WrittenIn (f : FunctionSpec) (ms : List (Text × Value)) : Prop :=
  OnlyKeys keys ms ∧
    Has "name" (Value.IsText f.name) ms ∧
    HasOr "comments" (Value.IsList Value.IsText f.comments) (f.comments = []) ms ∧
    HasOr "static" (Value.IsFlag f.isStatic) (f.isStatic = false) ms ∧
    HasOr "generics" (Value.IsOptional Value.IsText f.generics) (f.generics = none) ms ∧
    HasOr "params" (Value.IsList ParamSpec.WrittenAs f.params) (f.params = []) ms ∧
    HasOr "throws" (Value.IsFlag f.throws) (f.throws = false) ms ∧
    HasOr "returns" (Value.IsOptional TypeSpec.WrittenAs f.returns) (f.returns = none) ms ∧
    HasOr "body" (Value.IsText f.body) (f.body = []) ms

/-- **A function as it is written.** -/
def WrittenAs (f : FunctionSpec) (v : Value) : Prop :=
  ∃ ms, v.IsRecord keys ms ∧ f.WrittenIn ms

/-- The fields of a function. -/
def nameSlot : Slot PartialFunction :=
  ⟨Text, "name", (·.name), fun e f => { f with name := e }, Json.decodeText, Value.text?,
    Json.reads_decodeText, fun _ _ => rfl⟩

@[inherit_doc nameSlot]
def commentsSlot : Slot PartialFunction :=
  ⟨List Text, "comments", (·.comments), fun e f => { f with comments := e },
    Json.decodeList Json.decodeText, Value.list? Value.text?, Json.reads_decodeText.list,
    fun _ _ => rfl⟩

@[inherit_doc nameSlot]
def staticSlot : Slot PartialFunction :=
  ⟨Bool, "static", (·.isStatic), fun e f => { f with isStatic := e }, Json.decodeFlag, Value.flag?,
    Json.reads_decodeFlag, fun _ _ => rfl⟩

@[inherit_doc nameSlot]
def genericsSlot : Slot PartialFunction :=
  ⟨Option Text, "generics", (·.generics), fun e f => { f with generics := e },
    Json.decodeOptional Json.decodeText, Value.optional? Value.text?,
    Json.reads_decodeText.optional, fun _ _ => rfl⟩

@[inherit_doc nameSlot]
def paramsSlot : Slot PartialFunction :=
  ⟨List ParamSpec, "params", (·.params), fun e f => { f with params := e },
    Json.decodeList decodeParam, Value.list? ParamSpec.ofValue?, ParamSpec.reads_decodeParam.list,
    fun _ _ => rfl⟩

@[inherit_doc nameSlot]
def throwsSlot : Slot PartialFunction :=
  ⟨Bool, "throws", (·.throws), fun e f => { f with throws := e }, Json.decodeFlag, Value.flag?,
    Json.reads_decodeFlag, fun _ _ => rfl⟩

@[inherit_doc nameSlot]
def returnsSlot : Slot PartialFunction :=
  ⟨Option TypeSpec, "returns", (·.returns), fun e f => { f with returns := e },
    Json.decodeOptional decodeType, Value.optional? TypeSpec.ofValue?,
    TypeSpec.reads_decodeType.optional, fun _ _ => rfl⟩

@[inherit_doc nameSlot]
def bodySlot : Slot PartialFunction :=
  ⟨Text, "body", (·.body), fun e f => { f with body := e }, Json.decodeText, Value.text?,
    Json.reads_decodeText, fun _ _ => rfl⟩

/-- How a function is gathered. -/
def gathering : Gathering PartialFunction where
  slots :=
    [nameSlot, commentsSlot, staticSlot, genericsSlot, paramsSlot, throwsSlot, returnsSlot,
      bodySlot]
  start := ⟨none, none, none, none, none, none, none, none⟩
  distinct := by decide
  free := by
    simp [nameSlot, commentsSlot, staticSlot, genericsSlot, paramsSlot, throwsSlot, returnsSlot,
      bodySlot]
  apart := by
    simp [nameSlot, commentsSlot, staticSlot, genericsSlot, paramsSlot, throwsSlot, returnsSlot,
      bodySlot]
  ext := by
    rintro ⟨⟩ ⟨⟩ h
    simpa [nameSlot, commentsSlot, staticSlot, genericsSlot, paramsSlot, throwsSlot, returnsSlot,
      bodySlot] using h

theorem gather?_bind_finish? (ms : List (Text × Value)) :
    (gathering.gather? gathering.start ms).bind (Gathering.finish? functionSchema)
      = ofMembers? ms := by
  ext f
  rw [Option.bind_eq_some_iff, ofMembers?, Option.ite_none_right_eq_some]
  simp only [Gathering.gather?_start_eq_some_iff, Option.bind_eq_bind, Option.bind_eq_some_iff]
  constructor
  · rintro ⟨⟨name?, _, _, _, _, _, _, _⟩, ⟨hfits, hfound⟩, hf⟩
    obtain ⟨hname, hcomments, hstatic, hgenerics, hparams, hthrows, hreturns, hbody, -⟩ := by
      simpa only [gathering, List.forall_mem_cons] using hfound
    cases name? with
    | none => cases hf
    | some name =>
      exact ⟨hfits, name, nameSlot.required_eq_some_iff.2 hname,
        _, commentsSlot.given_eq_some_iff.2 ⟨_, hcomments, rfl⟩,
        _, staticSlot.given_eq_some_iff.2 ⟨_, hstatic, rfl⟩,
        _, genericsSlot.given_eq_some_iff.2 ⟨_, hgenerics, rfl⟩,
        _, paramsSlot.given_eq_some_iff.2 ⟨_, hparams, rfl⟩,
        _, throwsSlot.given_eq_some_iff.2 ⟨_, hthrows, rfl⟩,
        _, returnsSlot.given_eq_some_iff.2 ⟨_, hreturns, rfl⟩,
        _, bodySlot.given_eq_some_iff.2 ⟨_, hbody, rfl⟩, hf⟩
  · rintro ⟨hfits, name, hname, _, hcomments, _, hstatic, _, hgenerics, _, hparams, _, hthrows,
      _, hreturns, _, hbody, hf⟩
    have hn := nameSlot.required_eq_some_iff.1 hname
    obtain ⟨_, hc, rfl⟩ := commentsSlot.given_eq_some_iff.1 hcomments
    obtain ⟨_, hs, rfl⟩ := staticSlot.given_eq_some_iff.1 hstatic
    obtain ⟨_, hg, rfl⟩ := genericsSlot.given_eq_some_iff.1 hgenerics
    obtain ⟨_, hp, rfl⟩ := paramsSlot.given_eq_some_iff.1 hparams
    obtain ⟨_, ht, rfl⟩ := throwsSlot.given_eq_some_iff.1 hthrows
    obtain ⟨_, hr, rfl⟩ := returnsSlot.given_eq_some_iff.1 hreturns
    obtain ⟨_, hb, rfl⟩ := bodySlot.given_eq_some_iff.1 hbody
    refine ⟨⟨some name, _, _, _, _, _, _, _⟩, ⟨hfits, ?_⟩, hf⟩
    simp only [gathering, List.forall_mem_cons]
    exact ⟨hn, hc, hs, hg, hp, ht, hr, hb, nofun⟩

/-- A function is read as a value is. -/
theorem reads_decodeFunction : Reads decodeFunction ofValue? := by
  have hreads : Reads functionSchema.decode (gathering.record? functionSchema) :=
    Gathering.reads ⟨rfl, rfl⟩
  have hrecord : gathering.record? functionSchema = ofValue? := by
    funext v
    exact congrArg _ (funext gather?_bind_finish?)
  rwa [hrecord] at hreads

theorem ofMembers?_eq_some_iff (f : FunctionSpec) (ms : List (Text × Value)) :
    ofMembers? ms = some f ↔ f.WrittenIn ms := by
  have htext : ∀ (s : Text) (v : Value), v.text? = some s ↔ v.IsText s :=
    fun s v => v.text?_eq_some_iff s
  have hflag : ∀ (b : Bool) (v : Value), v.flag? = some b ↔ v.IsFlag b :=
    fun b v => v.flag?_eq_some_iff b
  have hcomments : ∀ v : Value, v.list? Value.text? = some f.comments ↔
      v.IsList Value.IsText f.comments :=
    fun v => v.list?_eq_some_iff Value.text?_eq_some_iff f.comments
  have hgenerics : ∀ v : Value, v.optional? Value.text? = some f.generics ↔
      v.IsOptional Value.IsText f.generics :=
    fun v => v.optional?_eq_some_iff Value.text?_eq_some_iff rfl f.generics
  have hparams : ∀ v : Value, v.list? ParamSpec.ofValue? = some f.params ↔
      v.IsList ParamSpec.WrittenAs f.params :=
    fun v => v.list?_eq_some_iff ParamSpec.ofValue?_eq_some_iff f.params
  have hreturns : ∀ v : Value, v.optional? TypeSpec.ofValue? = some f.returns ↔
      v.IsOptional TypeSpec.WrittenAs f.returns :=
    fun v => v.optional?_eq_some_iff (fun v t => TypeSpec.ofValue?_eq_some_iff t v) rfl f.returns
  rw [ofMembers?, Option.ite_none_right_eq_some, Json.fits_iff, WrittenIn]
  refine and_congr_right fun honly => ?_
  simp only [Option.bind_eq_bind, Option.bind_eq_some_iff,
    ← Json.required_eq_some_iff (htext _) honly.nodup,
    ← Json.given_eq_some_iff hcomments honly.nodup,
    ← Json.given_eq_some_iff (hflag _) honly.nodup,
    ← Json.given_eq_some_iff hgenerics honly.nodup,
    ← Json.given_eq_some_iff hparams honly.nodup,
    ← Json.given_eq_some_iff hreturns honly.nodup,
    ← Json.given_eq_some_iff (htext _) honly.nodup]
  constructor
  · rintro ⟨_, hn, _, hc, _, hs, _, hg, _, hp, _, ht, _, hr, _, hb, ⟨⟩⟩
    exact ⟨hn, hc, hs, hg, hp, ht, hr, hb⟩
  · rintro ⟨hn, hc, hs, hg, hp, ht, hr, hb⟩
    exact ⟨_, hn, _, hc, _, hs, _, hg, _, hp, _, ht, _, hr, _, hb, rfl⟩

/-- **A value is a function just if the function is written there.** -/
theorem ofValue?_eq_some_iff (v : Value) (f : FunctionSpec) :
    ofValue? v = some f ↔ f.WrittenAs v := by
  rw [ofValue?, Option.bind_eq_some_iff, WrittenAs]
  simp only [Value.members?_eq_some_iff, ofMembers?_eq_some_iff]

end FunctionSpec

/-! ## Manifests -/

/-- The keys of a manifest. -/
def keys : List String :=
  ["functions"]

/-- The manifest that members are. -/
def ofMembers? (ms : List (Text × Value)) : Option Manifest :=
  if fits keys ms then (given "functions" (Value.list? FunctionSpec.ofValue?) [] ms).map .mk
  else none

/-- The manifest that a value is. -/
def ofValue? (v : Value) : Option Manifest :=
  (v.members? keys).bind ofMembers?

/-- Members that a manifest is written as. -/
def WrittenIn (m : Manifest) (ms : List (Text × Value)) : Prop :=
  OnlyKeys keys ms ∧
    HasOr "functions" (Value.IsList FunctionSpec.WrittenAs m.functions) (m.functions = []) ms

/-- **A manifest as it is written.** -/
def WrittenAs (m : Manifest) (v : Value) : Prop :=
  ∃ ms, v.IsRecord keys ms ∧ m.WrittenIn ms

/-- The field of a manifest. -/
def functionsSlot : Slot PartialManifest :=
  ⟨List FunctionSpec, "functions", (·.functions), fun e m => { m with functions := e },
    Json.decodeList decodeFunction, Value.list? FunctionSpec.ofValue?,
    FunctionSpec.reads_decodeFunction.list, fun _ _ => rfl⟩

/-- How a manifest is gathered. -/
def gathering : Gathering PartialManifest where
  slots := [functionsSlot]
  start := ⟨none⟩
  distinct := by decide
  free := by simp [functionsSlot]
  apart := by simp
  ext := by
    rintro ⟨⟩ ⟨⟩ h
    simpa [functionsSlot] using h

theorem gather?_bind_finish? (ms : List (Text × Value)) :
    (gathering.gather? gathering.start ms).bind (Gathering.finish? manifestSchema)
      = ofMembers? ms := by
  ext m
  rw [Option.bind_eq_some_iff, ofMembers?, Option.ite_none_right_eq_some]
  simp only [Gathering.gather?_start_eq_some_iff, Option.map_eq_some_iff]
  constructor
  · rintro ⟨⟨functions?⟩, ⟨hfits, hfound⟩, ⟨⟩⟩
    have hfunctions := hfound functionsSlot List.mem_cons_self
    exact ⟨hfits, _, functionsSlot.given_eq_some_iff.2 ⟨_, hfunctions, rfl⟩, rfl⟩
  · rintro ⟨hfits, _, hfunctions, rfl⟩
    obtain ⟨_, hf, rfl⟩ := functionsSlot.given_eq_some_iff.1 hfunctions
    refine ⟨⟨_⟩, ⟨hfits, ?_⟩, rfl⟩
    simp only [gathering, List.forall_mem_cons]
    exact ⟨hf, nofun⟩

/-- A manifest is read as a value is. -/
theorem reads_decodeManifest : Reads decodeManifest ofValue? := by
  have hreads : Reads manifestSchema.decode (gathering.record? manifestSchema) :=
    Gathering.reads ⟨rfl, rfl⟩
  have hrecord : gathering.record? manifestSchema = ofValue? := by
    funext v
    exact congrArg _ (funext gather?_bind_finish?)
  rwa [hrecord] at hreads

theorem ofMembers?_eq_some_iff (m : Manifest) (ms : List (Text × Value)) :
    ofMembers? ms = some m ↔ m.WrittenIn ms := by
  have hfunctions : ∀ v : Value, v.list? FunctionSpec.ofValue? = some m.functions ↔
      v.IsList FunctionSpec.WrittenAs m.functions :=
    fun v => v.list?_eq_some_iff FunctionSpec.ofValue?_eq_some_iff m.functions
  rw [ofMembers?, Option.ite_none_right_eq_some, Json.fits_iff, WrittenIn]
  refine and_congr_right fun honly => ?_
  rw [← Json.given_eq_some_iff hfunctions honly.nodup, Option.map_eq_some_iff]
  constructor
  · rintro ⟨_, hf, rfl⟩
    exact hf
  · intro hf
    exact ⟨_, hf, rfl⟩

/-- **A value is a manifest just if the manifest is written there.** -/
theorem ofValue?_eq_some_iff (v : Value) (m : Manifest) :
    ofValue? v = some m ↔ m.WrittenAs v := by
  rw [ofValue?, Option.bind_eq_some_iff, WrittenAs]
  simp only [Value.members?_eq_some_iff, ofMembers?_eq_some_iff]

/-! ## Documents -/

/-- A document is a manifest if its value is one. -/
theorem ofText_eq_ok_iff {document : Text} {m : Manifest} :
    ofText document = .ok m ↔ ∃ v, Json.valueOf document = .ok v ∧ ofValue? v = some m := by
  have hread := reads_decodeManifest.document document
  have hok : ∀ {ε α : Type} (x : Except ε α) (a : α), x = .ok a ↔ x.toOption = some a := by
    intro ε α x a
    cases x <;> simp [Except.toOption]
  rw [hok, ofText, hread, Option.bind_eq_some_iff]
  simp only [hok]

theorem mapError_eq_ok_iff {ε ε' β : Type} {x : Except ε β} {f : ε → ε'} {b : β} :
    x.mapError f = .ok b ↔ x = .ok b := by
  cases x <;> simp [Except.mapError]

theorem parse_eq_ok_iff {document : Text} {m : Manifest} :
    parse document = .ok m ↔ ofText document = .ok m :=
  mapError_eq_ok_iff

/-- What is no manifest is malformed. -/
theorem exists_malformed {document : Text} (h : ∀ m, parse document ≠ .ok m) :
    ∃ e, parse document = .error (.malformed e) := by
  rw [parse] at h ⊢
  cases hread : ofText document with
  | ok m => exact absurd (mapError_eq_ok_iff.2 hread) (h m)
  | error e => exact ⟨e, rfl⟩

/-- **A document is a manifest just if the manifest is written there**, its records as objects or as
arrays, and anything else is malformed. -/
theorem parse_exact (document : Text) :
    (∀ m, parse document = .ok m ↔ ∃ v, Json.valueOf document = .ok v ∧ m.WrittenAs v) ∧
      ((∀ (v : Value) (m : Manifest), Json.valueOf document = .ok v → ¬ m.WrittenAs v) →
        ∃ e, parse document = .error (.malformed e)) := by
  have hparse : ∀ m, parse document = .ok m ↔
      ∃ v, Json.valueOf document = .ok v ∧ m.WrittenAs v := by
    intro m
    simp only [parse_eq_ok_iff, ofText_eq_ok_iff, ofValue?_eq_some_iff]
  refine ⟨hparse, fun hno => exists_malformed fun m hm => ?_⟩
  obtain ⟨v, hv, hwritten⟩ := (hparse m).1 hm
  exact hno v m hv hwritten

/-- A function whose one parameter is an array of its first three fields, and a number in the place
of a function. -/
theorem parse_exact_row :
    let row : Value := .array
      [.scalar (.string "x".toList), .scalar .null, .scalar (.string "Int".toList)]
    let v : Value := .object
      [("functions".toList, .array [.object [("name".toList, .scalar (.string "f".toList)),
        ("params".toList, .array [row])]])]
    let m : Manifest := ⟨[⟨"f".toList, [], false, none,
      [⟨"x".toList, none, .bare "Int".toList, none⟩], false, none, []⟩]⟩
    let document :=
      ("\x7b\"functions\":[\x7b\"name\":\"f\",\"params\":[[\"x\",null,\"Int\"]]\x7d]\x7d").toList
    let other := "\x7b\"functions\":[1]\x7d".toList
    Json.valueOf document = .ok v ∧ m.WrittenAs v ∧ parse document = .ok m ∧
      Json.valueOf other = .ok (.object
        [("functions".toList, .array [.scalar (.number (.integer 1))])]) ∧
      ∃ e, parse other = .error (.malformed e) := by
  intro row v m document other
  have hv : Json.valueOf document = .ok v := by decide +kernel
  have hm : m.WrittenAs v := (ofValue?_eq_some_iff v m).1 rfl
  have ho : Json.valueOf other = .ok (.object
      [("functions".toList, .array [.scalar (.number (.integer 1))])]) := by decide +kernel
  refine ⟨hv, hm, ((parse_exact document).1 m).2 ⟨v, hv, hm⟩, ho, (parse_exact other).2 ?_⟩
  intro w m' hw hwritten
  obtain rfl := Except.ok.inj (ho.symm.trans hw)
  cases (ofValue?_eq_some_iff _ m').2 hwritten

/-- **A manifest need not be an object.** An empty array is one without functions. -/
theorem not_all_manifests_objects :
    ¬ ∀ (document : Text) (m : Manifest), parse document = .ok m →
      ∃ ms, Json.valueOf document = .ok (.object ms) := by
  intro h
  have hv : Json.valueOf "[]".toList = .ok (.array []) := by decide +kernel
  have hm : parse "[]".toList = .ok .empty :=
    parse_eq_ok_iff.2 (ofText_eq_ok_iff.2 ⟨_, hv, rfl⟩)
  obtain ⟨ms, hms⟩ := h _ _ hm
  cases hv.symm.trans hms

end Manifest

end SwiftDecl
