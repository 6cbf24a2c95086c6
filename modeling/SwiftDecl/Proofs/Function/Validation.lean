import SwiftDecl.Function.Draft
import SwiftDecl.Proofs.Identifier.Characters
import Mathlib.Data.List.Forall2
import Mathlib.Data.List.Nodup

/-!
# What building accepts, and what it reports

A draft is well formed if its raw texts are: names with a character to make an identifier of, a
generics clause that is not blank, bindings that differ. `FirstFault` says on the same raw texts
which fault is the first. The checks run over normalized names instead, with the bindings met so far
in hand; `parameterFault?_eq_some` and `parameterFault?_eq_none` say what such a run has found when
it ends, early or at the end of the list. Since a draft has one first fault at most, this settles
what is reported (`build_iff`).
-/

namespace SwiftDecl

/-- A raw name that holds a character of which an identifier can be made. -/
def IsNameable (raw : Text) : Prop :=
  ∃ c ∈ raw, isIdentifierChar c

theorem isEmpty_ofName_iff_not {raw : Text} :
    (Identifier.ofName raw).isEmpty = true ↔ ¬ IsNameable raw := by
  rw [Identifier.isEmpty_ofName_iff, IsNameable]
  push Not
  exact Iff.rfl

namespace Draft

/-- A generics clause that is left out or not blank. -/
def GenericsGiven (generics : Option Text) : Prop :=
  ∀ clause ∈ generics, ∃ c ∈ clause, ¬ Unicode.isBlank c

/-- **A draft without faults**, by its raw texts. -/
structure WellFormed (d : Draft) : Prop where
  name : IsNameable d.name
  generics : GenericsGiven d.generics
  labels : ∀ p ∈ d.params, IsNameable p.name
  bindings : (d.params.map Parameter.bindingName).Nodup

/-- **The fault of the parameter at an index**, if there is one. A label that gives no identifier
comes before a clash with an earlier parameter. -/
inductive FaultAt (function : Identifier) (ps : List Parameter) (i : Nat) : Rejection → Prop where
  | label {p : Parameter} (hp : ps[i]? = some p) (h : ¬ IsNameable p.name) :
      FaultAt function ps i (.emptyParameterName function i)
  | binding {p : Parameter} (hp : ps[i]? = some p) (h : IsNameable p.name)
      (hclash : p.bindingName ∈ (ps.take i).map Parameter.bindingName) :
      FaultAt function ps i (.duplicateParameter function p.bindingName)

/-- **The first fault of a draft**: the name, then the generics clause, then the parameter of least
index. -/
inductive FirstFault (d : Draft) : Rejection → Prop where
  | name (h : ¬ IsNameable d.name) : FirstFault d (.emptyName d.name)
  | generics (hname : IsNameable d.name) (h : ¬ GenericsGiven d.generics) :
      FirstFault d (.emptyGenerics d.identifier)
  | param {i : Nat} {r : Rejection} (hname : IsNameable d.name) (hgen : GenericsGiven d.generics)
      (hmin : ∀ j < i, ∀ r, ¬ FaultAt d.identifier d.params j r)
      (h : FaultAt d.identifier d.params i r) : FirstFault d r

variable {function : Identifier} {ps before more : List Parameter} {p : Parameter} {i : Nat}
variable {bound : List Text} {r r' : Rejection}

/-! ## Faults of parameters -/

theorem FaultAt.lt_length (h : FaultAt function ps i r) : i < ps.length := by
  rcases h with ⟨hp, -⟩ | ⟨hp, -, -⟩ <;> exact (List.getElem?_eq_some_iff.1 hp).1

/-- The parameter at an index has one fault at most. -/
theorem FaultAt.unique (h : FaultAt function ps i r) (h' : FaultAt function ps i r') : r = r' := by
  rcases h with ⟨hp, hn⟩ | ⟨hp, hn, -⟩ <;> rcases h' with ⟨hp', hn'⟩ | ⟨hp', hn', -⟩ <;>
    obtain rfl := Option.some.inj (hp.symm.trans hp')
  · rfl
  · exact absurd hn' hn
  · exact absurd hn hn'
  · rfl

/-- A fault depends on the parameters up to it and on none after it. -/
theorem faultAt_append (hi : i < ps.length) :
    FaultAt function (ps ++ more) i r ↔ FaultAt function ps i r := by
  have hget : (ps ++ more)[i]? = ps[i]? := List.getElem?_append_left hi
  have htake : (ps ++ more).take i = ps.take i := List.take_append_of_le_length (Nat.le_of_lt hi)
  constructor
  · rintro (⟨hp, h⟩ | ⟨hp, h, hclash⟩)
    · exact .label (hget ▸ hp) h
    · exact .binding (hget ▸ hp) h (htake ▸ hclash)
  · rintro (⟨hp, h⟩ | ⟨hp, h, hclash⟩)
    · exact .label (hget.trans hp) h
    · exact .binding (hget.trans hp) h (htake.symm ▸ hclash)

/-- The fault of the parameter that comes next. -/
theorem faultAt_length :
    FaultAt function (before ++ p :: more) before.length r ↔
      (¬ IsNameable p.name ∧ r = .emptyParameterName function before.length) ∨
      (IsNameable p.name ∧ p.bindingName ∈ before.map Parameter.bindingName ∧
        r = .duplicateParameter function p.bindingName) := by
  have hget : (before ++ p :: more)[before.length]? = some p := by simp
  have htake : (before ++ p :: more).take before.length = before := List.take_left' rfl
  constructor
  · rintro (⟨hp, h⟩ | ⟨hp, h, hclash⟩) <;> obtain rfl := Option.some.inj (hget.symm.trans hp)
    · exact Or.inl ⟨h, rfl⟩
    · exact Or.inr ⟨h, htake ▸ hclash, rfl⟩
  · rintro (⟨h, rfl⟩ | ⟨h, hclash, rfl⟩)
    · exact .label hget h
    · exact .binding hget h (htake.symm ▸ hclash)

/-- The bindings before an index are those at smaller indices. -/
theorem mem_bindings_take_iff {n : Text} :
    n ∈ (ps.take i).map Parameter.bindingName ↔
      ∃ j < i, (ps.map Parameter.bindingName)[j]? = some n := by
  rw [List.map_take, List.mem_iff_getElem?]
  constructor
  · rintro ⟨j, hj⟩
    have hji : j < i := by
      by_contra hge
      rw [List.getElem?_take_eq_none (by omega)] at hj
      cases hj
    rw [List.getElem?_take_of_lt hji] at hj
    exact ⟨j, hji, hj⟩
  · rintro ⟨j, hji, hj⟩
    exact ⟨j, (List.getElem?_take_of_lt hji).trans hj⟩

/-- **Parameters without faults**: every label gives an identifier, and the bindings differ. -/
theorem forall_not_faultAt_iff :
    (∀ i r, ¬ FaultAt function ps i r) ↔
      (∀ p ∈ ps, IsNameable p.name) ∧ (ps.map Parameter.bindingName).Nodup := by
  constructor
  · intro h
    have hlabels : ∀ p ∈ ps, IsNameable p.name := by
      intro p hp
      obtain ⟨i, hi⟩ := List.mem_iff_getElem?.1 hp
      exact by_contra fun hn => h i _ (.label hi hn)
    refine ⟨hlabels, List.nodup_iff_getElem?_ne_getElem?.2 fun i j hij hj heq => ?_⟩
    -- two equal bindings are a clash at the later one
    rw [List.length_map] at hj
    have hget : ps[j]? = some ps[j] := List.getElem?_eq_getElem hj
    refine h j _ (.binding hget (hlabels _ (List.getElem_mem hj)) (mem_bindings_take_iff.2 ?_))
    exact ⟨i, hij, by rw [heq, List.getElem?_map, hget]; rfl⟩
  · rintro ⟨hlabels, hnodup⟩ i r (⟨hp, hn⟩ | ⟨hp, -, hclash⟩)
    · exact hn (hlabels _ (List.mem_of_getElem? hp))
    · obtain ⟨j, hji, hj⟩ := mem_bindings_take_iff.1 hclash
      have hi : i < (ps.map Parameter.bindingName).length := by
        rw [List.length_map]
        exact (List.getElem?_eq_some_iff.1 hp).1
      refine List.nodup_iff_getElem?_ne_getElem?.1 hnodup j i hji hi ?_
      rw [hj, List.getElem?_map, hp]
      rfl

/-! ## The run over the parameters

Of the parameters before the current one the run remembers the number and the bindings. -/

/-- The bindings remembered after one more parameter. -/
theorem mem_bound_cons (hbound : ∀ n, n ∈ bound ↔ n ∈ before.map Parameter.bindingName) (n : Text) :
    n ∈ p.bindingName :: bound ↔ n ∈ (before ++ [p]).map Parameter.bindingName := by
  rw [List.mem_cons, hbound, List.map_append, List.mem_append, List.map_singleton,
    List.mem_singleton, or_comm]

/-- One step of the run: it ends at a fault of the current parameter and goes on without one. -/
theorem parameterFault?_cons (p : Parameter) (more : List Parameter)
    (hbound : ∀ n, n ∈ bound ↔ n ∈ before.map Parameter.bindingName) :
    (∃ r, FaultAt function (before ++ p :: more) before.length r ∧
      parameterFault? function before.length bound (p :: more) = some r) ∨
    ((∀ r, ¬ FaultAt function (before ++ p :: more) before.length r) ∧
      parameterFault? function before.length bound (p :: more)
        = parameterFault? function (before ++ [p]).length (p.bindingName :: bound) more) := by
  rw [parameterFault?]
  split
  · rename_i hlabel
    exact Or.inl ⟨_, faultAt_length.2 (Or.inl ⟨isEmpty_ofName_iff_not.1 hlabel, rfl⟩), rfl⟩
  rename_i hlabel
  have hname : IsNameable p.name := not_not.1 fun h => hlabel (isEmpty_ofName_iff_not.2 h)
  split
  · rename_i hclash
    rw [List.contains_iff_mem, hbound] at hclash
    exact Or.inl ⟨_, faultAt_length.2 (Or.inr ⟨hname, hclash, rfl⟩), rfl⟩
  · rename_i hclash
    rw [List.contains_iff_mem, hbound] at hclash
    refine Or.inr ⟨fun r hr => ?_, by rw [List.length_append]; rfl⟩
    rcases faultAt_length.1 hr with ⟨h, -⟩ | ⟨-, h, -⟩
    · exact h hname
    · exact hclash h

/-- **A run that ends early has found a fault, and the first one.** -/
theorem parameterFault?_eq_some (before : List Parameter)
    (hbound : ∀ n, n ∈ bound ↔ n ∈ before.map Parameter.bindingName)
    (h : parameterFault? function before.length bound ps = some r) :
    ∃ i, FaultAt function (before ++ ps) i r ∧
      ∀ j, before.length ≤ j → j < i → ∀ r', ¬ FaultAt function (before ++ ps) j r' := by
  induction ps generalizing before bound with
  | nil => cases h
  | cons p more ih =>
    rcases parameterFault?_cons p more hbound with ⟨r₀, hr₀, heq⟩ | ⟨hno, heq⟩
    · obtain rfl : r₀ = r := Option.some.inj (heq.symm.trans h)
      exact ⟨before.length, hr₀, fun j hle hlt => absurd hle (by omega)⟩
    · obtain ⟨i, hi, hmin⟩ := ih _ (mem_bound_cons hbound) (heq.symm.trans h)
      rw [List.append_assoc, List.singleton_append] at hi hmin
      refine ⟨i, hi, fun j hle hlt => ?_⟩
      -- the current parameter has no fault, and those after it are the induction's
      rcases Nat.eq_or_lt_of_le hle with rfl | hgt
      · exact hno
      · exact hmin j (by rw [List.length_append]; exact hgt) hlt

/-- **A run that reaches the end has met no fault.** -/
theorem parameterFault?_eq_none (before : List Parameter)
    (hbound : ∀ n, n ∈ bound ↔ n ∈ before.map Parameter.bindingName)
    (h : parameterFault? function before.length bound ps = none) :
    ∀ j, before.length ≤ j → ∀ r, ¬ FaultAt function (before ++ ps) j r := by
  induction ps generalizing before bound with
  | nil =>
    -- all parameters are behind, and no index is left
    intro j hle r hr
    have hlt := hr.lt_length
    rw [List.append_nil] at hlt
    omega
  | cons p more ih =>
    rcases parameterFault?_cons p more hbound with ⟨r₀, -, heq⟩ | ⟨hno, heq⟩
    · rw [heq] at h
      cases h
    · have hrest := ih _ (mem_bound_cons hbound) (heq.symm.trans h)
      rw [List.append_assoc, List.singleton_append] at hrest
      intro j hle
      rcases Nat.eq_or_lt_of_le hle with rfl | hgt
      · exact hno
      · exact hrest j (by rw [List.length_append]; exact hgt)

/-- Of the parameters a run reads nothing but the labels, as identifiers, and the bindings. -/
theorem parameterFault?_congr {qs : List Parameter} (index : Nat)
    (h : List.Forall₂ (fun p q => p.identifier = q.identifier ∧ p.bindingName = q.bindingName)
      ps qs) :
    parameterFault? function index bound ps = parameterFault? function index bound qs := by
  induction h generalizing index bound with
  | nil => rfl
  | cons h _ ih => rw [parameterFault?, parameterFault?, h.1, h.2, ih]

/-! ## The first fault -/

variable {d : Draft}

theorem any_isBlank_iff {generics : Option Text} :
    generics.any Text.isBlank = true ↔ ¬ GenericsGiven generics := by
  cases generics with
  | none => simp [GenericsGiven]
  | some clause => simp [GenericsGiven, Text.isBlank]

/-- **A draft has one first fault at most.** -/
theorem FirstFault.unique (h : d.FirstFault r) (h' : d.FirstFault r') : r = r' := by
  cases h with
  | name hn =>
    cases h' with
    | name => rfl
    | generics hn' => exact absurd hn' hn
    | param hn' => exact absurd hn' hn
  | generics hn hg =>
    cases h' with
    | name hn' => exact absurd hn hn'
    | generics => rfl
    | param _ hg' => exact absurd hg' hg
  | @param i _ hn hg hmin hi =>
    cases h' with
    | name hn' => exact absurd hn hn'
    | generics _ hg' => exact absurd hg hg'
    | @param i' _ _ _ hmin' hi' =>
      -- each is the least index with a fault, so they are one
      rcases Nat.lt_trichotomy i i' with hlt | rfl | hlt
      · exact absurd hi (hmin' i hlt _)
      · exact hi.unique hi'
      · exact absurd hi' (hmin i' hlt _)

/-- A well-formed draft has no fault. -/
theorem WellFormed.not_firstFault (h : d.WellFormed) : ¬ d.FirstFault r := by
  rintro (hn | ⟨-, hg⟩ | ⟨-, -, -, hi⟩)
  · exact hn h.name
  · exact hg h.generics
  · exact forall_not_faultAt_iff.2 ⟨h.labels, h.bindings⟩ _ _ hi

theorem fault?_eq_some (h : d.fault? = some r) : d.FirstFault r := by
  unfold fault? at h
  split at h
  · rename_i hname
    cases h
    exact .name (isEmpty_ofName_iff_not.1 hname)
  rename_i hname
  have hname : IsNameable d.name := not_not.1 fun hn => hname (isEmpty_ofName_iff_not.2 hn)
  split at h
  · rename_i hgen
    cases h
    exact .generics hname (any_isBlank_iff.1 hgen)
  · rename_i hgen
    obtain ⟨i, hi, hmin⟩ := parameterFault?_eq_some [] (by simp) h
    exact .param hname (not_not.1 fun hg => hgen (any_isBlank_iff.2 hg))
      (fun j hj => hmin j (Nat.zero_le j) hj) hi

theorem fault?_eq_none (h : d.fault? = none) : d.WellFormed := by
  unfold fault? at h
  split at h
  · cases h
  rename_i hname
  split at h
  · cases h
  · rename_i hgen
    have hno := parameterFault?_eq_none [] (by simp) h
    obtain ⟨hlabels, hbindings⟩ := forall_not_faultAt_iff.1 fun j => hno j (Nat.zero_le j)
    exact ⟨not_not.1 fun hn => hname (isEmpty_ofName_iff_not.2 hn),
      not_not.1 fun hg => hgen (any_isBlank_iff.2 hg), hlabels, hbindings⟩

theorem fault?_eq_some_iff : d.fault? = some r ↔ d.FirstFault r := by
  refine ⟨fault?_eq_some, fun h => ?_⟩
  cases hfault : d.fault? with
  | none => exact absurd h (fault?_eq_none hfault).not_firstFault
  | some r₀ => rw [(fault?_eq_some hfault).unique h]

theorem fault?_eq_none_iff : d.fault? = none ↔ d.WellFormed := by
  refine ⟨fault?_eq_none, fun h => ?_⟩
  cases hfault : d.fault? with
  | none => rfl
  | some r => exact absurd (fault?_eq_some hfault) h.not_firstFault

/-- A label without characters comes before a clash at a later index. -/
example :
    ((Draft.named "load".toList).edited (.params
      [.named "id".toList .int, .named "-".toList .int, .named "id".toList .int])).fault?
      = some (.emptyParameterName (.ofName "load".toList) 1) := by
  decide

/-! ## Building -/

/-- The function of a draft, with the name made an identifier. -/
def finished (d : Draft) : Function :=
  ⟨d.comments, d.isStatic, d.identifier, d.generics, d.params, d.throws, d.returns, d.body⟩

theorem build_eq_error_iff_fault? : d.build = .error r ↔ d.fault? = some r := by
  unfold build
  cases d.fault? <;> simp

theorem build_eq_ok_iff {f : Function} : d.build = .ok f ↔ d.fault? = none ∧ f = d.finished := by
  unfold build
  cases d.fault? <;> simp [finished, eq_comm]

/-- What is built is the draft, finished. -/
theorem eq_finished_of_build {f : Function} (h : d.build = .ok f) : f = d.finished :=
  (build_eq_ok_iff.1 h).2

theorem build_eq_error_iff : d.build = .error r ↔ d.FirstFault r :=
  build_eq_error_iff_fault?.trans fault?_eq_some_iff

theorem exists_build_eq_ok_iff : (∃ f, d.build = .ok f) ↔ d.WellFormed := by
  rw [← fault?_eq_none_iff]
  constructor
  · rintro ⟨f, hf⟩
    exact (build_eq_ok_iff.1 hf).1
  · intro hnone
    exact ⟨d.finished, build_eq_ok_iff.2 ⟨hnone, rfl⟩⟩

/-- Further parameters leave the first fault what it is. -/
theorem FirstFault.params (h : d.FirstFault r) (ps : List Parameter) :
    (d.edited (.params ps)).FirstFault r := by
  rcases h with ⟨hn⟩ | ⟨hn, hg⟩ | ⟨hn, hg, hmin, hi⟩
  · exact .name hn
  · exact .generics hn hg
  · have hlt := hi.lt_length
    refine .param hn hg (fun j hj r hr => ?_) ((faultAt_append hlt).2 hi)
    exact hmin j hj r ((faultAt_append (by omega)).1 hr)

/-- **Building accepts exactly the well-formed drafts and reports the first fault of any other**,
which adding parameters does not change. -/
theorem build_iff (d : Draft) :
    ((∃ f, d.build = .ok f) ↔ d.WellFormed) ∧
      (∀ r, d.build = .error r ↔ d.FirstFault r) ∧
      ∀ r ps, d.build = .error r → (d.edited (.params ps)).build = .error r := by
  refine ⟨exists_build_eq_ok_iff, fun r => build_eq_error_iff, fun r ps h => ?_⟩
  exact build_eq_error_iff.2 ((build_eq_error_iff.1 h).params ps)

end Draft

end SwiftDecl
