import SwiftDecl.Manifest.Loading
import SwiftDecl.Proofs.Manifest.Conversion

/-!
# Converting a manifest, in order and as a whole

The entries are converted one after the other, up to the first that is rejected. What that entry
gives stands for the whole, whatever comes after it; the index from which entries are counted moves
the reported index and nothing else (`functionsFrom_add`). So two lists of entries in a row are
converted as if each were alone (`functionsFrom_append`), and the declarations of a manifest are
settled for every manifest (`declarations_traverse`).
-/

namespace SwiftDecl

namespace Manifest

variable {index i : Nat} {spec : FunctionSpec} {specs : List FunctionSpec}
variable {m : Manifest} {s : DeclarationSet} {r : Rejection}

/-- **The first entry that is rejected**, and why: all entries before it give functions. -/
structure FirstRejected (specs : List FunctionSpec) (i : Nat) (r : Rejection) : Prop where
  rejected : ∃ spec, specs[i]? = some spec ∧ spec.toFunction = .error r
  accepted : ∀ j < i, ∀ spec, specs[j]? = some spec → ∃ f, spec.toFunction = .ok f

theorem not_firstRejected_nil : ¬ FirstRejected [] i r := by
  rintro ⟨⟨spec, hspec, -⟩, -⟩
  cases hspec

/-- The first rejected entry is the one in front, or that one is accepted and the first rejected
entry is behind it. -/
theorem firstRejected_cons_iff :
    FirstRejected (spec :: specs) i r ↔
      i = 0 ∧ spec.toFunction = .error r ∨
        ∃ j, i = j + 1 ∧ (∃ f, spec.toFunction = .ok f) ∧ FirstRejected specs j r := by
  constructor
  · rintro ⟨⟨bad, hbad, herror⟩, hbefore⟩
    cases i with
    | zero =>
      obtain rfl : spec = bad := Option.some.inj hbad
      exact .inl ⟨rfl, herror⟩
    | succ j =>
      refine .inr ⟨j, rfl, hbefore 0 (Nat.succ_pos j) spec rfl, ⟨bad, hbad, herror⟩, ?_⟩
      intro k hk other hother
      exact hbefore (k + 1) (Nat.succ_lt_succ hk) other hother
  · rintro (⟨rfl, herror⟩ | ⟨j, rfl, hfirst, ⟨bad, hbad, herror⟩, hbefore⟩)
    · exact ⟨⟨spec, rfl, herror⟩, fun j hj => absurd hj (Nat.not_lt_zero j)⟩
    · refine ⟨⟨bad, hbad, herror⟩, fun k hk other hother => ?_⟩
      cases k with
      | zero =>
        obtain rfl : spec = other := Option.some.inj hother
        exact hfirst
      | succ k => exact hbefore k (Nat.lt_of_succ_lt_succ hk) other hother

/-! ## Entries in a row -/

theorem functionsFrom_cons_of_error (h : spec.toFunction = .error r) :
    functionsFrom index (spec :: specs) = .error (index, r) := by
  rw [functionsFrom, h]

theorem functionsFrom_cons_of_ok {f : Function} (h : spec.toFunction = .ok f) :
    functionsFrom index (spec :: specs) = (functionsFrom (index + 1) specs).map (f :: ·) := by
  rw [functionsFrom, h]

theorem map_eq_error_iff {ε α β : Type} {g : α → β} {x : Except ε α} {e : ε} :
    x.map g = .error e ↔ x = .error e := by
  cases x <;> simp [Except.map]

/-- **A conversion fails at the first rejected entry**, and reports its index and rejection. -/
theorem functionsFrom_eq_error_iff {k : Nat} :
    functionsFrom index specs = .error (k, r) ↔
      ∃ i, k = index + i ∧ FirstRejected specs i r := by
  induction specs generalizing index with
  | nil => simp [functionsFrom_nil, not_firstRejected_nil]
  | cons spec specs ih =>
    simp only [firstRejected_cons_iff]
    cases hspec : spec.toFunction with
    | error r' =>
      rw [functionsFrom_cons_of_error hspec, Except.error.injEq, Prod.mk.injEq]
      constructor
      · rintro ⟨rfl, rfl⟩
        exact ⟨0, rfl, .inl ⟨rfl, rfl⟩⟩
      · rintro ⟨i, rfl, ⟨rfl, hr⟩ | ⟨j, -, ⟨f, hf⟩, -⟩⟩
        · exact ⟨rfl, Except.error.inj hr⟩
        · cases hf
    | ok f =>
      rw [functionsFrom_cons_of_ok hspec, map_eq_error_iff, ih]
      constructor
      · rintro ⟨i, rfl, hi⟩
        exact ⟨i + 1, by omega, .inr ⟨i, rfl, ⟨f, rfl⟩, hi⟩⟩
      · rintro ⟨i, rfl, ⟨-, hr⟩ | ⟨j, rfl, -, hj⟩⟩
        · cases hr
        · exact ⟨j, by omega, hj⟩

/-- Counting from another index moves the reported index and nothing else. -/
theorem functionsFrom_add (n : Nat) (specs : List FunctionSpec) :
    functionsFrom (index + n) specs
      = (functionsFrom index specs).mapError fun (i, r) => (i + n, r) := by
  induction specs generalizing index with
  | nil => rfl
  | cons spec specs ih =>
    cases hspec : spec.toFunction with
    | error r =>
      rw [functionsFrom_cons_of_error hspec, functionsFrom_cons_of_error hspec, Except.mapError]
    | ok f =>
      rw [functionsFrom_cons_of_ok hspec, functionsFrom_cons_of_ok hspec, Nat.add_right_comm, ih]
      cases functionsFrom (index + 1) specs <;> rfl

/-- **Entries in a row** are converted one list after the other, the second list only if all of the
first is accepted. -/
theorem functionsFrom_append (specs others : List FunctionSpec) :
    functionsFrom index (specs ++ others)
      = (functionsFrom index specs).bind fun fs =>
          (functionsFrom (index + specs.length) others).map (fs ++ ·) := by
  induction specs generalizing index with
  | nil =>
    change functionsFrom index others = (functionsFrom index others).map ([] ++ ·)
    cases functionsFrom index others <;> rfl
  | cons spec specs ih =>
    rw [List.cons_append]
    cases hspec : spec.toFunction with
    | error r =>
      rw [functionsFrom_cons_of_error hspec, functionsFrom_cons_of_error hspec, Except.bind]
    | ok f =>
      rw [functionsFrom_cons_of_ok hspec, functionsFrom_cons_of_ok hspec, ih, List.length_cons,
        Nat.add_right_comm index 1, Nat.add_assoc]
      cases functionsFrom (index + 1) specs with
      | error e => rfl
      | ok fs =>
        change ((functionsFrom _ others).map (fs ++ ·)).map (f :: ·)
          = (functionsFrom _ others).map (f :: fs ++ ·)
        cases functionsFrom (index + (specs.length + 1)) others <;> rfl

/-! ## Declarations -/

/-- The entries of a manifest and then those of another one. -/
def followedBy (m more : Manifest) : Manifest :=
  ⟨m.functions ++ more.functions⟩

/-- The error for a manifest that stands behind a number of entries. -/
def LoadError.behind (n : Nat) : LoadError → LoadError
  | invalid index r => invalid (n + index) r
  | e => e

theorem declarations_eq_ok_iff :
    m.declarations = .ok s ↔
      m.functions.map FunctionSpec.toFunction = s.functions.map .ok := by
  have hto : m.declarations = .ok s ↔ m.toDeclarations = .ok s := by
    rw [declarations]
    cases m.toDeclarations <;> simp [Except.mapError]
  rw [hto, toDeclarations_eq_ok_iff, ← List.forall₂_eq_eq_eq, List.forall₂_map_left_iff,
    List.forall₂_map_right_iff]

theorem declarations_eq_error_iff {e : LoadError} :
    m.declarations = .error e ↔ ∃ i r, e = .invalid i r ∧ FirstRejected m.functions i r := by
  have hfrom : m.declarations = .error e ↔
      ∃ i r, functionsFrom 0 m.functions = .error (i, r) ∧ e = .invalid i r := by
    rw [declarations, toDeclarations]
    cases functionsFrom 0 m.functions with
    | error failure =>
      obtain ⟨i, r⟩ := failure
      simp [Except.map, Except.mapError, eq_comm]
    | ok fs => simp [Except.map, Except.mapError]
  simp only [hfrom, functionsFrom_eq_error_iff, Nat.zero_add, exists_eq_left']
  simp only [and_comm]

theorem exists_declarations_eq_ok_iff :
    (∃ s, m.declarations = .ok s) ↔ ∀ spec ∈ m.functions, ∃ f, spec.toFunction = .ok f := by
  constructor
  · rintro ⟨s, hs⟩ spec hspec
    have hmem : spec.toFunction ∈ s.functions.map Except.ok :=
      declarations_eq_ok_iff.1 hs ▸ List.mem_map_of_mem hspec
    obtain ⟨f, -, hf⟩ := List.mem_map.1 hmem
    exact ⟨f, hf.symm⟩
  · intro h
    cases hm : m.declarations with
    | ok s => exact ⟨s, rfl⟩
    | error e =>
      -- an error names an entry that gives no function
      obtain ⟨i, r, -, ⟨spec, hspec, herror⟩, -⟩ := declarations_eq_error_iff.1 hm
      obtain ⟨f, hf⟩ := h spec (List.mem_of_getElem? hspec)
      rw [herror] at hf
      cases hf

/-- Two manifests in a row are converted as each alone, and a failure of the second is reported
behind the entries of the first. -/
theorem declarations_followedBy (m more : Manifest) :
    (m.followedBy more).declarations
      = match m.declarations, more.declarations with
        | .error e, _ => .error e
        | .ok _, .error e => .error (e.behind m.functions.length)
        | .ok s, .ok t => .ok ⟨s.functions ++ t.functions⟩ := by
  simp only [declarations, toDeclarations, followedBy, functionsFrom_append, functionsFrom_add]
  cases functionsFrom 0 m.functions with
  | error failure => rfl
  | ok fs =>
    cases functionsFrom 0 more.functions with
    | error failure =>
      obtain ⟨i, r⟩ := failure
      simp [Except.bind, Except.map, Except.mapError, LoadError.behind, Nat.add_comm]
    | ok gs => rfl

/-- **A manifest is converted in order and as a whole.** There are declarations exactly if every
entry gives a function, and then they are the functions of the entries, one by one and in their
order. Else the error carries the index and the rejection of the first entry that is rejected, and
the entries behind it have no part in it. So the entries of a second manifest add their functions,
or report their failure behind the first manifest, and only if all of that has been accepted. -/
theorem declarations_traverse (m : Manifest) :
    ((∃ s, m.declarations = .ok s) ↔ ∀ spec ∈ m.functions, ∃ f, spec.toFunction = .ok f) ∧
    (∀ s, m.declarations = .ok s ↔
      m.functions.map FunctionSpec.toFunction = s.functions.map .ok) ∧
    (∀ e, m.declarations = .error e ↔
      ∃ i r, e = .invalid i r ∧ FirstRejected m.functions i r) ∧
    ∀ more : Manifest, (m.followedBy more).declarations
      = match m.declarations, more.declarations with
        | .error e, _ => .error e
        | .ok _, .error e => .error (e.behind m.functions.length)
        | .ok s, .ok t => .ok ⟨s.functions ++ t.functions⟩ :=
  ⟨exists_declarations_eq_ok_iff, fun _ => declarations_eq_ok_iff,
    fun _ => declarations_eq_error_iff, declarations_followedBy m⟩

end Manifest

end SwiftDecl
