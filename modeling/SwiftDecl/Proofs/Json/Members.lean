import SwiftDecl.Json.Members
import Mathlib.Data.List.Nodup
import Mathlib.Data.List.Perm.Basic

/-!
# Looking members up

Members that fit have distinct keys (`fits_iff`), and so a key is found where it stands, wherever
that is (`lookup_eq_some_iff`). What is read off such members by looking keys up says what the
members have (`required_eq_some_iff`, `given_eq_some_iff`) and does not depend on their order
(`lookup_perm`).
-/

namespace SwiftDecl

namespace Json

variable {α β γ : Type} {keys : List String} {key key' : String} {ms ms' : List (Text × β)}
variable {read : β → Option α} {absent a : α} {b : β}

/-! ## What members have -/

/-- Members under the keys of a list and no others, each key once. -/
structure OnlyKeys (keys : List String) (ms : List (Text × β)) : Prop where
  nodup : (ms.map Prod.fst).Nodup
  known : ∀ k ∈ ms.map Prod.fst, k ∈ keys.map String.toList

/-- A member under a key, of a kind. -/
def Has (key : String) (kind : β → Prop) (ms : List (Text × β)) : Prop :=
  ∃ b, (key.toList, b) ∈ ms ∧ kind b

/-- No member under a key. -/
def Lacks (key : String) (ms : List (Text × β)) : Prop :=
  key.toList ∉ ms.map Prod.fst

instance (key : String) (ms : List (Text × β)) : Decidable (Lacks key ms) :=
  inferInstanceAs (Decidable (key.toList ∉ ms.map Prod.fst))

/-- A member under a key, of a kind, or none and then what holds by default. -/
def HasOr (key : String) (kind : β → Prop) (byDefault : Prop) (ms : List (Text × β)) : Prop :=
  Has key kind ms ∨ Lacks key ms ∧ byDefault

/-! ## Keys -/

theorem mem_keys {m : Text × β} (h : m ∈ ms) : m.1 ∈ ms.map Prod.fst :=
  List.mem_map_of_mem h

/-- **Members that fit**: no two under one key, and none under a foreign key. -/
theorem fits_iff : fits keys ms = true ↔ OnlyKeys keys ms := by
  induction ms with
  | nil => exact ⟨fun _ => ⟨List.nodup_nil, fun k hk => nomatch hk⟩, fun _ => rfl⟩
  | cons m ms ih =>
    have hknown : keys.any (·.toList == m.1) = true ↔ m.1 ∈ keys.map String.toList := by simp
    have hnew : ms.all (fun n => n.1 != m.1) = true ↔ m.1 ∉ ms.map Prod.fst := by
      simp only [List.all_eq_true, bne_iff_ne, List.mem_map, not_exists, not_and]
    rw [fits, Bool.and_eq_true, Bool.and_eq_true, hknown, hnew, ih]
    constructor
    · rintro ⟨⟨hk, hn⟩, hms⟩
      exact ⟨List.nodup_cons.2 ⟨hn, hms.nodup⟩, List.forall_mem_cons.2 ⟨hk, hms.known⟩⟩
    · rintro ⟨hnodup, hall⟩
      obtain ⟨hn, hnodup⟩ := List.nodup_cons.1 hnodup
      obtain ⟨hk, hall⟩ := List.forall_mem_cons.1 hall
      exact ⟨⟨hk, hn⟩, hnodup, hall⟩

/-- Only the keys decide whether members fit, and not their order. -/
theorem fits_eq_of_keys {ns : List (Text × γ)} (h : (ms.map Prod.fst).Perm (ns.map Prod.fst)) :
    fits keys ms = fits keys ns := by
  rw [Bool.eq_iff_iff, fits_iff, fits_iff]
  constructor
  · rintro ⟨hnodup, hknown⟩
    exact ⟨h.nodup_iff.1 hnodup, fun k hk => hknown k (h.mem_iff.2 hk)⟩
  · rintro ⟨hnodup, hknown⟩
    exact ⟨h.nodup_iff.2 hnodup, fun k hk => hknown k (h.mem_iff.1 hk)⟩

/-- A member under a key of its own neither mends nor spoils the others. -/
theorem fits_cons (hkey : key ∈ keys) (hnew : Lacks key ms) :
    fits keys ((key.toList, b) :: ms) = fits keys ms := by
  have hany : keys.any (·.toList == key.toList) = true :=
    List.any_eq_true.2 ⟨key, hkey, beq_self_eq_true _⟩
  have hall : ms.all (fun m => m.1 != key.toList) = true :=
    List.all_eq_true.2 fun m hm => bne_iff_ne.2 fun h => hnew (h ▸ mem_keys hm)
  rw [fits, hany, hall, Bool.true_and, Bool.true_and]

theorem lacks_cons_iff {k : Text} :
    Lacks key ((k, b) :: ms) ↔ key.toList ≠ k ∧ Lacks key ms := by
  simp only [Lacks, List.map_cons, List.mem_cons, not_or, ne_eq]

/-- Members under known keys fit if the first has a key of its own and the others fit. -/
theorem fits_cons_iff (hkey : key ∈ keys) :
    fits keys ((key.toList, b) :: ms) = true ↔ fits keys ms = true ∧ Lacks key ms := by
  constructor
  · intro h
    obtain ⟨hnodup, hknown⟩ := fits_iff.1 h
    obtain ⟨hnew, hnodup⟩ := List.nodup_cons.1 hnodup
    exact ⟨fits_iff.2 ⟨hnodup, fun k hk => hknown k (List.mem_cons_of_mem _ hk)⟩, hnew⟩
  · rintro ⟨h, hnew⟩
    rwa [fits_cons hkey hnew]

/-- A member under a foreign key spoils all. -/
theorem fits_of_foreign {k : Text} (hk : k ∈ ms.map Prod.fst)
    (hforeign : k ∉ keys.map String.toList) : fits keys ms = false := by
  rw [Bool.eq_false_iff]
  exact fun h => hforeign ((fits_iff.1 h).known k hk)

/-! ## Values -/

theorem lookup_cons_self : lookup key ((key.toList, b) :: ms) = some b := by
  simp [lookup]

theorem lookup_cons_of_ne {k : Text} (h : k ≠ key.toList) :
    lookup key ((k, b) :: ms) = lookup key ms := by
  simp [lookup, h]

/-- Nothing is found under a key that is not there. -/
theorem lookup_eq_none_iff : lookup key ms = none ↔ Lacks key ms := by
  simp only [Lacks, lookup, Option.map_eq_none_iff, List.find?_eq_none, beq_iff_eq, List.mem_map,
    not_exists, not_and]

/-- **What is found under a key stands there**, if no other member does. -/
theorem lookup_eq_some_iff (h : (ms.map Prod.fst).Nodup) :
    lookup key ms = some b ↔ (key.toList, b) ∈ ms := by
  induction ms with
  | nil => simp [lookup]
  | cons m ms ih =>
    obtain ⟨k, c⟩ := m
    obtain ⟨hnew, hnodup⟩ : k ∉ ms.map Prod.fst ∧ (ms.map Prod.fst).Nodup := List.nodup_cons.1 h
    by_cases hk : k = key.toList
    · subst hk
      have hnot : (key.toList, b) ∉ ms := fun hmem => hnew (mem_keys hmem)
      rw [lookup_cons_self, List.mem_cons, or_iff_left hnot, Option.some.injEq, Prod.mk.injEq]
      exact ⟨fun h => ⟨rfl, h.symm⟩, fun h => h.2.symm⟩
    · have hne : (key.toList, b) ≠ (k, c) := fun h => hk (congrArg Prod.fst h).symm
      rw [lookup_cons_of_ne hk, ih hnodup, List.mem_cons, or_iff_right hne]

/-- **Looking up does not depend on the order** of members with distinct keys. -/
theorem lookup_perm (h : ms.Perm ms') (hnodup : (ms.map Prod.fst).Nodup) :
    lookup key ms = lookup key ms' := by
  have hnodup' : (ms'.map Prod.fst).Nodup := (h.map _).nodup_iff.1 hnodup
  ext b
  rw [lookup_eq_some_iff hnodup, lookup_eq_some_iff hnodup', h.mem_iff]

theorem lookup_map (f : β → γ) :
    lookup key (ms.map fun m => (m.1, f m.2)) = (lookup key ms).map f := by
  simp only [lookup, List.find?_map, Option.map_map]
  rfl

/-! ## Reading -/

/-- A required member is there, and is of the kind that is read so. -/
theorem required_eq_some_iff {kind : β → Prop} (hkind : ∀ b, read b = some a ↔ kind b)
    (h : (ms.map Prod.fst).Nodup) : required key read ms = some a ↔ Has key kind ms := by
  simp only [Has, required, Option.bind_eq_some_iff, lookup_eq_some_iff h, hkind]

/-- Another member is there and is of that kind, or it is not there and something stands in for
it. -/
theorem given_eq_some_iff {kind : β → Prop} (hkind : ∀ b, read b = some a ↔ kind b)
    (h : (ms.map Prod.fst).Nodup) :
    given key read absent ms = some a ↔ HasOr key kind (a = absent) ms := by
  unfold given HasOr
  cases hl : lookup key ms with
  | none =>
    have hlacks := lookup_eq_none_iff.1 hl
    have hnot : ¬ Has key kind ms := fun ⟨b, hb, _⟩ => hlacks (mem_keys hb)
    rw [or_iff_right hnot, Option.some.injEq, eq_comm]
    exact ⟨fun h => ⟨hlacks, h⟩, And.right⟩
  | some b =>
    have hb := (lookup_eq_some_iff h).1 hl
    have hlacks : ¬ Lacks key ms := not_not.2 (mem_keys hb)
    rw [or_iff_left fun hno => hlacks hno.1]
    refine (hkind b).trans ⟨fun hread => ⟨b, hb, hread⟩, fun ⟨c, hc, hread⟩ => ?_⟩
    rwa [Option.some.inj (hl.symm.trans ((lookup_eq_some_iff h).2 hc))]

theorem required_cons {k : Text} :
    required key read ((k, b) :: ms) = if k = key.toList then read b else required key read ms := by
  by_cases h : k = key.toList
  · subst h
    rw [required, lookup_cons_self, if_pos rfl, Option.bind_some]
  · rw [required, lookup_cons_of_ne h, if_neg h, required]

theorem given_cons {k : Text} :
    given key read absent ((k, b) :: ms)
      = if k = key.toList then read b else given key read absent ms := by
  by_cases h : k = key.toList
  · subst h
    rw [given, lookup_cons_self, if_pos rfl]
  · rw [given, lookup_cons_of_ne h, if_neg h, given]

theorem given_of_lacks (h : Lacks key ms) : given key read absent ms = some absent := by
  rw [given, lookup_eq_none_iff.2 h]

theorem required_map (f : α → γ) :
    (required key read ms).map f = required key (fun b => (read b).map f) ms := by
  rw [required, required, Option.map_bind]
  rfl

theorem given_map (f : α → γ) :
    (given key read absent ms).map f = given key (fun b => (read b).map f) (f absent) ms := by
  rw [given, given]
  cases lookup key ms <;> rfl

theorem required_perm (h : ms.Perm ms') (hnodup : (ms.map Prod.fst).Nodup) :
    required key read ms = required key read ms' := by
  rw [required, required, lookup_perm h hnodup]

theorem given_perm (h : ms.Perm ms') (hnodup : (ms.map Prod.fst).Nodup) :
    given key read absent ms = given key read absent ms' := by
  rw [given, given, lookup_perm h hnodup]

/-- **What is read off members that fit, by looking keys up, does not depend on their order.** -/
theorem ite_fits_perm {x y : Option α} (h : ms.Perm ms')
    (hread : (ms.map Prod.fst).Nodup → x = y) :
    (if fits keys ms then x else none) = if fits keys ms' then y else none := by
  rw [← fits_eq_of_keys (h.map Prod.fst)]
  split
  · rename_i hfits
    exact hread (fits_iff.1 hfits).nodup
  · rfl

/-- What is required is there. -/
theorem not_lacks_of_required (h : required key read ms = some a) : ¬ Lacks key ms := by
  intro hlacks
  rw [required, lookup_eq_none_iff.2 hlacks] at h
  cases h

end Json

end SwiftDecl
