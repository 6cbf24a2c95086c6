import Mathlib.Data.List.Induction
import SwiftDecl.Proofs.Dependencies.UsedTypes

/-!
# The used types, node by node

A set of declarations is a row of functions, a function a row of types, its return type before its
parameters, and a type a tree. The nodes of all these have addresses, and the used types are the
nodes in the order of their addresses, each once (`exists_listed`): none is left out because another
is the same type, and none is moved. What follows a type and belongs to it is as long as the type
has nodes (`Unfolds.take_drop`).
-/

namespace SwiftDecl

variable {α : Type} {ts us : List TypeRef} {t : TypeRef} {i : Nat}

/-! ## The number of nodes -/

namespace TypeRef

mutual

/-- The number of nodes of a type: itself and those of its arguments. -/
def size : TypeRef → Nat
  | mk _ _ as _ => 1 + totalSize as

/-- The number of nodes of types in a row. -/
def totalSize : List TypeRef → Nat
  | [] => 0
  | t :: ts => t.size + totalSize ts

end

theorem length_usedTypesOf (h : ∀ t ∈ ts, t.usedTypes.length = t.size) :
    (usedTypesOf ts).length = totalSize ts := by
  induction ts with
  | nil => rfl
  | cons t ts ih =>
    obtain ⟨ht, hts⟩ := List.forall_mem_cons.1 h
    rw [usedTypesOf, List.length_append, ht, ih hts, totalSize]

/-- A type uses as many types as it has nodes. -/
theorem length_usedTypes (t : TypeRef) : t.usedTypes.length = t.size := by
  induction t using ofArgs with
  | mk m h as o ih => rw [usedTypes, List.length_cons, length_usedTypesOf ih, size, Nat.add_comm]

end TypeRef

/-- The stretch of a type in a row that unfolds is as long as the type has nodes. -/
theorem Unfolds.take_drop (hts : Unfolds ts) (h : ts[i]? = some t) :
    (ts.drop i).take t.size = t.usedTypes := by
  rw [← t.length_usedTypes]
  exact (List.prefix_iff_eq_take.1 (hts i t h)).symm

/-! ## Roots -/

/-- The types that a function names itself, its return type before its parameters' types. -/
def Function.rootTypes (f : Function) : List TypeRef :=
  f.returns :: f.params.map Parameter.type

/-- The types that the functions of a set name. -/
def DeclarationSet.rootTypes (s : DeclarationSet) : List TypeRef :=
  s.functions.flatMap Function.rootTypes

theorem Function.usedTypes_eq (f : Function) :
    f.usedTypes = f.rootTypes.flatMap TypeRef.usedTypes := by
  rw [rootTypes, List.flatMap_cons, List.flatMap_map]
  rfl

theorem DeclarationSet.usedTypes_eq (s : DeclarationSet) :
    s.usedTypes = TypeRef.usedTypesOf s.rootTypes := by
  rw [TypeRef.usedTypesOf_eq_flatMap, rootTypes, List.flatMap_assoc]
  exact List.flatMap_congr fun f _ => f.usedTypes_eq

theorem DeclarationSet.length_usedTypes (s : DeclarationSet) :
    s.usedTypes.length = TypeRef.totalSize s.rootTypes := by
  rw [usedTypes_eq, TypeRef.length_usedTypesOf fun t _ => t.length_usedTypes]

/-! ## Addresses -/

/-- The node at an address of a row: the first number says in which member it is, and the others
where. -/
def rowAt? (nodeAt? : α → List Nat → Option TypeRef) (xs : List α) : List Nat → Option TypeRef
  | [] => none
  | i :: address => xs[i]?.bind (nodeAt? · address)

/-- **The node at an address of a type**: the type itself, or a node of the argument that the first
number says. -/
def TypeRef.nodeAt? : TypeRef → List Nat → Option TypeRef
  | t, [] => some t
  | .mk _ _ as _, i :: address => as[i]?.bind fun t => t.nodeAt? address

/-- The node at an address of a function, which is a row of types. -/
def Function.nodeAt? (f : Function) : List Nat → Option TypeRef :=
  rowAt? TypeRef.nodeAt? f.rootTypes

/-- The node at an address of a set, which is a row of functions. -/
def DeclarationSet.nodeAt? (s : DeclarationSet) : List Nat → Option TypeRef :=
  rowAt? Function.nodeAt? s.functions

/-- **Types listed by address**: the addresses of all nodes, in ascending order, and the node at
each of them. -/
structure Listed (nodeAt? : List Nat → Option TypeRef) (addresses : List (List Nat))
    (ts : List TypeRef) : Prop where
  sorted : addresses.Pairwise (· < ·)
  mem_iff : ∀ address, address ∈ addresses ↔ (nodeAt? address).isSome
  nodes : addresses.map nodeAt? = ts.map some

/-- What is listed by address is what has an address. -/
theorem Listed.mem_iff_exists {nodeAt? : List Nat → Option TypeRef} {addresses : List (List Nat)}
    (h : Listed nodeAt? addresses ts) : t ∈ ts ↔ ∃ address, nodeAt? address = some t := by
  have hmem : t ∈ ts ↔ some t ∈ addresses.map nodeAt? := by simp [h.nodes]
  rw [hmem, List.mem_map]
  constructor
  · rintro ⟨address, -, hnode⟩
    exact ⟨address, hnode⟩
  · rintro ⟨address, hnode⟩
    exact ⟨address, (h.mem_iff address).2 (Option.isSome_of_eq_some hnode), hnode⟩

section Row

variable {nodeAt? : α → List Nat → Option TypeRef} {g : α → List TypeRef} {xs : List α} {x : α}
variable {address rest : List Nat}

theorem rowAt?_concat_of_lt (h : i < xs.length) :
    rowAt? nodeAt? (xs ++ [x]) (i :: rest) = rowAt? nodeAt? xs (i :: rest) := by
  rw [rowAt?, rowAt?, List.getElem?_append_left h]

theorem rowAt?_concat_length :
    rowAt? nodeAt? (xs ++ [x]) (xs.length :: rest) = nodeAt? x rest := by
  rw [rowAt?, List.getElem?_concat_length]
  rfl

theorem rowAt?_of_le (h : xs.length ≤ i) : rowAt? nodeAt? xs (i :: rest) = none := by
  rw [rowAt?, List.getElem?_eq_none h]
  rfl

/-- An address in a row starts with the place of a member. -/
theorem exists_cons_of_isSome_rowAt? (h : (rowAt? nodeAt? xs address).isSome) :
    ∃ i rest, address = i :: rest ∧ i < xs.length := by
  cases address with
  | nil => cases h
  | cons i rest =>
    refine ⟨i, rest, rfl, Nat.lt_of_not_le fun hi => ?_⟩
    rw [rowAt?_of_le hi] at h
    cases h

/-- **One more member**: the nodes of a row with a member added at its end. -/
theorem Listed.concat {before last : List (List Nat)}
    (hbefore : Listed (rowAt? nodeAt? xs) before ts) (hlast : Listed (nodeAt? x) last us) :
    Listed (rowAt? nodeAt? (xs ++ [x])) (before ++ last.map (xs.length :: ·)) (ts ++ us) where
  sorted := by
    refine List.pairwise_append.2 ⟨hbefore.sorted, ?_, fun a ha b hb => ?_⟩
    · exact List.pairwise_map.2
        (hlast.sorted.imp fun hab => List.cons_lt_cons_iff.2 (.inr ⟨rfl, hab⟩))
    · obtain ⟨i, rest, rfl, hi⟩ := exists_cons_of_isSome_rowAt? ((hbefore.mem_iff a).1 ha)
      obtain ⟨rest', -, rfl⟩ := List.mem_map.1 hb
      exact List.cons_lt_cons_iff.2 (.inl hi)
  mem_iff address := by
    rw [List.mem_append, hbefore.mem_iff]
    cases address with
    | nil => simp [rowAt?]
    | cons i rest =>
      rcases Nat.lt_trichotomy i xs.length with hi | rfl | hi
      · rw [rowAt?_concat_of_lt hi, or_iff_left]
        simp [Nat.ne_of_gt hi]
      · rw [rowAt?_concat_length, rowAt?_of_le (Nat.le_refl _), ← hlast.mem_iff]
        simp
      · rw [rowAt?_of_le (Nat.le_of_lt hi), rowAt?_of_le (by simpa [Nat.succ_le_iff] using hi)]
        simp [Nat.ne_of_lt hi]
  nodes := by
    have hold : before.map (rowAt? nodeAt? (xs ++ [x])) = before.map (rowAt? nodeAt? xs) := by
      refine List.map_congr_left fun a ha => ?_
      obtain ⟨i, rest, rfl, hi⟩ := exists_cons_of_isSome_rowAt? ((hbefore.mem_iff a).1 ha)
      exact rowAt?_concat_of_lt hi
    have hnew : (last.map (xs.length :: ·)).map (rowAt? nodeAt? (xs ++ [x]))
        = last.map (nodeAt? x) := by
      rw [List.map_map]
      exact List.map_congr_left fun rest _ => rowAt?_concat_length
    rw [List.map_append, hold, hnew, hbefore.nodes, hlast.nodes, List.map_append]

/-- **The nodes of a row** are those of its members, one member after the other. -/
theorem exists_listed_row (h : ∀ x ∈ xs, ∃ addresses, Listed (nodeAt? x) addresses (g x)) :
    ∃ addresses, Listed (rowAt? nodeAt? xs) addresses (xs.flatMap g) := by
  induction xs using List.reverseRecOn with
  | nil =>
    refine ⟨[], .nil, fun address => ?_, rfl⟩
    cases address <;> simp [rowAt?]
  | append_singleton xs x ih =>
    obtain ⟨before, hbefore⟩ := ih fun y hy => h y (List.mem_append_left _ hy)
    obtain ⟨last, hlast⟩ := h x (List.mem_append_right _ List.mem_cons_self)
    rw [List.flatMap_append, List.flatMap_singleton]
    exact ⟨_, hbefore.concat hlast⟩

end Row

theorem TypeRef.exists_listed (t : TypeRef) :
    ∃ addresses, Listed t.nodeAt? addresses t.usedTypes := by
  induction t using TypeRef.ofArgs with
  | mk m h as o ih =>
  obtain ⟨below, hbelow⟩ := exists_listed_row ih
  rw [usedTypes_mk]
  refine ⟨[] :: below, ?_, fun address => ?_, ?_⟩
  · refine List.pairwise_cons.2 ⟨fun a ha => ?_, hbelow.sorted⟩
    obtain ⟨i, rest, rfl, -⟩ := exists_cons_of_isSome_rowAt? ((hbelow.mem_iff a).1 ha)
    exact List.nil_lt_cons i rest
  · rw [List.mem_cons, hbelow.mem_iff]
    cases address with
    | nil => simp [nodeAt?]
    | cons i rest => simp [nodeAt?, rowAt?]
  · have hnodes : below.map (mk m h as o).nodeAt? = below.map (rowAt? nodeAt? as) := by
      refine List.map_congr_left fun a ha => ?_
      obtain ⟨i, rest, rfl, -⟩ := exists_cons_of_isSome_rowAt? ((hbelow.mem_iff a).1 ha)
      rfl
    rw [List.map_cons, hnodes, hbelow.nodes]
    rfl

/-- **A type uses its nodes**, at whatever depth they are. -/
theorem TypeRef.mem_usedTypes_iff {u : TypeRef} :
    t ∈ u.usedTypes ↔ ∃ address, u.nodeAt? address = some t := by
  obtain ⟨addresses, hlisted⟩ := u.exists_listed
  exact hlisted.mem_iff_exists

theorem Function.exists_listed (f : Function) :
    ∃ addresses, Listed f.nodeAt? addresses f.usedTypes := by
  rw [usedTypes_eq]
  exact exists_listed_row fun t _ => t.exists_listed

namespace DeclarationSet

variable {s : DeclarationSet}

/-- **The used types are the nodes of the set**, in the order of their addresses. -/
theorem exists_listed (s : DeclarationSet) :
    ∃ addresses, Listed s.nodeAt? addresses s.usedTypes :=
  exists_listed_row fun f _ => f.exists_listed

/-- What a used type is made of is used. -/
theorem mem_usedTypes_of_mem_args (ht : t ∈ s.usedTypes) {arg : TypeRef} (harg : arg ∈ t.args) :
    arg ∈ s.usedTypes := by
  obtain ⟨m, h, as, o⟩ := t
  exact (usedTypes_infix_of_mem ht).subset (TypeRef.mem_usedTypes_of_mem_args harg)

/-- **The used types of a set**, in order: of each function those of its return type, which is
listed even if it is `Void`, and then those of its parameters. From where a type stands, as many
types as it has nodes are those it uses; the arguments of a used type are used; and there are as
many used types as nodes, which are listed by address. -/
theorem usedTypes_lists_nodes (s : DeclarationSet) :
    s.usedTypes = s.functions.flatMap (fun f =>
      f.returns.usedTypes ++ f.params.flatMap fun p => p.type.usedTypes) ∧
    (∀ f ∈ s.functions, f.usedTypes.head? = some f.returns) ∧
    (∀ i t, s.usedTypes[i]? = some t → (s.usedTypes.drop i).take t.size = t.usedTypes) ∧
    (∀ t ∈ s.usedTypes, ∀ arg ∈ t.args, arg ∈ s.usedTypes) ∧
    s.usedTypes.length = TypeRef.totalSize s.rootTypes ∧
    ∃ addresses, Listed s.nodeAt? addresses s.usedTypes := by
  refine ⟨rfl, fun f _ => ?_, fun i t h => s.usedTypes_unfolds.take_drop h,
    fun t ht arg harg => mem_usedTypes_of_mem_args ht harg, s.length_usedTypes, s.exists_listed⟩
  rw [Function.usedTypes, List.head?_append, TypeRef.head?_usedTypes]
  rfl

/-- A dictionary of arrays and no return type. -/
def indexing : DeclarationSet :=
  let images : TypeRef := .arrayOf (.inModule (.custom "UIKit".toList) (.named "UIImage".toList))
  ⟨[⟨[], false, .ofName "index".toList, none,
    [.named "images".toList images, .named "known".toList (.dictionaryOf .string images)],
    false, .void, []⟩]⟩

/-- The dictionary stands after `Void`, the array and what is in the array. -/
theorem indexing_lists_nodes :
    indexing.usedTypes.map TypeRef.spelling
        = ["Void".toList, "[UIImage]".toList, "UIImage".toList, "[String: [UIImage]]".toList,
          "String".toList, "[UIImage]".toList, "UIImage".toList] ∧
      ∃ t, indexing.usedTypes[3]? = some t ∧ t.size = 4 ∧
        (indexing.usedTypes.drop 3).take 4 = t.usedTypes :=
  ⟨by decide +kernel, _, rfl, rfl, (usedTypes_lists_nodes indexing).2.2.1 3 _ rfl⟩

end DeclarationSet

end SwiftDecl
