import SwiftDecl.Proofs.Text.Joined
import SwiftDecl.Proofs.TypeRef.Sameness
import SwiftDecl.TypeRef.Spelling

/-!
# The spelling of a type is unambiguous

A type has one of three forms: an element in brackets, a key and a value in brackets, or a name with
its arguments. `spelling` is read from the left. The first character tells a bracket from a name; a
name ends at the first character that no name may hold; and whatever follows a type, be it a
separator, a closing character or the end of the text, could not go on with one. So a spelling
determines the type up to what sameness ignores, the module and the way of writing it. What could go
on with a type decides which names can be told from what follows them (`readable_of_namesFit`). Two
choices matter: plain names, behind which anything else may stand (`beq_of_spelling_eq`), and names
without the marks of a spelling, behind which only such a mark may (`beq_of_namesFit`).
-/

namespace SwiftDecl

namespace TypeRef

open Text

/-! ## Plain names -/

/-- Whether a character may stand in a plain name. -/
def isPlainChar (c : Char) : Bool :=
  c.isAlphanum || c == '_' || c == '.'

/-- Whether a name is made of ASCII letters and digits, underscores and dots, and of at least one of
them. -/
def isPlainName (name : Text) : Bool :=
  !name.isEmpty && name.all isPlainChar

mutual

/-- Whether every name in a type, at every depth, is plain. -/
def hasPlainNames : TypeRef → Bool
  | mk _ h as _ => isPlainName h.name && havePlainNames as

/-- Whether every name in types in a row is plain. -/
def havePlainNames : List TypeRef → Bool
  | [] => true
  | t :: ts => hasPlainNames t && havePlainNames ts

end

theorem havePlainNames_iff {ts : List TypeRef} :
    havePlainNames ts = true ↔ ∀ t ∈ ts, t.hasPlainNames = true := by
  induction ts with
  | nil => simp [havePlainNames]
  | cons t ts ih => rw [havePlainNames, Bool.and_eq_true, ih, List.forall_mem_cons]

theorem hasPlainNames_mk {m : Module} {h : Head} {as : List TypeRef} {o : Bool} :
    (mk m h as o).hasPlainNames = true ↔
      isPlainName h.name = true ∧ ∀ t ∈ as, t.hasPlainNames = true := by
  rw [hasPlainNames, Bool.and_eq_true, havePlainNames_iff]

theorem mem_of_isPlainName {name : Text} (h : isPlainName name) : ∀ c ∈ name, isPlainChar c := by
  rw [isPlainName, Bool.and_eq_true, List.all_eq_true] at h
  exact h.2

/-! ## The forms of a spelling -/

/-- The mark of an optional type. -/
def optionalMark (isOptional : Bool) : Text :=
  if isOptional then ['?'] else []

/-- The spellings of arguments in angle brackets, if there are any. -/
def argumentClause : List TypeRef → Text
  | [] => []
  | arg :: more => '<' :: joined ", ".toList ((arg :: more).map spelling) ++ ['>']

theorem spellings_eq_map (ts : List TypeRef) : spellings ts = ts.map spelling := by
  induction ts with
  | nil => rfl
  | cons t ts ih => rw [spellings, ih, List.map_cons]

/-- **The form in which a type is written.** Brackets need the right number of arguments; with any
other number arrays and dictionaries are written by name as all types are. -/
inductive Form : TypeRef → Prop where
  | array (m : Module) (element : TypeRef) (o : Bool) : Form (mk m .array [element] o)
  | dictionary (m : Module) (key value : TypeRef) (o : Bool) :
      Form (mk m .dictionary [key, value] o)
  | byName (m : Module) (h : Head) (as : List TypeRef) (o : Bool)
      (hs : (mk m h as o).spelling = h.name ++ (argumentClause as ++ optionalMark o)) :
      Form (mk m h as o)

theorem form (t : TypeRef) : t.Form := by
  obtain ⟨m, h, as, o⟩ := t
  by_cases ha : h = .array ∧ as.length = 1
  · obtain ⟨rfl, hl⟩ := ha
    obtain ⟨e, rfl⟩ := List.length_eq_one_iff.1 hl
    exact .array m e o
  by_cases hd : h = .dictionary ∧ as.length = 2
  · obtain ⟨rfl, hl⟩ := hd
    obtain ⟨k, v, rfl⟩ := List.length_eq_two.1 hl
    exact .dictionary m k v o
  refine .byName m h as o ?_
  rw [spelling, spellings_eq_map]
  unfold unmarkedSpelling
  split
  · rename_i hs
    exact absurd ⟨rfl, by simpa using congrArg List.length hs⟩ ha
  · rename_i hs
    exact absurd ⟨rfl, by simpa using congrArg List.length hs⟩ hd
  · rename_i hs
    obtain rfl := List.map_eq_nil_iff.1 hs
    rfl
  · rename_i hs _ _
    rcases as with - | ⟨t, ts⟩
    · exact absurd rfl hs
    · simp [argumentClause, optionalMark]

theorem spelling_array (m : Module) (e : TypeRef) (o : Bool) :
    (mk m .array [e] o).spelling = '[' :: (e.spelling ++ ']' :: optionalMark o) := by
  simp [spelling, spellings, unmarkedSpelling, optionalMark]

theorem spelling_dictionary (m : Module) (k v : TypeRef) (o : Bool) :
    (mk m .dictionary [k, v] o).spelling
      = '[' :: (k.spelling ++ ':' :: ' ' :: (v.spelling ++ ']' :: optionalMark o)) := by
  simp [spelling, spellings, unmarkedSpelling, optionalMark]

/-! ## What could go on with a type -/

/-- **A kind of characters that could go on with a type.** Arguments and the mark of an optional
type are among them; what stands behind a type within another one is not. -/
structure ContinuesTypes (q : Char → Bool) : Prop where
  arguments : q '<' = true
  mark : q '?' = true
  comma : q ',' = false
  colon : q ':' = false
  bracket : q ']' = false
  angle : q '>' = false

/-- Whether a character may stand in a name: it could go on with a type and opens nothing. -/
def isNameChar (q : Char → Bool) (c : Char) : Bool :=
  q c && !(c == '[' || c == '<' || c == '?')

/-- A name that can be told from a bracket and from what follows it. An empty name can if what
follows does not start with a bracket. -/
structure FitsName (q : Char → Bool) (name : Text) : Prop where
  chars : ∀ c ∈ name, isNameChar q c
  bracket : name = [] → q '['

/-- A type with names that fit, at every depth. -/
inductive NamesFit (q : Char → Bool) : TypeRef → Prop where
  | mk {m : Module} {h : Head} {as : List TypeRef} {o : Bool} (hname : FitsName q h.name)
      (hargs : ∀ t ∈ as, NamesFit q t) : NamesFit q (mk m h as o)

/-- **Two types can be read off** where characters of a kind could go on with a type: their
spellings tell them apart, whatever else follows. -/
abbrev ReadsBackBefore (q : Char → Bool) (t u : TypeRef) : Prop :=
  Readable q spelling (fun t u => (t == u) = true) t u

variable {q : Char → Bool} {m m' : Module} {o o' : Bool} {e e' k k' v v' : TypeRef}

/-! ## Reading a spelling back -/

/-- The mark of an optional type can be read off, with what follows the type. -/
theorem eq_of_optionalMark (hq : ContinuesTypes q) {u v : Text} (hu : startsOutside q u)
    (hv : startsOutside q v) (h : optionalMark o ++ u = optionalMark o' ++ v) : o = o' ∧ u = v :=
  eq_of_word (not_prefix_of_startsOutside hq.mark hu) (not_prefix_of_startsOutside hq.mark hv) h

/-- A text that could not go on with a type does not go on with its arguments either, whether or not
the type is optional. -/
theorem startsOutside_open (hq : ContinuesTypes q) {u : Text} (hu : startsOutside q u) :
    startsOutside (· == '<') (optionalMark o ++ u) :=
  startsOutside_append (by cases o <;> rfl)
    (startsOutside_of_imp (fun c hc => by rw [eq_of_beq hc, hq.arguments]) hu)

/-- Behind a name stands nothing of a kind that neither arguments nor a mark belong to. -/
theorem startsOutside_behindName {p : Char → Bool} (hangle : p '<' = false) (hmark : p '?' = false)
    (hpq : ∀ c, p c → q c) {as : List TypeRef} {u : Text} (hu : startsOutside q u) :
    startsOutside p (argumentClause as ++ (optionalMark o ++ u)) := by
  refine startsOutside_append ?_ (startsOutside_append ?_ (startsOutside_of_imp hpq hu))
  · cases as with
    | nil => rfl
    | cons t ts => rw [argumentClause, List.cons_append, startsOutside_cons, hangle]; rfl
  · cases o with
    | false => rfl
    | true => rw [optionalMark, if_pos rfl, startsOutside_cons, hmark]; rfl

/-- A type written by name does not start with a bracket. -/
theorem append_ne_bracket {name text u : Text} {as : List TypeRef} (hn : FitsName q name)
    (hu : startsOutside q u) :
    name ++ (argumentClause as ++ (optionalMark o ++ u)) ≠ '[' :: text := by
  intro h
  rcases name with - | ⟨c, rest⟩
  · have hbracket : startsOutside (· == '[') (argumentClause as ++ (optionalMark o ++ u)) :=
      startsOutside_behindName rfl rfl (fun c hc => by rw [eq_of_beq hc, hn.bracket rfl]) hu
    rw [List.nil_append] at h
    rw [h, startsOutside_cons] at hbracket
    cases hbracket
  · obtain ⟨rfl, -⟩ := List.cons.inj h
    have hchar := hn.chars '[' List.mem_cons_self
    simp [isNameChar] at hchar

/-- An argument clause can be read off if its arguments can. -/
theorem sameAll_of_argumentClause (hq : ContinuesTypes q) {as bs : List TypeRef} {u v : Text}
    (hread : ∀ t ∈ as, ∀ w ∈ bs, ReadsBackBefore q t w)
    (hu : startsOutside (· == '<') u) (hv : startsOutside (· == '<') v)
    (h : argumentClause as ++ u = argumentClause bs ++ v) : sameAll as bs = true ∧ u = v := by
  rcases as with - | ⟨t, ts⟩ <;> rcases bs with - | ⟨w, ws⟩
  · exact ⟨rfl, h⟩
  · exact absurd ⟨v, h.symm⟩ (not_prefix_of_startsOutside rfl hu)
  · exact absurd ⟨u, h⟩ (not_prefix_of_startsOutside rfl hv)
  · have hrow : joined (',' :: [' ']) ((t :: ts).map spelling) ++ '>' :: u
        = joined (',' :: [' ']) ((w :: ws).map spelling) ++ '>' :: v := by
      simpa [argumentClause] using h
    obtain ⟨hall, huv⟩ := forall₂_of_joined_cons (by decide) hq.comma hq.angle hread hrow
    exact ⟨sameAll_iff.2 hall, huv⟩

theorem readsBack_array (hq : ContinuesTypes q) (he : ReadsBackBefore q e e') :
    ReadsBackBefore q (mk m .array [e] o) (mk m' .array [e'] o') := by
  intro r r' hr hr' h
  simp only [spelling_array, List.cons_append, List.append_assoc, List.cons.injEq] at h
  obtain ⟨hsame, hrest⟩ := he _ _ (by simp [hq.bracket]) (by simp [hq.bracket]) h.2
  obtain ⟨rfl, rfl⟩ := eq_of_optionalMark hq hr hr' (List.cons.inj hrest).2
  exact ⟨beq_mk.2 ⟨rfl, sameAll_iff.2 (.cons hsame .nil), rfl⟩, rfl⟩

theorem readsBack_dictionary (hq : ContinuesTypes q) (hk : ReadsBackBefore q k k')
    (hv : ReadsBackBefore q v v') :
    ReadsBackBefore q (mk m .dictionary [k, v] o) (mk m' .dictionary [k', v'] o') := by
  intro r r' hr hr' h
  simp only [spelling_dictionary, List.cons_append, List.append_assoc, List.cons.injEq] at h
  obtain ⟨hsame, hrest⟩ := hk _ _ (by simp [hq.colon]) (by simp [hq.colon]) h.2
  simp only [List.cons.injEq, true_and] at hrest
  obtain ⟨hsame', hrest⟩ := hv _ _ (by simp [hq.bracket]) (by simp [hq.bracket]) hrest
  obtain ⟨rfl, rfl⟩ := eq_of_optionalMark hq hr hr' (List.cons.inj hrest).2
  exact ⟨beq_mk.2 ⟨rfl, sameAll_iff.2 (.cons hsame (.cons hsame' .nil)), rfl⟩, rfl⟩

/-- Types in brackets are told apart by what follows the first of them. -/
theorem ReadsBackBefore.append_ne {t u : TypeRef} (h : ReadsBackBefore q t u) {c d : Char}
    (hcd : c ≠ d) (hc : q c = false) (hd : q d = false) (r r' : Text) :
    t.spelling ++ c :: r ≠ u.spelling ++ d :: r' := by
  intro heq
  obtain ⟨-, hrest⟩ := h _ _ (by simp [hc]) (by simp [hd]) heq
  exact hcd (List.cons.inj hrest).1

/-- Types written by name are read off part by part. -/
theorem readsBack_byName (hq : ContinuesTypes q) {h h' : Head} {as as' : List TypeRef}
    (hs : (mk m h as o).spelling = h.name ++ (argumentClause as ++ optionalMark o))
    (hs' : (mk m' h' as' o').spelling = h'.name ++ (argumentClause as' ++ optionalMark o'))
    (hn : FitsName q h.name) (hn' : FitsName q h'.name)
    (hread : ∀ t ∈ as, ∀ u ∈ as', ReadsBackBefore q t u) :
    ReadsBackBefore q (mk m h as o) (mk m' h' as' o') := by
  intro r r' hr hr' heq
  have hname : ∀ c, isNameChar q c → q c := fun c hc => (Bool.and_eq_true _ _ ▸ hc).1
  have hangle : isNameChar q '<' = false := by simp [isNameChar]
  have hmark : isNameChar q '?' = false := by simp [isNameChar]
  simp only [hs, hs', List.append_assoc] at heq
  obtain ⟨hsame, hrest⟩ := eq_of_stretch hn.chars hn'.chars
    (startsOutside_behindName hangle hmark hname hr)
    (startsOutside_behindName hangle hmark hname hr') heq
  obtain ⟨hall, hrest⟩ := sameAll_of_argumentClause hq hread (startsOutside_open hq hr)
    (startsOutside_open hq hr') hrest
  obtain ⟨rfl, rfl⟩ := eq_of_optionalMark hq hr hr' hrest
  exact ⟨beq_mk.2 ⟨hsame, hall, rfl⟩, rfl⟩

/-- **A type can be read off.** The text of a type and what follows it determine both, if the names
in the type fit and the text that follows could not go on with one. -/
theorem readable_of_namesFit (hq : ContinuesTypes q) {t u : TypeRef} (ht : NamesFit q t)
    (hu : NamesFit q u) : ReadsBackBefore q t u := by
  induction t using ofArgs generalizing u with
  | mk m h as o ih =>
  obtain ⟨m', h', as', o'⟩ := u
  obtain ⟨hn, has⟩ := ht
  obtain ⟨hn', has'⟩ := hu
  have hread : ∀ x ∈ as, ∀ y ∈ as', ReadsBackBefore q x y :=
    fun x hx y hy => ih x hx (has x hx) (has' y hy)
  -- two forms that differ are told apart by their first character, or by the one that follows the
  -- first type in brackets
  cases form (mk m h as o) with
  | array _ e _ =>
    cases form (mk m' h' as' o') with
    | array _ e' _ => exact readsBack_array hq (hread e (by simp) e' (by simp))
    | dictionary _ k' v' _ =>
      intro r r' _ _ heq
      simp only [spelling_array, spelling_dictionary, List.cons_append, List.append_assoc,
        List.cons.injEq] at heq
      exact absurd heq.2 ((hread e (by simp) k' (by simp)).append_ne (by decide) hq.bracket
        hq.colon _ _)
    | byName _ _ _ _ hs' =>
      intro r r' _ hr' heq
      rw [spelling_array, hs', List.append_assoc, List.append_assoc] at heq
      exact absurd heq.symm (append_ne_bracket hn' hr')
  | dictionary _ k v _ =>
    cases form (mk m' h' as' o') with
    | array _ e' _ =>
      intro r r' _ _ heq
      simp only [spelling_array, spelling_dictionary, List.cons_append, List.append_assoc,
        List.cons.injEq] at heq
      exact absurd heq.2 ((hread k (by simp) e' (by simp)).append_ne (by decide) hq.colon
        hq.bracket _ _)
    | dictionary _ k' v' _ =>
      exact readsBack_dictionary hq (hread k (by simp) k' (by simp))
        (hread v (by simp) v' (by simp))
    | byName _ _ _ _ hs' =>
      intro r r' _ hr' heq
      rw [spelling_dictionary, hs', List.append_assoc, List.append_assoc] at heq
      exact absurd heq.symm (append_ne_bracket hn' hr')
  | byName _ _ _ _ hs =>
    cases form (mk m' h' as' o') with
    | array _ e' _ =>
      intro r r' hr _ heq
      rw [spelling_array, hs, List.append_assoc, List.append_assoc] at heq
      exact absurd heq (append_ne_bracket hn hr)
    | dictionary _ k' v' _ =>
      intro r r' hr _ heq
      rw [spelling_dictionary, hs, List.append_assoc, List.append_assoc] at heq
      exact absurd heq (append_ne_bracket hn hr)
    | byName _ _ _ _ hs' => exact readsBack_byName hq hs hs' hn hn' hread

/-- Types with names that fit are the same if they are spelled alike. -/
theorem beq_of_namesFit (hq : ContinuesTypes q) {a b : TypeRef} (ha : NamesFit q a)
    (hb : NamesFit q b) (h : a.spelling = b.spelling) : (a == b) = true :=
  (readable_of_namesFit hq ha hb [] [] rfl rfl (by rw [h])).1

/-! ## Names without marks -/

/-- Whether a spelling puts the character around names or between them. -/
def isMark (c : Char) : Bool :=
  c == '[' || c == ']' || c == '<' || c == '>' || c == '?' || c == ',' || c == ':'

/-- Whether a character could go on with a type that stands alone or in another one: all but those
that follow a type within another one. -/
def staysInType (c : Char) : Bool :=
  !(c == ',' || c == ':' || c == ']' || c == '>')

theorem continuesTypes_staysInType : ContinuesTypes staysInType :=
  ⟨rfl, rfl, rfl, rfl, rfl, rfl⟩

/-- What may stand in a name is then all but the marks. -/
theorem isNameChar_staysInType (c : Char) : isNameChar staysInType c = !isMark c := by
  simp only [isNameChar, staysInType, isMark, Bool.not_or]
  ac_rfl

theorem fitsName_of_unmarked {name : Text} (h : ∀ c ∈ name, ¬ isMark c) :
    FitsName staysInType name :=
  ⟨fun c hc => by simpa [isNameChar_staysInType] using h c hc, fun _ => rfl⟩

/-! ## Plain names in what follows -/

/-- Whether a character could go on with a type. None that stands after a type in a signature is of
this kind. -/
def continuesType (c : Char) : Bool :=
  isPlainChar c || c == '<' || c == '?'

/-- **Two types can be read off**: their spellings tell them apart, whatever follows. -/
abbrev ReadsBack (t u : TypeRef) : Prop :=
  Readable continuesType spelling (fun t u => (t == u) = true) t u

theorem continuesTypes_continuesType : ContinuesTypes continuesType :=
  ⟨rfl, rfl, rfl, rfl, rfl, rfl⟩

/-- A plain character opens nothing. -/
theorem isNameChar_of_isPlainChar {c : Char} (h : isPlainChar c) : isNameChar continuesType c := by
  have hopen : ∀ d : Char, isPlainChar d = false → c ≠ d := by
    rintro d hd rfl
    rw [hd] at h
    cases h
  simp [isNameChar, continuesType, h, hopen '[' rfl, hopen '<' rfl, hopen '?' rfl]

theorem fitsName_of_isPlainName {name : Text} (h : isPlainName name) :
    FitsName continuesType name := by
  refine ⟨fun c hc => isNameChar_of_isPlainChar (mem_of_isPlainName h c hc), ?_⟩
  rintro rfl
  cases h

theorem namesFit_of_hasPlainNames {t : TypeRef} (h : t.hasPlainNames) :
    NamesFit continuesType t := by
  induction t using ofArgs with
  | mk m head as o ih =>
    obtain ⟨hn, has⟩ := hasPlainNames_mk.1 h
    exact .mk (fitsName_of_isPlainName hn) fun t ht => ih t ht (has t ht)

/-- **A plainly named type can be read off**, whatever follows it that could not go on with it. -/
theorem readsBack {t u : TypeRef} (ht : t.hasPlainNames) (hu : u.hasPlainNames) :
    ReadsBack t u :=
  readable_of_namesFit continuesTypes_continuesType (namesFit_of_hasPlainNames ht)
    (namesFit_of_hasPlainNames hu)

/-- **Spelling is unambiguous**: plainly named types that are spelled alike are the same. -/
theorem beq_of_spelling_eq {a b : TypeRef} (ha : a.hasPlainNames) (hb : b.hasPlainNames)
    (h : a.spelling = b.spelling) : (a == b) = true :=
  (readsBack ha hb [] [] rfl rfl (by rw [h])).1

/-- An array with two arguments is written by name. -/
def pairArray : TypeRef :=
  .dictionaryOf .string (.optional (.withArgs [.arrayOf .int, .bool] (.arrayOf .int)))

/-- The same type, named throughout. -/
def namedPairArray : TypeRef :=
  .dictionaryOf (.named "String".toList)
    (.optional (.withArgs [.arrayOf (.builtin "Int".toList), .named "Bool".toList]
      (.inModule (.custom "Kit".toList) (.named "Array".toList))))

theorem beq_pairArray :
    pairArray.hasPlainNames ∧ namedPairArray.hasPlainNames ∧
      pairArray.spelling = namedPairArray.spelling ∧ (pairArray == namedPairArray) = true := by
  have hsame : pairArray.spelling = namedPairArray.spelling := by decide +kernel
  exact ⟨rfl, rfl, hsame, beq_of_spelling_eq rfl rfl hsame⟩

end TypeRef

end SwiftDecl
