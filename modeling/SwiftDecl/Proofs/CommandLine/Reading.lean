import SwiftDecl.CommandLine.Invocation
import Mathlib.Data.List.Nodup

/-!
# What a command line gives a command

The words of a command spell out its arguments, one after the other (`Spells`). Every word that is
read keeps what has been given spelled out by the words so far, and keeps every argument single
(`readWord_keeps`); and hence so does a whole line (`readWords_eq_run`). Arguments that exclude each
other are not given together. So a layout follows from which arguments are given, and not from
their order (`foldl_choosing_eq`).
-/

namespace SwiftDecl

namespace CommandLine

variable {v : Verb} {a : Argument} {p q : Progress} {word value : Text} {words : List Text}
variable {given : List Given} {c : Command}

/-! ## Progress -/

/-- **No argument is given twice.** -/
def GivenOnce (given : List Given) : Prop :=
  (given.map Given.argument).Nodup

theorem argument_of_numberFor {f : Nat → Given} {g : Given} (hf : ∀ n, (f n).argument = a)
    (h : numberFor a f value = .ok g) : g.argument = a := by
  unfold numberFor at h
  split at h
  · obtain rfl := Except.ok.inj h
    exact hf _
  · cases h

/-- An argument with a value is the argument that was asked for. -/
theorem argument_of {g : Given} (h : Given.of a value = .ok g) : g.argument = a := by
  cases a with
  | manifest =>
    rw [Given.of] at h
    split at h
    · cases h
    · obtain rfl := Except.ok.inj h
      rfl
  | indentWidth => exact argument_of_numberFor (fun _ => rfl) h
  | blankLines => exact argument_of_numberFor (fun _ => rfl) h
  | tabs | unique | imports =>
    obtain rfl := Except.ok.inj h
    rfl

theorem not_mem_of_not_has (h : ¬ p.has a = true) : a ∉ p.given.map Given.argument := by
  intro hmem
  obtain ⟨g, hg, rfl⟩ := List.mem_map.1 hmem
  exact h (List.any_eq_true.2 ⟨g, hg, decide_eq_true rfl⟩)

theorem bind_eq_ok_iff {ε α β : Type} {x : Except ε α} {f : α → Except ε β} {b : β} :
    (x >>= f) = .ok b ↔ ∃ a, x = .ok a ∧ f a = .ok b := by
  cases x with
  | error e => simp [bind, Except.bind]
  | ok a => simp [bind, Except.bind]

/-- One more argument is a new one. -/
theorem add_eq_ok_iff :
    p.add a value = .ok q ↔
      ¬ p.has a = true ∧ ∃ g, Given.of a value = .ok g ∧
        q = { p with given := p.given ++ [g], pending := none } := by
  unfold Progress.add
  by_cases hhas : p.has a = true
  · simp [hhas, throw, throwThe, MonadExceptOf.throw, bind, Except.bind]
  · cases Given.of a value <;> simp [hhas, bind, Except.bind, pure, Except.pure, eq_comm]

theorem add_once (h : p.add a value = .ok q) (hp : GivenOnce p.given) : GivenOnce q.given := by
  obtain ⟨hnew, g, hg, rfl⟩ := add_eq_ok_iff.1 h
  change ((p.given ++ [g]).map Given.argument).Nodup
  rw [List.map_append, List.map_singleton, argument_of hg]
  exact List.Nodup.append hp (List.nodup_singleton a)
    (List.disjoint_singleton.2 (not_mem_of_not_has hnew))

/-! ## Spelling -/

/-- The word for an option. -/
def Argument.dashed (a : Argument) : Text :=
  '-' :: '-' :: a.word

/-- A word whose dashes do not make it an option. -/
def IsPlain (word : Text) : Prop :=
  ∀ letter more, word ≠ '-' :: letter :: more

/-- **The arguments that words spell out for a command**, and whether its options are over then: a
manifest by its path; an option by its dashed name, with its value attached by an equals sign or as
the next word if it takes one; and two dashes that spell out nothing and end the options, after
which dashes mean nothing. -/
inductive Spells (v : Verb) : Bool → List Text → List Given → Prop
  | nil : Spells v false [] []
  | manifest {ended : Bool} {words : List Text} {given : List Given} {path : Text}
      (h : Spells v ended words given) (hpath : path ≠ []) (hplain : ended = false → IsPlain path) :
      Spells v ended (words ++ [path]) (given ++ [.manifest path])
  | escape {words : List Text} {given : List Given} (h : Spells v false words given) :
      Spells v true (words ++ [['-', '-']]) given
  | flag {words : List Text} {given : List Given} {a : Argument} {g : Given}
      (h : Spells v false words given) (ha : a ∈ Argument.optionsOf v)
      (hvalue : a.takesValue = false) (hg : Given.of a [] = .ok g) :
      Spells v false (words ++ [a.dashed]) (given ++ [g])
  | attached {words : List Text} {given : List Given} {a : Argument} {value : Text} {g : Given}
      (h : Spells v false words given) (ha : a ∈ Argument.optionsOf v)
      (hvalue : a.takesValue = true) (hg : Given.of a value = .ok g) :
      Spells v false (words ++ [a.dashed ++ '=' :: value]) (given ++ [g])
  | separate {words : List Text} {given : List Given} {a : Argument} {value : Text} {g : Given}
      (h : Spells v false words given) (ha : a ∈ Argument.optionsOf v)
      (hvalue : a.takesValue = true) (hplain : IsPlain value) (hg : Given.of a value = .ok g) :
      Spells v false (words ++ [a.dashed, value]) (given ++ [g])

/-- **What words have spelled out while a value is put off**: all that is given and the value, if it
is there and is one; or all that is given, and the last word names the option that still waits for
its value. -/
def Progress.SpelledBy (p : Progress) (v : Verb) (words : List Text) : Prop :=
  match p.pending with
  | none => Spells v p.escaped words p.given
  | some ⟨a, some value⟩ =>
    ∀ g, Given.of a value = .ok g → Spells v p.escaped words (p.given ++ [g])
  | some ⟨a, none⟩ => p.escaped = false →
    ∃ before, words = before ++ [a.dashed] ∧ Spells v false before p.given ∧
      a ∈ Argument.optionsOf v ∧ a.takesValue = true

/-- **What holds between the words**: the words spell out what is given, and nothing twice. -/
structure Progress.Sound (p : Progress) (v : Verb) (words : List Text) : Prop where
  spelled : p.SpelledBy v words
  once : GivenOnce p.given

/-- Once the value before has been looked at, the words spell out all that is given. -/
theorem settled_sound (h : p.settled = .ok q) (hp : p.Sound v words) :
    q.escaped = p.escaped ∧ Spells v p.escaped words q.given ∧ GivenOnce q.given := by
  obtain ⟨hspelled, honce⟩ := hp
  unfold Progress.settled at h
  unfold Progress.SpelledBy at hspelled
  split at h
  · rename_i hpending
    rw [hpending] at hspelled
    obtain rfl := Except.ok.inj h
    exact ⟨rfl, hspelled, honce⟩
  · rename_i a value hpending
    rw [hpending] at hspelled
    have honce' := add_once h honce
    obtain ⟨-, g, hg, rfl⟩ := add_eq_ok_iff.1 h
    exact ⟨rfl, hspelled g hg, honce'⟩
  · cases h

/-- A word that is taken as it is, is the manifest or the value that is waited for. -/
theorem plain_sound (h : p.plain word = .ok q) (hplain : p.escaped = false → IsPlain word)
    (hp : p.Sound v words) : q.Sound v (words ++ [word]) := by
  unfold Progress.plain at h
  split at h
  · -- the value of the option before: the two words spell it out together
    rename_i a hpending hopen
    obtain rfl := Except.ok.inj h
    have hwaiting := hp.spelled
    unfold Progress.SpelledBy at hwaiting
    rw [hpending] at hwaiting
    obtain ⟨before, rfl, hbefore, ha, hvalue⟩ := hwaiting hopen
    refine ⟨fun g hg => ?_, hp.once⟩
    rw [List.append_assoc, hopen]
    exact .separate hbefore ha hvalue (hplain hopen) hg
  · split at h
    · cases h
    · obtain ⟨r, hr, h⟩ := bind_eq_ok_iff.1 h
      obtain ⟨hkept, hspelled, honce⟩ := settled_sound hr hp
      obtain rfl := Except.ok.inj h
      refine ⟨fun g hg => ?_, honce⟩
      have hword : word ≠ [] := by
        rintro rfl
        cases hg
      have hpath : Given.of .manifest word = .ok (.manifest word) := if_neg (by simpa using hword)
      obtain rfl := Except.ok.inj (hpath.symm.trans hg)
      rw [hkept]
      exact .manifest hspelled hword hplain

/-- An option is the word for it, with the value that is attached. -/
theorem option_sound {value? : Option Text} (h : p.option a value? = .ok q)
    (hopen : p.escaped = false) (ha : a ∈ Argument.optionsOf v) (hp : p.Sound v words) :
    q.Sound v (words ++ [a.dashed ++ (value?.map ('=' :: ·)).getD []]) := by
  cases value? with
  | none =>
    obtain ⟨r, hr, h⟩ := bind_eq_ok_iff.1 h
    obtain ⟨hkept, hspelled, honce⟩ := settled_sound hr hp
    rw [hopen] at hkept hspelled
    rw [Option.map_none, Option.getD_none, List.append_nil]
    by_cases hvalue : a.takesValue = true
    · rw [if_pos hvalue] at h
      obtain rfl := Except.ok.inj h
      exact ⟨fun _ => ⟨words, rfl, hspelled, ha, hvalue⟩, honce⟩
    · rw [if_neg hvalue] at h
      have honce' := add_once h honce
      obtain ⟨-, g, hg, rfl⟩ := add_eq_ok_iff.1 h
      refine ⟨?_, honce'⟩
      rw [Progress.SpelledBy, hkept]
      exact .flag hspelled ha (Bool.eq_false_iff.2 hvalue) hg
  | some value =>
    rw [Progress.option] at h
    by_cases hvalue : a.takesValue = true
    · rw [if_pos hvalue] at h
      obtain ⟨r, hr, h⟩ := bind_eq_ok_iff.1 h
      obtain ⟨hkept, hspelled, honce⟩ := settled_sound hr hp
      rw [hopen] at hkept hspelled
      have honce' := add_once h honce
      obtain ⟨-, g, hg, rfl⟩ := add_eq_ok_iff.1 h
      refine ⟨?_, honce'⟩
      rw [Progress.SpelledBy, hkept]
      exact .attached hspelled ha hvalue hg
    · rw [if_neg hvalue] at h
      cases h

theorem escape_sound (hopen : p.escaped = false) (hp : p.Sound v words) :
    Progress.Sound { p with escaped := true } v (words ++ [['-', '-']]) := by
  obtain ⟨hspelled, honce⟩ := hp
  refine ⟨?_, honce⟩
  obtain ⟨given, pending, hasManifest, escaped⟩ := p
  obtain rfl : escaped = false := hopen
  match pending with
  | none => exact .escape hspelled
  | some ⟨a, some value⟩ => exact fun g hg => .escape (hspelled g hg)
  | some ⟨a, none⟩ =>
    -- the option never gets its value, so nothing is claimed of it
    exact nofun

/-- A text is what it is cut into. -/
theorem cutAtEquals_joined (t : Text) :
    (cutAtEquals t).1 ++ ((cutAtEquals t).2.map ('=' :: ·)).getD [] = t := by
  unfold cutAtEquals
  have hsplit := List.takeWhile_append_dropWhile (p := (· != '=')) (l := t)
  cases hrest : t.dropWhile (· != '=') with
  | nil => exact List.append_nil t
  | cons c value =>
    have hequals : c = '=' := by
      have hhead := List.head_dropWhile_not (p := (· != '=')) (l := t) (by simp [hrest])
      simpa [hrest] using hhead
    rw [hrest, hequals] at hsplit
    exact hsplit

/-- What a word is, read by its dashes. -/
theorem eq_of_wordOf {kind : Word} (h : Word.of word = kind) :
    match kind with
    | .escape => word = ['-', '-']
    | .long name value? => word = '-' :: '-' :: name ++ (value?.map ('=' :: ·)).getD []
    | .short _ => True
    | .plain t => word = t ∧ IsPlain word := by
  unfold Word.of at h
  split at h <;> subst h
  · rfl
  · exact congrArg ('-' :: '-' :: ·) (cutAtEquals_joined _).symm
  · trivial
  · rename_i hplain
    exact ⟨rfl, hplain⟩

/-! ## Steps and lines -/

theorem map_more_eq_ok_iff {x : Except Misuse Progress} :
    x.map Reading.more = .ok (.more q) ↔ x = .ok q := by
  cases x <;> simp [Except.map]

theorem askHelp_ne_more : askHelp p ≠ .ok (.more q) := by
  intro h
  obtain ⟨r, -, h⟩ := bind_eq_ok_iff.1 h
  cases h

/-- **A word that is read keeps all that.** -/
theorem readWord_keeps (h : readWord v p word = .ok (.more q)) (hp : p.Sound v words) :
    q.Sound v (words ++ [word]) := by
  unfold readWord at h
  split at h
  · rename_i hended
    refine plain_sound (map_more_eq_ok_iff.1 h) (fun hopen => ?_) hp
    rw [hopen] at hended
    cases hended
  · rename_i hopen
    have hopen := Bool.eq_false_iff.2 hopen
    split at h
    · rename_i hword
      obtain rfl := Reading.more.inj (Except.ok.inj h)
      have heq : word = ['-', '-'] := eq_of_wordOf hword
      rw [heq]
      exact escape_sound hopen hp
    · rename_i name value? hword
      split at h
      · split at h
        · exact absurd h askHelp_ne_more
        · cases h
      · split at h
        · rename_i a hfound
          have ha : a ∈ Argument.optionsOf v := List.mem_of_find?_eq_some hfound
          have hname : a.word = name := by simpa using List.find?_some hfound
          have heq : word = '-' :: '-' :: name ++ (value?.map ('=' :: ·)).getD [] :=
            eq_of_wordOf hword
          rw [heq, ← hname]
          exact option_sound (map_more_eq_ok_iff.1 h) hopen ha hp
        · cases h
    · split at h
      · exact absurd h askHelp_ne_more
      · cases h
    · rename_i t hword
      obtain ⟨rfl, hplain⟩ : word = t ∧ IsPlain word := eq_of_wordOf hword
      exact plain_sound (map_more_eq_ok_iff.1 h) (fun _ => hplain) hp

/-- **What a command is made of**: the arguments that its words spell out, none of them twice and
none that excludes another, and a path among them. -/
structure MadeOf (c : Command) (v : Verb) (words : List Text) (given : List Given) : Prop where
  spelled : ∃ ended, Spells v ended words given
  once : GivenOnce given
  compatible : exclusion? given = none
  eq : ∃ path, pathOf? given = some path ∧ c = commandOf v path given

theorem finish_eq_run (h : finish v p = .ok (.run c)) (hp : p.Sound v words) :
    ∃ given, MadeOf c v words given := by
  obtain ⟨q, hq, h⟩ := bind_eq_ok_iff.1 h
  split at h
  · cases h
  · rename_i hcompatible
    split at h
    · rename_i path hpath
      obtain ⟨-, hspelled, honce⟩ := settled_sound hq hp
      have hc := Invocation.run.inj (Except.ok.inj h)
      exact ⟨q.given, ⟨_, hspelled⟩, honce, hcompatible, path, hpath, hc.symm⟩
    · cases h

/-- The words of a command make a command of what they give. -/
theorem readWords_eq_run {before : List Text} (h : readWords v p words = .ok (.run c))
    (hp : p.Sound v before) : ∃ given, MadeOf c v (before ++ words) given := by
  -- what has been read moves from `words` to `before`
  induction words generalizing p before with
  | nil =>
    rw [List.append_nil]
    exact finish_eq_run h hp
  | cons word words ih =>
    rw [readWords] at h
    split at h
    · cases h
    · cases h
    · rename_i q hq
      have hrest := ih h (readWord_keeps hq hp)
      rwa [List.append_assoc, List.singleton_append] at hrest

theorem readTopic_ne_run : readTopic words ≠ .ok (.run c) := by
  intro h
  cases words with
  | nil => cases h
  | cons word words =>
    unfold readTopic at h
    dsimp only at h
    split at h <;> cases h

theorem readEscaped_ne_run : readEscaped words ≠ .ok (.run c) := by
  intro h
  cases words with
  | nil => cases h
  | cons word words =>
    rw [readEscaped] at h
    split at h <;> cases h

/-- **A command line that is accepted names a command and spells out what it is made of.** -/
theorem read_eq_run (h : read words = .ok (.run c)) :
    ∃ v more given, words = v.word :: more ∧ MadeOf c v more given := by
  cases words with
  | nil => cases h
  | cons word words =>
    rw [read] at h
    split at h
    · exact absurd h readTopic_ne_run
    · split at h
      · rename_i v hverb
        have hword : v.word = word := by
          unfold Verb.ofWord? at hverb
          simpa using List.find?_some hverb
        obtain ⟨given, hmade⟩ := readWords_eq_run h ⟨Spells.nil, List.nodup_nil⟩
        exact ⟨v, words, given, by rw [hword], hmade⟩
      · split at h
        · exact absurd h readEscaped_ne_run
        · split at h
          · split at h
            · cases h
            · split at h <;> cases h
          · cases h
        · split at h
          · cases h
          · split at h <;> cases h
        · cases h

/-! ## Layouts -/

/-- The number of spaces that is given. -/
def indentWidth? (given : List Given) : Option Nat :=
  given.findSome? fun
    | .indentWidth n => some n
    | _ => none

/-- The number of blank lines that is given. -/
def blankLines? (given : List Given) : Option Nat :=
  given.findSome? fun
    | .blankLines n => some n
    | _ => none

/-- Whether tabs are given. -/
def hasTabs (given : List Given) : Bool :=
  given.any (·.argument = .tabs)

/-- **The layout that flags ask for**, where `standard` has what they do not say: tabs or so many
spaces, and so many blank lines. -/
def layoutOf (standard : Layout.Config) (given : List Given) : Layout.Config where
  indentUnit :=
    if hasTabs given then ['\t']
    else ((indentWidth? given).map fun n => List.replicate n ' ').getD standard.indentUnit
  blankLines := (blankLines? given).getD standard.blankLines

theorem not_excludes_of_compatible (h : exclusion? given = none) :
    ∀ g ∈ given, ∀ g' ∈ given, ¬ g.argument.excludes g'.argument = true := by
  intro g hg g' hg' hexcludes
  have hnone := List.findSome?_eq_none_iff.1 h g hg
  rw [Option.map_eq_none_iff] at hnone
  exact List.find?_eq_none.1 hnone g' hg' hexcludes

theorem findSome?_eq_none_of_not_mem {β : Type} {f : Given → Option β}
    (h : a ∉ given.map Given.argument) (hf : ∀ g : Given, g.argument ≠ a → f g = none) :
    given.findSome? f = none := by
  rw [List.findSome?_eq_none_iff]
  exact fun g hg => hf g fun ha => h (ha ▸ List.mem_map_of_mem hg)

theorem indentWidth?_eq_none (h : Argument.indentWidth ∉ given.map Given.argument) :
    indentWidth? given = none :=
  findSome?_eq_none_of_not_mem h fun g hg => by cases g <;> first | rfl | exact absurd rfl hg

theorem blankLines?_eq_none (h : Argument.blankLines ∉ given.map Given.argument) :
    blankLines? given = none :=
  findSome?_eq_none_of_not_mem h fun g hg => by cases g <;> first | rfl | exact absurd rfl hg

theorem hasTabs_eq_false (h : Argument.tabs ∉ given.map Given.argument) :
    hasTabs given = false := by
  rw [hasTabs, List.any_eq_false]
  intro g hg htabs
  exact h (of_decide_eq_true htabs ▸ List.mem_map_of_mem hg)

/-- **The choices of a layout made one after the other come to what the flags ask for**, for none of
them is made twice and none takes back another. -/
theorem foldl_choosing_eq (standard : Layout.Config) (honce : GivenOnce given)
    (hapart : Argument.tabs ∈ given.map Given.argument →
      Argument.indentWidth ∉ given.map Given.argument) :
    (given.filterMap Given.choice?).foldl Layout.Config.choosing standard
      = layoutOf standard given := by
  -- each choice is a new standard for those that come after it, and none of them sets it anew
  induction given generalizing standard with
  | nil => rfl
  | cons g given ih =>
    obtain ⟨hnew, honce⟩ := List.nodup_cons.1 honce
    have hrest : ∀ config : Layout.Config,
        (given.filterMap Given.choice?).foldl Layout.Config.choosing config
          = layoutOf config given :=
      fun config => ih config honce fun htabs hwidth =>
        hapart (List.mem_cons_of_mem _ htabs) (List.mem_cons_of_mem _ hwidth)
    cases g with
    | manifest path => exact hrest standard
    | unique => exact hrest standard
    | imports => exact hrest standard
    | tabs =>
      have hwidth : indentWidth? given = none := indentWidth?_eq_none fun hmem =>
        hapart List.mem_cons_self (List.mem_cons_of_mem _ hmem)
      refine (hrest (standard.choosing .tabs)).trans ?_
      have hmore : hasTabs (.tabs :: given) = true := rfl
      have hblank : blankLines? (.tabs :: given) = blankLines? given := rfl
      rw [layoutOf, layoutOf, hasTabs_eq_false hnew, hwidth, hmore, hblank]
      rfl
    | indentWidth n =>
      have htabs : hasTabs given = false := hasTabs_eq_false fun hmem =>
        hapart (List.mem_cons_of_mem _ hmem) List.mem_cons_self
      have hwidth : indentWidth? given = none := indentWidth?_eq_none hnew
      refine (hrest (standard.choosing (.width n))).trans ?_
      have hmore : hasTabs (.indentWidth n :: given) = hasTabs given := rfl
      have hblank : blankLines? (.indentWidth n :: given) = blankLines? given := rfl
      rw [layoutOf, layoutOf, hmore, htabs, hwidth, hblank]
      rfl
    | blankLines n =>
      have hblank : blankLines? given = none := blankLines?_eq_none hnew
      refine (hrest (standard.choosing (.blankLines n))).trans ?_
      have hmore : hasTabs (.blankLines n :: given) = hasTabs given := rfl
      have hwidth : indentWidth? (.blankLines n :: given) = indentWidth? given := rfl
      rw [layoutOf, layoutOf, hmore, hwidth, hblank]
      rfl

/-- **A rendering has the layout that its flags ask for.** -/
theorem MadeOf.config_eq {path : Text} {config : Layout.Config}
    (h : MadeOf (.render path config) v words given) : config = layoutOf .standard given := by
  have hapart : Argument.tabs ∈ given.map Given.argument →
      Argument.indentWidth ∉ given.map Given.argument := by
    intro htabs hwidth
    obtain ⟨g, hg, hgt⟩ := List.mem_map.1 htabs
    obtain ⟨g', hg', hgw⟩ := List.mem_map.1 hwidth
    refine not_excludes_of_compatible h.compatible g hg g' hg' ?_
    rw [hgt, hgw]
    rfl
  obtain ⟨path', -, heq⟩ := h.eq
  cases v with
  | usedTypes => cases heq
  | render =>
    rw [commandOf, Layout.Config.ofChoices, foldl_choosing_eq _ h.once hapart] at heq
    exact (Command.render.inj heq).2

end CommandLine

end SwiftDecl
