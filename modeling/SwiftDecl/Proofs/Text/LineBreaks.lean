import SwiftDecl.Proofs.Text.Lines

/-!
# Lines as Swift cuts them

`Text.lines` knows two line ends, and Swift a third one: a carriage return alone. A line of the one
kind may thus be several of the other. A line feed ends both kinds of lines, so texts that end in
one can be cut one after the other (`swiftLines_append_feed`); and a word stands at the start of
every piece of a line if it stands at the start of the line and behind each carriage return
(`forall_prefix_swiftLines_iff`).
-/

namespace SwiftDecl

namespace Text

/-- **The lines of a text as Swift cuts it.** A line feed ends a line and so does a carriage return;
a carriage return and the line feed behind it end one line together. What follows the last line end
is a line only if it is not empty. -/
def swiftLines : Text → List Text
  | [] => []
  | '\n' :: rest => [] :: swiftLines rest
  | '\r' :: '\n' :: rest => [] :: swiftLines rest
  | '\r' :: rest => [] :: swiftLines rest
  | c :: rest =>
    match swiftLines rest with
    | [] => [[c]]
    | line :: more => (c :: line) :: more

variable {c : Char} {rest line first word : Text} {more : List Text}

@[simp] theorem swiftLines_nil : swiftLines [] = [] := by
  rw [swiftLines]

@[simp] theorem swiftLines_feed (rest : Text) :
    swiftLines ('\n' :: rest) = [] :: rest.swiftLines := by
  rw [swiftLines]

/-- The line feed behind a carriage return ends the line for both. -/
theorem swiftLines_return_feed (h : rest.head? = some '\n') :
    swiftLines ('\r' :: rest) = rest.swiftLines := by
  obtain ⟨tail, rfl⟩ := List.head?_eq_some_iff.1 h
  rw [swiftLines, swiftLines]

theorem swiftLines_return (h : rest.head? ≠ some '\n') :
    swiftLines ('\r' :: rest) = [] :: rest.swiftLines := by
  rw [swiftLines]
  rintro tail rfl
  exact h rfl

/-- Any other character goes to the first line of what follows. -/
theorem swiftLines_cons (hn : c ≠ '\n') (hr : c ≠ '\r') (h : rest.swiftLines = line :: more) :
    swiftLines (c :: rest) = (c :: line) :: more := by
  rw [swiftLines, h]
  · exact hn
  · rintro _ rfl
    exact absurd rfl hr
  · exact hr

theorem swiftLines_eq_nil_iff {t : Text} : t.swiftLines = [] ↔ t = [] := by
  constructor
  · intro h
    fun_cases swiftLines t with
    | case1 => rfl
    | case2 rest => rw [swiftLines] at h; cases h
    | case3 rest => rw [swiftLines] at h; cases h
    | case4 rest hrest =>
      have hhead : rest.head? ≠ some '\n' := fun hhead => by
        obtain ⟨tail, rfl⟩ := List.head?_eq_some_iff.1 hhead
        exact hrest tail rfl
      rw [swiftLines_return hhead] at h
      cases h
    | case5 c rest _ _ _ hnil => simp [swiftLines, hnil] at h
    | case6 c rest _ _ _ line more hlines => simp [swiftLines, hlines] at h
  · rintro rfl
    exact swiftLines_nil

/-- **A line feed ends the lines before it**, as it does for `lines`. -/
theorem swiftLines_append_feed (s t : Text) :
    (s ++ '\n' :: t).swiftLines = (s ++ ['\n']).swiftLines ++ t.swiftLines := by
  induction s with
  | nil => simp
  | cons c s ih =>
    have hnext : (s ++ '\n' :: t).head? = (s ++ ['\n']).head? := by
      rw [List.head?_append, List.head?_append]
      rfl
    rw [List.cons_append, List.cons_append]
    by_cases hn : c = '\n'
    · rw [hn, swiftLines_feed, swiftLines_feed, ih, List.cons_append]
    by_cases hr : c = '\r'
    · by_cases hhead : (s ++ ['\n']).head? = some '\n'
      · rw [hr, swiftLines_return_feed (hnext.trans hhead), swiftLines_return_feed hhead, ih]
      · rw [hr, swiftLines_return (hnext ▸ hhead), swiftLines_return hhead, ih, List.cons_append]
    · have hne : swiftLines (s ++ ['\n']) ≠ [] := by simp [swiftLines_eq_nil_iff]
      obtain ⟨line, more, hlines⟩ := List.exists_cons_of_ne_nil hne
      rw [hlines, List.cons_append] at ih
      rw [swiftLines_cons hn hr hlines, swiftLines_cons hn hr ih, List.cons_append]

/-- Lines with line feeds behind them can be cut one by one. -/
theorem swiftLines_flatMap_append (ls : List Text) (t : Text) :
    swiftLines (ls.flatMap (· ++ ['\n']) ++ t)
      = ls.flatMap (fun line => swiftLines (line ++ ['\n'])) ++ t.swiftLines := by
  induction ls with
  | nil => rfl
  | cons line ls ih =>
    rw [List.flatMap_cons, List.flatMap_cons, List.append_assoc, List.append_assoc,
      List.append_assoc, ← ih, ← swiftLines_append_feed]
    rfl

theorem swiftLines_flatMap (ls : List Text) :
    swiftLines (ls.flatMap (· ++ ['\n'])) = ls.flatMap fun line => swiftLines (line ++ ['\n']) := by
  have hlines := swiftLines_flatMap_append ls []
  rwa [List.append_nil, swiftLines_nil, List.append_nil] at hlines

/-! ## The pieces of a line -/

/-- A stretch without line ends is part of the first line. -/
theorem swiftLines_stretch {s t : Text} (hn : '\n' ∉ s) (hr : '\r' ∉ s)
    (h : t.swiftLines = first :: more) : (s ++ t).swiftLines = (s ++ first) :: more := by
  induction s with
  | nil => exact h
  | cons c s ih =>
    rw [List.mem_cons, not_or] at hn hr
    exact swiftLines_cons (Ne.symm hn.1) (Ne.symm hr.1) (ih hn.2 hr.2)

/-- **Whether a word stands behind the carriage returns of a line.** A return at its end has nothing
behind it, for there the line is over. -/
def StandsBehindReturns (word line : Text) : Prop :=
  ∀ before behind, line = before ++ '\r' :: behind → behind ≠ [] → word <+: behind

theorem standsBehindReturns_of_not_mem (h : '\r' ∉ line) : StandsBehindReturns word line := by
  rintro before behind rfl
  exact absurd (List.mem_append_right _ List.mem_cons_self) h

/-- A stretch without carriage returns changes nothing. -/
theorem standsBehindReturns_stretch {s : Text} (hs : '\r' ∉ s) :
    StandsBehindReturns word (s ++ line) ↔ StandsBehindReturns word line := by
  constructor
  · intro h before behind heq
    exact h (s ++ before) behind (by rw [heq, List.append_assoc])
  · intro h before behind heq hbehind
    rcases List.append_eq_append_iff.1 heq with ⟨u, rfl, hu⟩ | ⟨u, rfl, hu⟩
    · exact h u behind hu hbehind
    · rcases u with - | ⟨c, u⟩
      · exact h [] behind hu.symm hbehind
      · -- the stretch would hold the return that `before` ends at
        obtain rfl := (List.cons.inj hu).1
        exact absurd (List.mem_append_right _ List.mem_cons_self) hs

theorem standsBehindReturns_return {behind : Text} :
    StandsBehindReturns word ('\r' :: behind) ↔
      (behind ≠ [] → word <+: behind) ∧ StandsBehindReturns word behind := by
  constructor
  · intro h
    refine ⟨h [] behind rfl, ?_⟩
    rintro before rest rfl
    exact h ('\r' :: before) rest rfl
  · rintro ⟨hfirst, hmore⟩ before rest heq hrest
    rcases before with - | ⟨c, before⟩
    · obtain rfl := (List.cons.inj heq).2
      exact hfirst hrest
    · exact hmore before rest (List.cons.inj heq).2 hrest

/-- A word without carriage returns ends before the first one. -/
theorem prefix_append_return_iff {s behind : Text} (hword : '\r' ∉ word) :
    word <+: s ++ '\r' :: behind ↔ word <+: s := by
  constructor
  · intro h
    rcases List.prefix_or_prefix_of_prefix h (List.prefix_append s _) with hs | ⟨u, rfl⟩
    · exact hs
    rw [List.prefix_append_right_inj] at h
    rcases u with - | ⟨c, u⟩
    · simp
    · obtain rfl := (List.cons_prefix_cons.1 h).1
      exact absurd (List.mem_append_right _ List.mem_cons_self) hword
  · exact fun h => h.trans (List.prefix_append _ _)

/-- **A word stands at the start of every piece of a line** if it stands at the start of the line
and behind its carriage returns. -/
theorem forall_prefix_swiftLines_iff {line : Text} (hword : '\r' ∉ word) (hline : '\n' ∉ line) :
    (∀ piece ∈ (line ++ ['\n']).swiftLines, word <+: piece) ↔
      word <+: line ∧ StandsBehindReturns word line := by
  by_cases hr : '\r' ∈ line
  · obtain ⟨s, behind, rfl, hs⟩ := List.eq_append_cons_of_mem hr
    have hsn : '\n' ∉ s := fun h => hline (List.mem_append_left _ h)
    have hbn : '\n' ∉ behind := fun h =>
      hline (List.mem_append_right _ (List.mem_cons_of_mem _ h))
    rw [prefix_append_return_iff hword, standsBehindReturns_stretch hs, standsBehindReturns_return,
      List.append_assoc, List.cons_append]
    rcases eq_or_ne behind [] with rfl | hne
    · have hend : swiftLines ('\r' :: ([] ++ ['\n'])) = [[]] := by
        rw [List.nil_append, swiftLines_return_feed rfl, swiftLines_feed, swiftLines_nil]
      rw [swiftLines_stretch hsn hs hend, List.append_nil, List.forall_mem_singleton]
      simp [standsBehindReturns_of_not_mem]
    · have hhead : (behind ++ ['\n']).head? ≠ some '\n' := by
        rw [List.head?_append_of_ne_nil _ hne]
        exact fun h => hbn (List.mem_of_head? h)
      have hlength : behind.length < (s ++ '\r' :: behind).length := by
        rw [List.length_append, List.length_cons]
        omega
      rw [swiftLines_stretch hsn hs (swiftLines_return hhead), List.append_nil,
        List.forall_mem_cons, forall_prefix_swiftLines_iff hword hbn]
      simp [hne]
  · have hone : (line ++ ['\n']).swiftLines = [line] := by
      rw [swiftLines_stretch hline hr (swiftLines_feed []), List.append_nil, swiftLines_nil]
    rw [hone, List.forall_mem_singleton,
      iff_true_intro (standsBehindReturns_of_not_mem hr), and_true]
termination_by line.length

end Text

end SwiftDecl
