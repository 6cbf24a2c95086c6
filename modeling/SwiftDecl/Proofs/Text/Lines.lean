import SwiftDecl.Proofs.Text.Joined

/-!
# Lines put back together

A text that is cut into lines and put back together with line feeds may have changed: a carriage
return before a line feed is gone, and so is a line feed at the end. `tidied` moreover empties the
lines of white space. `tidied_eq_self_iff` says when nothing has changed. That nothing changes where
there is nothing to change is read off the lines; that something does is a matter of length, for
each step can only shorten the text.
-/

namespace SwiftDecl

namespace Text

/-- **The text with its lines tidied up**: every line ends in a bare line feed, and lines of white
space are empty. -/
def tidied (t : Text) : Text :=
  joined ['\n'] (t.lines.map withoutBlank)

/-- The empty text is blank. -/
theorem ne_nil_of_not_isBlank {t : Text} (h : ¬ t.isBlank = true) : t ≠ [] := by
  rintro rfl
  exact h rfl

theorem withoutBlank_eq_self_iff {line : Text} :
    withoutBlank line = line ↔ (line ≠ [] → ¬ line.isBlank) := by
  unfold withoutBlank
  split
  · rename_i h
    simp [h, eq_comm]
  · rename_i h
    simp [h]

theorem withoutBlank_sublist (line : Text) : (withoutBlank line).Sublist line := by
  unfold withoutBlank
  split
  · exact List.nil_sublist line
  · exact List.Sublist.refl line

/-! ## The lines of a text -/

theorem lines_eq_nil_iff {t : Text} : t.lines = [] ↔ t = [] := by
  constructor
  · intro h
    fun_cases lines t with
    | case1 => rfl
    | case2 rest => rw [lines] at h; cases h
    | case3 rest => rw [lines] at h; cases h
    | case4 c rest _ _ hnil => simp [lines, hnil] at h
    | case5 c rest _ _ line more hlines => simp [lines, hlines] at h
  · rintro rfl
    rfl

/-- No line holds a line feed. -/
theorem not_mem_of_mem_lines {t line : Text} (h : line ∈ t.lines) : '\n' ∉ line := by
  fun_induction lines t generalizing line with
  | case1 => cases h
  | case2 rest ih | case3 rest ih =>
    rcases List.mem_cons.1 h with rfl | h
    · exact List.not_mem_nil
    · exact ih h
  | case4 c rest hc _ hnil ih =>
    obtain rfl := List.mem_singleton.1 h
    rw [List.mem_singleton]
    exact fun h => hc h.symm
  | case5 c rest hc _ first more hlines ih =>
    rw [hlines] at ih
    rcases List.mem_cons.1 h with rfl | h
    · have hfirst := ih List.mem_cons_self
      rw [List.mem_cons, not_or]
      exact ⟨fun h => hc h.symm, hfirst⟩
    · exact ih (List.mem_cons_of_mem _ h)

variable {c : Char} {u v rest line first : Text} {more others : List Text}

theorem lines_feed (rest : Text) : lines ('\n' :: rest) = [] :: rest.lines := by
  rw [lines]

/-- A carriage return goes with the line feed behind it. -/
theorem lines_return (h : rest.head? = some '\n') : lines ('\r' :: rest) = rest.lines := by
  obtain ⟨tail, rfl⟩ := List.head?_eq_some_iff.1 h
  rw [lines, lines]

/-- Any other character but a line feed goes to the first line of what follows. -/
theorem lines_cons (hc : c ≠ '\n') (hcr : c = '\r' → rest.head? ≠ some '\n')
    (h : rest.lines = line :: more) : lines (c :: rest) = (c :: line) :: more := by
  rw [lines, h]
  · exact hc
  · rintro _ rfl rfl
    exact hcr rfl rfl

/-- So does any that no line end starts with, whatever follows it. -/
theorem lines_cons_of_ne (hc : c ≠ '\n') (hr : c ≠ '\r') (h : rest.lines = line :: more) :
    lines (c :: rest) = (c :: line) :: more :=
  lines_cons hc (fun hcr => absurd hcr hr) h

/-- **Texts that differ behind their first line** differ there only, whatever is put before them. -/
theorem lines_append_of_first (hhead : u.head? = v.head?) (hu : u.lines = first :: others)
    (hv : v.lines = [first]) (s : Text) : (s ++ u).lines = (s ++ v).lines ++ others := by
  induction s with
  | nil => rw [List.nil_append, List.nil_append, hu, hv, List.singleton_append]
  | cons c s ih =>
    have hnext : (s ++ u).head? = (s ++ v).head? := by
      rw [List.head?_append, List.head?_append, hhead]
    rw [List.cons_append, List.cons_append]
    by_cases hc : c = '\n'
    · rw [hc, lines_feed, lines_feed, ih, List.cons_append]
    by_cases hcr : c = '\r' ∧ (s ++ v).head? = some '\n'
    · rw [hcr.1, lines_return (hnext.trans hcr.2), lines_return hcr.2, ih]
    · have hcr' : c = '\r' → (s ++ v).head? ≠ some '\n' := fun h h' => hcr ⟨h, h'⟩
      have hne : lines (s ++ v) ≠ [] := by
        rw [Ne, lines_eq_nil_iff, List.append_eq_nil_iff]
        rintro ⟨-, rfl⟩
        cases hv
      obtain ⟨line, more, hlines⟩ := List.exists_cons_of_ne_nil hne
      rw [hlines, List.cons_append] at ih
      rw [lines_cons hc hcr' hlines, lines_cons hc (hnext ▸ hcr') ih, List.cons_append]

/-- **A line feed ends the lines before it**: what follows has lines of its own. -/
theorem lines_append_feed (s t : Text) :
    (s ++ '\n' :: t).lines = (s ++ ['\n']).lines ++ t.lines :=
  lines_append_of_first (u := '\n' :: t) (v := ['\n']) rfl (lines_feed t) (lines_feed []) s

/-- So do texts that end in line feeds. -/
theorem lines_flatMap_append (ls : List Text) (t : Text) :
    lines (ls.flatMap (· ++ ['\n']) ++ t) = lines (ls.flatMap (· ++ ['\n'])) ++ t.lines := by
  induction ls with
  | nil => rfl
  | cons line ls ih =>
    simp only [List.flatMap_cons, List.append_assoc, List.cons_append, List.nil_append]
    rw [lines_append_feed line (ls.flatMap (· ++ ['\n'])), lines_append_feed line, ih,
      List.append_assoc]

/-- Where the lines of what follows start with an empty one, that is the end of a line before it. -/
theorem lines_concat_append {t : Text} (hc : c ≠ '\n') (hr : c ≠ '\r')
    (h : t.lines = [] :: others) (s : Text) : (s ++ c :: t).lines = (s ++ [c]).lines ++ others := by
  have hlast : lines [c] = [[c]] := by simp [lines]
  exact lines_append_of_first (u := c :: t) (v := [c]) rfl (lines_cons_of_ne hc hr h) hlast s

/-- The line feed adds nothing to the lines of a text that ends in a character of its own. -/
theorem lines_concat_append_feed (hc : c ≠ '\n') (hr : c ≠ '\r') (s t : Text) :
    (s ++ c :: '\n' :: t).lines = (s ++ [c]).lines ++ t.lines :=
  lines_concat_append hc hr (lines_feed t) s

/-- **The lines of a text that ends in a character of its own**: one for each line feed, and one
that ends in that character. -/
theorem exists_lines_concat (hc : c ≠ '\n') (s : Text) :
    ∃ front line, (s ++ [c]).lines = front ++ [line ++ [c]] ∧ front.length = s.count '\n' := by
  induction s with
  | nil => exact ⟨[], [], by simp [lines], rfl⟩
  | cons d s ih =>
    obtain ⟨front, line, hlines, hlength⟩ := ih
    rw [List.cons_append]
    by_cases hd : d = '\n'
    · refine ⟨[] :: front, line, ?_, ?_⟩
      · rw [hd, lines_feed, hlines, List.cons_append]
      · rw [hd, List.count_cons_self, List.length_cons, hlength]
    rw [List.count_cons_of_ne hd, ← hlength]
    by_cases hret : d = '\r' ∧ (s ++ [c]).head? = some '\n'
    · exact ⟨front, line, by rw [hret.1, lines_return hret.2, hlines], rfl⟩
    have hret' : d = '\r' → (s ++ [c]).head? ≠ some '\n' := fun h h' => hret ⟨h, h'⟩
    cases front with
    | nil => exact ⟨[], d :: line, lines_cons hd hret' hlines, rfl⟩
    | cons first front => exact ⟨(d :: first) :: front, line, lines_cons hd hret' hlines, rfl⟩

/-- Lines, each of them behind a line feed. -/
def fed (ls : List Text) : Text :=
  ls.flatMap ('\n' :: ·)

@[simp] theorem fed_nil : fed [] = [] := rfl

@[simp] theorem fed_cons (line : Text) (ls : List Text) :
    fed (line :: ls) = '\n' :: (line ++ fed ls) := rfl

/-- Joined lines lack the first line feed only. -/
theorem cons_joined {ls : List Text} (h : ls ≠ []) : '\n' :: joined ['\n'] ls = fed ls := by
  obtain ⟨line, more, rfl⟩ := List.exists_cons_of_ne_nil h
  rw [joined_cons]
  rfl

/-- **Lines behind line feeds can be read off**, if none of them holds one. -/
theorem eq_of_fed_eq {ls ms : List Text} (hls : ∀ line ∈ ls, '\n' ∉ line)
    (hms : ∀ line ∈ ms, '\n' ∉ line) (h : fed ls = fed ms) : ls = ms := by
  have hstart : ∀ ks : List Text, startsOutside (· != '\n') (fed ks) := by
    rintro (- | ⟨line, ks⟩) <;> rfl
  have hkind : ∀ {line : Text}, '\n' ∉ line → ∀ c ∈ line, (c != '\n') = true := by
    intro line hline c hc
    rw [bne_iff_ne]
    rintro rfl
    exact hline hc
  induction ls generalizing ms with
  | nil =>
    rcases ms with - | ⟨line, ms⟩
    · rfl
    · cases h
  | cons line ls ih =>
    rcases ms with - | ⟨line', ms⟩
    · cases h
    · obtain ⟨hline, hmore⟩ := List.forall_mem_cons.1 hls
      obtain ⟨hline', hmore'⟩ := List.forall_mem_cons.1 hms
      obtain ⟨rfl, hrest⟩ := eq_of_stretch (hkind hline) (hkind hline') (hstart ls) (hstart ms)
        (List.cons.inj h).2
      rw [ih hmore hmore' hrest]

/-- **Cutting into lines loses line ends only**: a carriage return before a line feed, and one line
feed at the end of the text. -/
theorem fed_lines {t : Text} (hne : t ≠ []) (hcr : ¬ ['\r', '\n'] <:+: t)
    (hlast : t.getLast? ≠ some '\n') : fed t.lines = '\n' :: t := by
  fun_induction lines t with
  | case1 => exact absurd rfl hne
  | case2 rest ih =>
    rcases rest with - | ⟨c, rest⟩
    · exact absurd rfl hlast
    · rw [fed_cons, ih (List.cons_ne_nil _ _)
        (fun h => hcr (h.trans (List.suffix_cons _ _).isInfix))
        (by simpa [List.getLast?_cons_cons] using hlast), List.nil_append]
  | case3 rest ih => exact absurd ⟨[], rest, rfl⟩ hcr
  | case4 c rest _ _ hnil ih =>
    obtain rfl := lines_eq_nil_iff.1 hnil
    rfl
  | case5 c rest _ _ line more hlines ih =>
    -- the character goes to the first line of the rest, so the rest is not empty
    have hrest : rest ≠ [] := fun h => by rw [lines_eq_nil_iff.2 h] at hlines; cases hlines
    obtain ⟨d, tail, rfl⟩ := List.exists_cons_of_ne_nil hrest
    have hfed := ih hrest (fun h => hcr (h.trans (List.suffix_cons _ _).isInfix))
      (by simpa [List.getLast?_cons_cons] using hlast)
    rw [hlines, fed_cons, List.cons.injEq] at hfed
    rw [fed_cons, List.cons_append, hfed.2]

/-- A text is blank if its lines are, for white space ends them. -/
theorem isBlank_of_lines {t : Text} (h : ∀ line ∈ t.lines, line.isBlank = true) :
    t.isBlank = true := by
  have hfeed : Unicode.isBlank '\n' = true := by decide
  have hreturn : Unicode.isBlank '\r' = true := by decide
  fun_induction lines t with
  | case1 => rfl
  | case2 rest ih =>
    rw [isBlank, List.all_cons, hfeed]
    exact ih fun line hline => h line (List.mem_cons_of_mem _ hline)
  | case3 rest ih =>
    rw [isBlank, List.all_cons, List.all_cons, hfeed, hreturn]
    exact ih fun line hline => h line (List.mem_cons_of_mem _ hline)
  | case4 c rest _ _ hnil ih =>
    obtain rfl := lines_eq_nil_iff.1 hnil
    exact h [c] List.mem_cons_self
  | case5 c rest _ _ line more hlines ih =>
    have hfirst := h (c :: line) List.mem_cons_self
    rw [isBlank, List.all_cons, Bool.and_eq_true] at hfirst
    rw [isBlank, List.all_cons, hfirst.1]
    rw [hlines] at ih
    exact ih (List.forall_mem_cons.2
      ⟨hfirst.2, fun other hother => h other (List.mem_cons_of_mem _ hother)⟩)

/-- **Only a blank text is tidied up to nothing.** -/
theorem tidied_ne_nil {t : Text} (h : ¬ t.isBlank = true) : t.tidied ≠ [] := by
  intro htidied
  have hlines : t.lines ≠ [] := mt lines_eq_nil_iff.1 (ne_nil_of_not_isBlank h)
  have hfed : fed (t.lines.map withoutBlank) = ['\n'] := by
    rw [← cons_joined fun hnil => hlines (List.map_eq_nil_iff.1 hnil)]
    exact congrArg ('\n' :: ·) htidied
  -- one line, and nothing left of it
  have hempty : ∀ ls : List Text, fed ls = ['\n'] → ∀ line ∈ ls, line = [] := by
    intro ls hls
    obtain - | ⟨line, more⟩ := ls
    · cases hls
    · obtain ⟨hline, hmore⟩ := List.append_eq_nil_iff.1 (List.cons.inj hls).2
      obtain - | ⟨next, more⟩ := more
      · exact List.forall_mem_singleton.2 hline
      · cases hmore
  refine h (isBlank_of_lines fun line hline => ?_)
  have hnone := hempty _ hfed _ (List.mem_map_of_mem hline)
  unfold withoutBlank at hnone
  split at hnone
  · assumption
  · rw [hnone]
    rfl

/-- **Tidying keeps the end of a text** that does not end in white space, and its line feeds. -/
theorem tidied_concat (hc : ¬ Unicode.isBlank c) (s : Text) :
    (s ++ [c]).tidied.getLast? = some c ∧
      (s ++ [c]).tidied.count '\n' = (s ++ [c]).count '\n' := by
  have hfeed : c ≠ '\n' := by
    rintro rfl
    exact hc (by decide)
  obtain ⟨front, line, hlines, hlength⟩ := exists_lines_concat hfeed s
  have hlast : withoutBlank (line ++ [c]) = line ++ [c] := by
    rw [withoutBlank, if_neg]
    intro hblank
    exact hc (List.all_eq_true.1 hblank c (List.mem_append_right _ List.mem_cons_self))
  -- no line holds a line feed, so those of the tidied text stand between its lines
  have hnone : (((s ++ [c]).lines.map withoutBlank).map (List.count '\n')).sum = 0 := by
    simp only [List.sum_eq_zero_iff_forall_eq_nat, List.forall_mem_map, List.count_eq_zero]
    exact fun whole hwhole h =>
      not_mem_of_mem_lines hwhole ((withoutBlank_sublist whole).mem h)
  have hlines' : (s ++ [c]).lines.map withoutBlank = front.map withoutBlank ++ [line ++ [c]] := by
    rw [hlines, List.map_append, List.map_singleton, hlast]
  refine ⟨?_, ?_⟩
  · rw [tidied, hlines', getLast?_joined_concat _ (List.concat_ne_nil _ _), List.getLast?_concat]
  · rw [tidied, count_joined, hnone, List.length_map, hlines, List.count_append, ← hlength]
    simp [hfeed]

/-! ## When nothing changes -/

/-- Lines behind line feeds are not longer than the text behind one, and shorter if a carriage
return has gone. -/
theorem length_fed_lines (t : Text) :
    (fed t.lines).length ≤ t.length + 1 ∧
      ((fed t.lines).length = t.length + 1 → ¬ ['\r', '\n'] <:+: t) := by
  fun_induction lines t with
  | case1 => exact ⟨Nat.zero_le _, fun h => by cases h⟩
  | case2 rest ih =>
    simp only [fed_cons, List.nil_append, List.length_cons, List.infix_cons_iff]
    refine ⟨by omega, fun h => ?_⟩
    rintro (hpre | hin)
    · cases (List.cons_prefix_cons.1 hpre).1
    · exact ih.2 (by omega) hin
  | case3 rest ih =>
    simp only [fed_cons, List.nil_append, List.length_cons]
    exact ⟨by omega, fun h => by omega⟩
  | case4 c rest _ _ hnil ih =>
    obtain rfl := lines_eq_nil_iff.1 hnil
    exact ⟨Nat.le_refl _, fun _ h => absurd h.length_le (by simp)⟩
  | case5 c rest _ hcr line more hlines ih =>
    simp only [hlines, fed_cons, List.cons_append, List.length_cons, List.infix_cons_iff] at ih ⊢
    refine ⟨by omega, fun h => ?_⟩
    -- a carriage return before a line feed would have been read by the case above
    rintro (hpre | hin)
    · obtain ⟨rfl, tail, htail⟩ := List.cons_prefix_cons.1 hpre
      exact hcr tail rfl htail.symm
    · exact ih.2 (by omega) hin

/-- Emptying the blank lines does not make a text longer, and it makes it shorter if there are any
with something in them. -/
theorem length_fed_withoutBlank (ls : List Text) :
    (fed (ls.map withoutBlank)).length ≤ (fed ls).length ∧
      ((fed (ls.map withoutBlank)).length = (fed ls).length →
        ∀ line ∈ ls, withoutBlank line = line) := by
  induction ls with
  | nil => exact ⟨Nat.le_refl _, fun _ => List.forall_mem_nil _⟩
  | cons line more ih =>
    have hsub := withoutBlank_sublist line
    have hle := hsub.length_le
    simp only [List.map_cons, fed_cons, List.length_cons, List.length_append]
    refine ⟨by omega, fun h => List.forall_mem_cons.2 ⟨?_, ih.2 (by omega)⟩⟩
    exact hsub.eq_of_length (by omega)

/-- **Tidying leaves a text as it is** exactly if it has no carriage return before a line feed and
no line of white space. A line feed at the end would be lost as well. -/
theorem tidied_eq_self_iff {t : Text} (hlast : t.getLast? ≠ some '\n') :
    t.tidied = t ↔
      ¬ ['\r', '\n'] <:+: t ∧ ∀ line ∈ t.lines, line ≠ [] → ¬ line.isBlank := by
  rcases eq_or_ne t [] with rfl | hne
  · simp [tidied, lines, joined]
  have hlines : t.lines ≠ [] := fun h => hne (lines_eq_nil_iff.1 h)
  have htidied : '\n' :: t.tidied = fed (t.lines.map withoutBlank) :=
    cons_joined fun h => hlines (List.map_eq_nil_iff.1 h)
  constructor
  · intro h
    have hlength := congrArg List.length htidied
    rw [h, List.length_cons] at hlength
    have hcut := length_fed_lines t
    have hblank := length_fed_withoutBlank t.lines
    exact ⟨hcut.2 (by omega), fun line hline =>
      withoutBlank_eq_self_iff.1 (hblank.2 (by omega) line hline)⟩
  · rintro ⟨hcr, hblank⟩
    have hmap : t.lines.map withoutBlank = t.lines :=
      (List.map_congr_left fun line hline =>
        withoutBlank_eq_self_iff.2 (hblank line hline)).trans (List.map_id _)
    rw [hmap, fed_lines hne hcr hlast] at htidied
    exact (List.cons.inj htidied).2

end Text

end SwiftDecl
