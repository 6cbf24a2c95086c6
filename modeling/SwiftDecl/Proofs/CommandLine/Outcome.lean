import SwiftDecl.CommandLine.Outcome
import SwiftDecl.Proofs.CommandLine.Reading
import SwiftDecl.Proofs.Layout.Composition
import SwiftDecl.Proofs.Manifest.Conversion
import SwiftDecl.Proofs.Manifest.Documents

/-!
# A command prints all or nothing

A path leads to a file of some bytes, or there is no file. It declares a set of functions if the
bytes are those of a text, the text is a manifest, and every entry of the manifest builds
(`PathState.Declares`); and what it loads is that set (`load_eq_ok_iff`). A command that is accepted
prints the whole of its output for that set, and if there is none it prints nothing but a report on
the error stream (`command_prints_all_or_nothing`).
-/

namespace SwiftDecl

namespace CommandLine

open Manifest (Unreadable)

variable {path : Text} {s : DeclarationSet} {words : List Text} {c : Command}

/-! ## Paths -/

/-- **What a path of the file system leads to.** -/
inductive PathState where
  | missing | directory | notDirectory
  | file (bytes : ByteArray)

/-- The text that is read from there, or what is in the way of it. -/
def PathState.content : PathState → Except Unreadable Text
  | missing => .error .missing
  | directory => .error .directory
  | notDirectory => .error .notDirectory
  | file bytes => Manifest.textOfBytes bytes

/-- **A path that declares a set of functions**: a file that holds a text, which is a manifest, of
which every entry builds one of the functions, in order. -/
def PathState.Declares (state : PathState) (s : DeclarationSet) : Prop :=
  ∃ (text : Text) (m : Manifest), state = .file (String.ofList text).toUTF8 ∧
    Manifest.parse text = .ok m ∧
    List.Forall₂ (fun spec f => spec.toFunction = .ok f) m.functions s.functions

/-- The bytes of a file are read as a text just if they are its bytes. -/
theorem textOfBytes_eq_ok_iff {bytes : ByteArray} {text : Text} :
    Manifest.textOfBytes bytes = .ok text ↔ bytes = (String.ofList text).toUTF8 := by
  unfold Manifest.textOfBytes String.fromUTF8?
  by_cases hbytes : bytes.IsValidUTF8
  · rw [dif_pos hbytes]
    constructor
    · intro h
      obtain rfl := Except.ok.inj h
      rw [String.ofList_toList]
      rfl
    · rintro rfl
      refine congrArg Except.ok ?_
      have hsame : String.fromUTF8 _ hbytes = String.ofList text := rfl
      rw [hsame, String.toList_ofList]
  · rw [dif_neg hbytes]
    refine iff_of_false nofun fun h => hbytes ?_
    rw [h]
    exact (String.ofList text).isValidUTF8

theorem content_eq_ok_iff {state : PathState} {text : Text} :
    state.content = .ok text ↔ state = .file (String.ofList text).toUTF8 := by
  cases state with
  | file bytes => rw [PathState.content, textOfBytes_eq_ok_iff, PathState.file.injEq]
  | _ => exact iff_of_false nofun nofun

/-- **What a path loads is what it declares.** -/
theorem load_eq_ok_iff {state : PathState} :
    Manifest.load path state.content = .ok s ↔ state.Declares s := by
  have hdeclarations : ∀ m : Manifest, m.declarations = .ok s ↔
      List.Forall₂ (fun spec f => spec.toFunction = .ok f) m.functions s.functions := by
    intro m
    rw [← Manifest.toDeclarations_eq_ok_iff, Manifest.declarations, Manifest.mapError_eq_ok_iff]
  have hcontent : ∀ text, state.content.mapError (Manifest.LoadError.unreadable path) = .ok text ↔
      state = .file (String.ofList text).toUTF8 := by
    intro text
    rw [← content_eq_ok_iff, Manifest.mapError_eq_ok_iff]
  rw [Manifest.load, bind_eq_ok_iff]
  simp only [bind_eq_ok_iff, hcontent, hdeclarations]
  constructor
  · rintro ⟨text, hstate, m, hm, hfs⟩
    exact ⟨text, m, hstate, hm, hfs⟩
  · rintro ⟨text, m, hstate, hm, hfs⟩
    exact ⟨text, hstate, m, hm, hfs⟩

/-! ## Output -/

/-- **What a command prints for a set of functions**, all of it: the rendered set and a line feed,
or nothing if the set is empty; or the lines of the listing, each with a line feed. -/
def Command.prints (s : DeclarationSet) : Command → Text
  | .render _ config =>
    if s.functions = [] then [] else Layout.renderDeclarations config s ++ ['\n']
  | .usedTypes _ listing => (listing.lines s).flatMap (· ++ ['\n'])

theorem output_eq_prints (c : Command) (s : DeclarationSet) : c.output s = c.prints s := by
  cases c with
  | usedTypes path listing => rfl
  | render path config =>
    rw [Command.output, Command.prints]
    by_cases hempty : s.functions = []
    · rw [if_pos hempty, Layout.renderDeclarations_eq_nil_iff.2 hempty]
      rfl
    · have htext : Layout.renderDeclarations config s ≠ [] :=
        fun h => hempty (Layout.renderDeclarations_eq_nil_iff.1 h)
      rw [if_neg hempty]
      exact if_neg (by simpa using htext)

theorem report_ne_nil (e : Manifest.LoadError) : report e ≠ [] := by
  simp [report]

/-! ## Commands -/

/-- What a command comes to where its path declares a set. -/
theorem outcome_of_declares {state : PathState} (h : state.Declares s) :
    c.outcome state.content = ⟨0, c.prints s, []⟩ := by
  rw [Command.outcome, load_eq_ok_iff.2 h, ← output_eq_prints]
  rfl

/-- What a command comes to where its path declares nothing. -/
theorem outcome_of_not_declares {state : PathState} (h : ∀ s, ¬ state.Declares s) :
    ∃ e, c.outcome state.content = ⟨1, [], report e⟩ := by
  rw [Command.outcome]
  cases hload : Manifest.load c.path state.content with
  | ok s => exact absurd (load_eq_ok_iff.1 hload) (h s)
  | error e => exact ⟨e, rfl⟩

/-- **A command prints all or nothing.** If its path declares a set of functions, the whole output
for that set is printed and nothing is reported; and if not, something is reported and nothing is
printed. What is rendered has the layout that the flags of the command ask for. -/
theorem command_prints_all_or_nothing (h : read words = .ok (.run c)) (states : Text → PathState) :
    (∀ s, (states c.path).Declares s →
      outcome (fun path => (states path).content) words = ⟨0, c.prints s, []⟩) ∧
    ((∀ s, ¬ (states c.path).Declares s) →
      ∃ errors, errors ≠ [] ∧
        outcome (fun path => (states path).content) words = ⟨1, [], errors⟩) ∧
    ∃ v more given, words = v.word :: more ∧ MadeOf c v more given ∧
      ∀ path config, c = .render path config → config = layoutOf .standard given := by
  have houtcome : outcome (fun path => (states path).content) words
      = c.outcome (states c.path).content := by
    rw [outcome, h]
  rw [houtcome]
  refine ⟨fun s hs => outcome_of_declares hs, fun hnone => ?_, ?_⟩
  · obtain ⟨e, he⟩ := outcome_of_not_declares hnone
    exact ⟨report e, report_ne_nil e, he⟩
  · obtain ⟨v, more, given, hwords, hmade⟩ := read_eq_run h
    refine ⟨v, more, given, hwords, hmade, ?_⟩
    rintro path config rfl
    exact hmade.config_eq

/-- Two functions rendered with tabs and without blank lines between them; and nothing at all where
the second has no name. -/
theorem two_functions_print_all_or_nothing :
    let words := ["render", "--blank-lines=0", "m.json", "--tabs"].map String.toList
    let document (name : Text) : Text :=
      "\x7b\"functions\":[\x7b\"name\":\"start\"\x7d,\x7b\"name\":\"".toList ++ name
        ++ "\"\x7d]\x7d".toList
    let file (name : Text) : PathState :=
      .file (String.ofList (document name)).toUTF8
    outcome (fun _ => (file "stop".toList).content) words
      = ⟨0, "func start() \x7b\n\x7d\nfunc stop() \x7b\n\x7d\n".toList, []⟩ ∧
    ∃ errors, errors ≠ [] ∧
      outcome (fun _ => (file "?".toList).content) words = ⟨1, [], errors⟩ := by
  intro words document file
  have hread : read words = .ok (.run (.render "m.json".toList ⟨['\t'], 0⟩)) := rfl
  let spec (name : Text) : Manifest.FunctionSpec := ⟨name, [], false, none, [], false, none, []⟩
  have hparse : ∀ name ∈ ["stop".toList, "?".toList],
      Manifest.parse (document name) = .ok ⟨[spec "start".toList, spec name]⟩ := by
    intro name hname
    let entry (name : Text) : Json.Value := .object [("name".toList, .scalar (.string name))]
    have hv : ∀ name ∈ ["stop".toList, "?".toList], Json.valueOf (document name)
        = .ok (.object [("functions".toList, .array [entry "start".toList, entry name])]) := by
      decide +kernel
    exact Manifest.parse_eq_ok_iff.2 (Manifest.ofText_eq_ok_iff.2 ⟨_, hv name hname, rfl⟩)
  constructor
  · have hdeclares : (file "stop".toList).Declares
        ⟨[(spec "start".toList).toDraft.finished, (spec "stop".toList).toDraft.finished]⟩ :=
      ⟨_, _, rfl, hparse _ (by decide), .cons rfl (.cons rfl .nil)⟩
    have hprints := (command_prints_all_or_nothing hread fun _ => file "stop".toList).1 _ hdeclares
    refine hprints.trans ?_
    decide +kernel
  · refine (command_prints_all_or_nothing hread fun _ => file "?".toList).2.1 fun s hs => ?_
    -- the file holds one text only, and its second entry is rejected
    obtain ⟨text, m, hfile, hm, hfs⟩ := hs
    have htext : document "?".toList = text :=
      Except.ok.inj ((content_eq_ok_iff.2 rfl).symm.trans (content_eq_ok_iff.2 hfile))
    obtain rfl := Except.ok.inj ((hparse "?".toList (by decide)).symm.trans (htext ▸ hm))
    obtain ⟨_, _, -, hfs, -⟩ := List.forall₂_cons_left_iff.1 hfs
    obtain ⟨_, _, hlast, -, -⟩ := List.forall₂_cons_left_iff.1 hfs
    cases hlast

end CommandLine

end SwiftDecl
