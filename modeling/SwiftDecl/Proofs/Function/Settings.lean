import SwiftDecl.Proofs.Function.Bindings
import SwiftDecl.Proofs.Rows
import Mathlib.Data.List.DropRight

/-!
# What a run of steps leaves of a draft

A draft is made by steps of three kinds. Most of them replace a setting, whatever it was before; two
add parameters behind those that are there; and comments can be replaced all together or added one
by one. No step reads a part of the draft that it does not write. So the draft after a run can be
read off the run, without going through the drafts on the way (`editedBy_named`), and nothing else
of the run is left in what is built: not how steps on different parts are interleaved, nor whether
a draft on the way would have been rejected (`last_settings_decide`).
-/

namespace SwiftDecl

namespace Draft

/-! ## What a step gives -/

/-- A part of a draft that steps change. -/
inductive Part where
  | comments
  | isStatic
  | generics
  | params
  | throws
  | returns
  | body
deriving DecidableEq

namespace Edit

/-- The part that a step changes. -/
def part : Edit → Part
  | .comments _ | .comment _ => .comments
  | .isStatic _ => .isStatic
  | .generics _ => .generics
  | .param _ | .params _ => .params
  | .throws _ => .throws
  | .returns _ => .returns
  | .body _ => .body

/-- The comments with which a step replaces all others. -/
def comments? : Edit → Option (List Text)
  | .comments lines => some lines
  | _ => none

/-- The comment that a step adds. -/
def comment? : Edit → Option Text
  | .comment line => some line
  | _ => none

/-- Whether the function is to be static, by a step that says so or not. -/
def isStatic? : Edit → Option Bool
  | .isStatic b => some b
  | _ => none

/-- The generics clause that a step gives. -/
def generics? : Edit → Option Text
  | .generics clause => some clause
  | _ => none

/-- Whether the function is to throw, by a step that says so or not. -/
def throws? : Edit → Option Bool
  | .throws b => some b
  | _ => none

/-- The return type that a step gives. -/
def returns? : Edit → Option TypeRef
  | .returns type => some type
  | _ => none

/-- The body that a step gives. -/
def body? : Edit → Option Text
  | .body text => some text
  | _ => none

end Edit

/-! ## What a run gives -/

variable {run run' : List Edit} {e e' : Edit}

/-- **The comments that a run leaves**: those of the last step that replaces them all, if there is
one, and behind them each that is added after it. -/
def commentsLeft (run : List Edit) : List Text :=
  (lastGiven Edit.comments? run).getD []
    ++ (run.rtakeWhile fun e => e.comments?.isNone).filterMap Edit.comment?

theorem commentsLeft_concat (run : List Edit) (e : Edit) :
    commentsLeft (run ++ [e]) = e.comments?.getD (commentsLeft run ++ e.comment?.toList) := by
  unfold commentsLeft
  rw [lastGiven_concat]
  cases e with
  | comments lines => simp [Edit.comments?, List.rtakeWhile_concat_neg]
  | _ => simp [Edit.comments?, Edit.comment?, List.rtakeWhile_concat_pos]

/-- **The draft with what a run leaves of each part**, or what a draft starts with where the run
gives nothing. -/
def settled (name : Text) (run : List Edit) : Draft where
  name := name
  comments := commentsLeft run
  isStatic := (lastGiven Edit.isStatic? run).getD false
  generics := lastGiven Edit.generics? run
  params := run.flatMap Edit.added
  throws := (lastGiven Edit.throws? run).getD false
  returns := (lastGiven Edit.returns? run).getD .void
  body := (lastGiven Edit.body? run).getD []

/-- **A step changes its part as one more step of the run does**, and no other part. -/
theorem settled_edited (name : Text) (run : List Edit) (e : Edit) :
    (settled name run).edited e = settled name (run ++ [e]) := by
  simp only [settled, lastGiven_concat, commentsLeft_concat, List.flatMap_append,
    List.flatMap_singleton]
  cases e <;> simp [edited, Edit.comments?, Edit.comment?, Edit.isStatic?, Edit.generics?,
    Edit.added, Edit.throws?, Edit.returns?, Edit.body?]

theorem editedBy_append (d : Draft) (run run' : List Edit) :
    d.editedBy (run ++ run') = (d.editedBy run).editedBy run' :=
  List.foldl_append

/-- **A run of steps leaves the draft that is read off it.** -/
theorem editedBy_named (name : Text) (run : List Edit) :
    (named name).editedBy run = settled name run := by
  induction run using List.reverseRecOn with
  | nil => rfl
  | append_singleton run e ih =>
    rw [editedBy_append, ih, ← settled_edited]
    rfl

/-- **Runs that settle all parts alike**: they give the same last value of each setting, or none,
they leave the same comments, and add the same parameters in the same order. -/
structure SettledAlike (run run' : List Edit) : Prop where
  comments : commentsLeft run = commentsLeft run'
  isStatic : lastGiven Edit.isStatic? run = lastGiven Edit.isStatic? run'
  generics : lastGiven Edit.generics? run = lastGiven Edit.generics? run'
  params : run.flatMap Edit.added = run'.flatMap Edit.added
  throws : lastGiven Edit.throws? run = lastGiven Edit.throws? run'
  returns : lastGiven Edit.returns? run = lastGiven Edit.returns? run'
  body : lastGiven Edit.body? run = lastGiven Edit.body? run'

theorem SettledAlike.settled_eq (h : SettledAlike run run') (name : Text) :
    settled name run = settled name run' := by
  rw [settled, settled, h.comments, h.isStatic, h.generics, h.params, h.throws, h.returns, h.body]

/-- **Steps on different parts commute.** -/
theorem edited_comm (h : e.part ≠ e'.part) (d : Draft) :
    (d.edited e).edited e' = (d.edited e').edited e := by
  -- steps write fields apart and read nothing else, unless they are on one part
  cases e <;> cases e' <;> first | rfl | exact absurd rfl h

end Draft

/-- **The last settings decide what is built**, with the comments and parameters in their order. A
run of steps is built as the draft that is read off it, so runs that settle all parts alike have one
result: the same function, or the same rejection. Two neighbouring steps on different parts may
change places; and where a run goes on behind a draft that is rejected, the result is that of any
run that settles all parts alike, whatever drafts it goes through. -/
theorem last_settings_decide (name : Text) :
    (∀ run, ((Draft.named name).editedBy run).build = (Draft.settled name run).build) ∧
    (∀ run run', Draft.SettledAlike run run' →
      ((Draft.named name).editedBy run).build = ((Draft.named name).editedBy run').build) ∧
    (∀ before after e e', Draft.Edit.part e ≠ Draft.Edit.part e' →
      ((Draft.named name).editedBy (before ++ e :: e' :: after)).build
        = ((Draft.named name).editedBy (before ++ e' :: e :: after)).build) ∧
    ∀ before after run' r, ((Draft.named name).editedBy before).build = .error r →
      Draft.SettledAlike (before ++ after) run' →
      (((Draft.named name).editedBy before).editedBy after).build
        = ((Draft.named name).editedBy run').build := by
  have hsettled : ∀ run run', Draft.SettledAlike run run' →
      ((Draft.named name).editedBy run).build = ((Draft.named name).editedBy run').build := by
    intro run run' h
    rw [Draft.editedBy_named, Draft.editedBy_named, h.settled_eq]
  refine ⟨fun run => by rw [Draft.editedBy_named], hsettled, fun before after e e' h => ?_,
    fun before after run' r _ h => ?_⟩
  · have hswapped : ∀ d : Draft, d.editedBy (e :: e' :: after) = d.editedBy (e' :: e :: after) :=
      fun d => congrArg (Draft.editedBy · after) (Draft.edited_comm h d)
    rw [Draft.editedBy_append, hswapped, ← Draft.editedBy_append]
  · rw [← Draft.editedBy_append]
    exact hsettled _ _ h

/-- Steps to a draft with a blank generics clause. -/
def blankGenerics : List Draft.Edit :=
  [.comment "Old.".toList, .throws true, .param (.named "row".toList .int), .generics " ".toList]

/-- Steps that go on from there. -/
def mending : List Draft.Edit :=
  [.comments ["New.".toList], .returns .string, .generics "T".toList,
    .params [.named "column".toList .int, .named "value".toList (.named "T".toList)],
    .comment "Newer.".toList, .throws false, .body "fill()".toList, .returns .bool]

/-- Each setting once, in another order. -/
def settingOnce : List Draft.Edit :=
  [.body "fill()".toList, .generics "T".toList, .throws false,
    .params [.named "row".toList .int, .named "column".toList .int,
      .named "value".toList (.named "T".toList)],
    .returns .bool, .comment "New.".toList, .comment "Newer.".toList]

/-- The draft on the way is rejected, and what is built in the end is the same as without it. -/
theorem mending_settles_alike :
    ((Draft.named "fill".toList).editedBy blankGenerics).build
        = .error (.emptyGenerics (.ofName "fill".toList)) ∧
      Draft.SettledAlike (blankGenerics ++ mending) settingOnce ∧
      (∃ f, (((Draft.named "fill".toList).editedBy blankGenerics).editedBy mending).build = .ok f ∧
        ((Draft.named "fill".toList).editedBy settingOnce).build = .ok f ∧
        f.signature = "func fill<T>(row: Int, column: Int, value: T) -> Bool".toList ∧
        f.comments = ["New.".toList, "Newer.".toList]) ∧
      ((Draft.named "-".toList).editedBy (blankGenerics ++ mending)).build
        = ((Draft.named "-".toList).editedBy settingOnce).build ∧
      ((Draft.named "fill".toList).editedBy
          [.throws true, .generics "T".toList, .comment "New.".toList]).build
        = ((Draft.named "fill".toList).editedBy
          [.throws true, .comment "New.".toList, .generics "T".toList]).build := by
  have hrejected : ((Draft.named "fill".toList).editedBy blankGenerics).build
      = .error (.emptyGenerics (.ofName "fill".toList)) := rfl
  have halike : Draft.SettledAlike (blankGenerics ++ mending) settingOnce := by
    constructor <;> rfl
  obtain ⟨-, -, hcommute, hmended⟩ := last_settings_decide "fill".toList
  refine ⟨hrejected, halike, ?_, (last_settings_decide "-".toList).2.1 _ _ halike,
    hcommute [.throws true] [] (.generics "T".toList) (.comment "New.".toList) (by decide)⟩
  have hbuilt : ((Draft.named "fill".toList).editedBy settingOnce).build
      = .ok ((Draft.named "fill".toList).editedBy settingOnce).finished := rfl
  exact ⟨_, (hmended _ _ _ _ hrejected halike).trans hbuilt, hbuilt, by decide +kernel, rfl⟩

end SwiftDecl
