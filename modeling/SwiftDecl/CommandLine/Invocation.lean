import SwiftDecl.CommandLine.Usage

/-!
# Reading a command line

The words of a command line are read from left to right. An option may have its value attached by an
equals sign or as the next word; two dashes end the options; options and manifest come in any order.
A value is looked at only when the next argument is recognized or the words are at their end, so
what is wrong with a later word may be found before what is wrong with an earlier value.
-/

namespace SwiftDecl

namespace CommandLine

/-- What a command line asks for. -/
inductive Invocation where
  | run (c : Command)
  | help (t : Topic)
  | version

/-! ## Words -/

/-- What kind of word it is, read by its dashes. -/
inductive Word where
  /-- Two dashes alone. -/
  | escape
  /-- Two dashes and a name, perhaps with a value after an equals sign. -/
  | long (name : Text) (value : Option Text)
  /-- One dash and a letter, further letters left out. -/
  | short (letter : Char)
  | plain (t : Text)

/-- A text cut at its first equals sign. -/
def cutAtEquals (t : Text) : Text × Option Text :=
  match t.dropWhile (· != '=') with
  | [] => (t, none)
  | _ :: value => (t.takeWhile (· != '='), some value)

/-- The kind of a word. -/
def Word.of : Text → Word
  | ['-', '-'] => .escape
  | '-' :: '-' :: rest => .long (cutAtEquals rest).1 (cutAtEquals rest).2
  | '-' :: letter :: _ => .short letter
  | t => .plain t

/-! ## Arguments of a command -/

/-- An argument that was given, with its value. -/
inductive Given where
  | manifest (path : Text)
  | indentWidth (n : Nat)
  | tabs
  | blankLines (n : Nat)
  | unique
  | imports

/-- The argument that was given. -/
def Given.argument : Given → Argument
  | manifest _ => .manifest
  | indentWidth _ => .indentWidth
  | tabs => .tabs
  | blankLines _ => .blankLines
  | unique => .unique
  | imports => .imports

/-- The number given for an argument. -/
def numberFor (a : Argument) (given : Nat → Given) (value : Text) : Except Misuse Given :=
  match readNumber value with
  | .ok n => .ok (given n)
  | .error why => .error (.invalidValue value a why)

/-- An argument together with its value, if the value is one. -/
def Given.of (a : Argument) (value : Text) : Except Misuse Given :=
  match a with
  | .manifest => if value.isEmpty then .error (.valueMissing .manifest) else .ok (.manifest value)
  | .indentWidth => numberFor .indentWidth .indentWidth value
  | .blankLines => numberFor .blankLines .blankLines value
  | .tabs => .ok .tabs
  | .unique => .ok .unique
  | .imports => .ok .imports

/-- An argument whose value has not been looked at, and may still be to come. -/
structure Pending where
  argument : Argument
  value : Option Text

/-- The words read so far. -/
structure Progress where
  /-- What has been given, in order. -/
  given : List Given
  pending : Option Pending
  /-- Whether a manifest was given, looked at or not. -/
  hasManifest : Bool
  /-- Whether the options are over. -/
  escaped : Bool

namespace Progress

/-- Nothing read. -/
def start : Progress :=
  ⟨[], none, false, false⟩

/-- Whether an argument has been given. -/
def has (p : Progress) (a : Argument) : Bool :=
  p.given.any (·.argument = a)

/-- Adds an argument, which may not be there already, with its value. -/
def add (p : Progress) (a : Argument) (value : Text) : Except Misuse Progress := do
  if p.has a then throw (.repeated a)
  let given ← Given.of a value
  return { p with given := p.given ++ [given], pending := none }

/-- Looks at the value that has been put off. -/
def settled (p : Progress) : Except Misuse Progress :=
  match p.pending with
  | none => .ok p
  | some ⟨a, some value⟩ => p.add a value
  | some ⟨a, none⟩ => .error (.valueMissing a)

/-- Reads a word that is a value or the manifest. -/
def plain (p : Progress) (word : Text) : Except Misuse Progress :=
  match p.pending, p.escaped with
  | some ⟨a, none⟩, false => .ok { p with pending := some ⟨a, some word⟩ }
  | _, _ =>
    if p.hasManifest then .error (.unexpected word)
    else do
      let p ← p.settled
      return { p with pending := some ⟨.manifest, some word⟩, hasManifest := true }

/-- Reads an option by its name, with the value attached to it. -/
def option (p : Progress) (a : Argument) : Option Text → Except Misuse Progress
  | none => do
    let p ← p.settled
    if a.takesValue then return { p with pending := some ⟨a, none⟩ } else p.add a []
  | some value =>
    if a.takesValue then do
      let p ← p.settled
      p.add a value
    else .error (.valueUnexpected value a.shown)

end Progress

/-- Either more words are to be read, or help has been asked for. -/
inductive Reading where
  | more (p : Progress)
  | help

/-- Asks for help, once the value before has been looked at. -/
def askHelp (p : Progress) : Except Misuse Reading := do
  let _ ← p.settled
  return .help

/-- Reads a word of a command. -/
def readWord (v : Verb) (p : Progress) (word : Text) : Except Misuse Reading :=
  if p.escaped then (p.plain word).map .more
  else
    match Word.of word with
    | .escape => .ok (.more { p with escaped := true })
    | .long name value =>
      if name = "help".toList then
        match value with
        | none => askHelp p
        | some value => .error (.valueUnexpected value "--help".toList)
      else
        match (Argument.optionsOf v).find? (·.word == name) with
        | some a => (p.option a value).map .more
        | none => .error (.unexpected ('-' :: '-' :: name))
    | .short letter =>
      if letter = 'h' then askHelp p else .error (.unexpected ['-', letter])
    | .plain t => (p.plain t).map .more

/-- The first of the given arguments that another one excludes, and that other one. -/
def exclusion? (given : List Given) : Option (Argument × Argument) :=
  given.findSome? fun a =>
    (given.find? fun b => a.argument.excludes b.argument).map fun b => (a.argument, b.argument)

/-- The path that was given. -/
def pathOf? (given : List Given) : Option Text :=
  given.findSome? fun
    | .manifest path => some path
    | _ => none

/-- The choice of layout that an argument makes. -/
def Given.choice? : Given → Option Layout.Config.Choice
  | indentWidth n => some (.width n)
  | tabs => some .tabs
  | blankLines n => some (.blankLines n)
  | _ => none

/-- What is to be listed. -/
def listingOf (given : List Given) : Listing :=
  if given.any (·.argument = .imports) then .imports
  else if given.any (·.argument = .unique) then .unique
  else .all

/-- The command with what it was given. -/
def commandOf (v : Verb) (path : Text) (given : List Given) : Command :=
  match v with
  | .render => .render path (.ofChoices (given.filterMap Given.choice?))
  | .usedTypes => .usedTypes path (listingOf given)

/-- Puts a command together when all its words have been read. -/
def finish (v : Verb) (p : Progress) : Except Misuse Invocation := do
  let p ← p.settled
  match exclusion? p.given with
  | some (a, b) => throw (.exclusive a b)
  | none =>
    match pathOf? p.given with
    | some path => return .run (commandOf v path p.given)
    | none => throw .missingManifest

/-- Reads the words of a command. -/
def readWords (v : Verb) (p : Progress) : List Text → Except Misuse Invocation
  | [] => finish v p
  | word :: more =>
    match readWord v p word with
    | .error e => .error e
    | .ok .help => .ok (.help (.verb v))
    | .ok (.more p) => readWords v p more

/-! ## Commands -/

/-- The word of the help command. -/
def helpWord : Text :=
  "help".toList

/-- Reads the words after the help command, which lead from topic to topic. -/
def readTopic : List Text → Except Misuse Invocation
  | [] => .ok (.help .program)
  | word :: more =>
    let topic? := if word = helpWord then some Topic.help else (Verb.ofWord? word).map .verb
    match topic?, more with
    | none, _ => .error (.unknownCommand word)
    | some topic, [] => .ok (.help topic)
    | some _, next :: _ => .error (.unknownCommand next)

/-- Reads a command line whose options are over: no command may follow. -/
def readEscaped : List Text → Except Misuse Invocation
  | [] => .error .noCommand
  | word :: _ =>
    if word = helpWord ∨ (Verb.ofWord? word).isSome then .error (.unexpected word)
    else .error (.unknownCommand word)

/-- **Reads a command line.** Options of the program itself are answered at once. -/
def read : List Text → Except Misuse Invocation
  | [] => .error .noCommand
  | word :: more =>
    if word = helpWord then readTopic more
    else
      match Verb.ofWord? word with
      | some v => readWords v .start more
      | none =>
        match Word.of word with
        | .escape => readEscaped more
        | .long name value =>
          if name = "help".toList ∨ name = "version".toList then
            match value with
            | some value => .error (.valueUnexpected value ('-' :: '-' :: name))
            | none => .ok (if name = "help".toList then .help .program else .version)
          else .error (.unexpected ('-' :: '-' :: name))
        | .short letter =>
          if letter = 'h' then .ok (.help .program)
          else if letter = 'V' then .ok .version
          else .error (.unexpected ['-', letter])
        | .plain t => .error (.unknownCommand t)

end CommandLine

end SwiftDecl
