import SwiftDecl.Json.Shape

/-!
# Reading records

A record is written as an object with its fields as keys, or as an array of the fields in order. No
key may be foreign to the record or given twice. A field that is left out keeps what the record
starts with, unless it is required. What is wrong with a field and has no place of its own gets one
from the record: where reading stands once the record has been closed as far as the text allows.
-/

namespace SwiftDecl

namespace Json

/-- A field of a record that is being gathered in `σ`. -/
structure RecordField (σ : Type) where
  key : Text
  /-- Whether the field was given. -/
  isGiven : σ → Bool
  /-- Reads the value of the field. -/
  read : Tree → σ → Except Refusal σ

/-- How a record is read: its fields in order, what is known before any of them is read, and the
record itself or the first required field that is missing. -/
structure RecordSchema (σ α : Type) where
  name : Text
  fields : List (RecordField σ)
  start : σ
  finish : σ → Except Text α

/-- A refusal, put at a place if it has none. -/
def Refusal.orAt (p : Place) (r : Refusal) : Refusal :=
  ⟨r.cause, some (r.place.getD p)⟩

/-- Where reading stands after the end of an object that is given up here. -/
def closedObject (t : Text) : Place :=
  match skipSpace t with
  | '\x7d' :: rest => .before rest
  | rest => .before rest

/-- Where reading stands after the end of an array that is given up here. -/
def closedArray (t : Text) : Place :=
  match skipSpace t with
  | ']' :: rest => .before rest
  | ',' :: rest => .before (skipSpace rest)
  | rest => .before rest

/-- Requires the end of an array whose items have all been read. -/
def endOfArray (t : Text) : Except Refusal Unit :=
  match skipSpace t with
  | [] => .error (.ofFault .listEnds (.before []))
  | ']' :: _ => .ok ()
  | ',' :: rest =>
    match skipSpace rest with
    | ']' :: more => .error (.ofFault .trailingComma (.within (']' :: more)))
    | more => .error (.ofFault .trailingCharacters (.within more))
  | rest => .error (.ofFault .trailingCharacters (.within rest))

namespace RecordSchema

variable {σ α : Type}

/-- The keys of the record, in order. -/
def keys (s : RecordSchema σ α) : List Text :=
  s.fields.map (·.key)

/-- Reads the members of an object, with what the members before them gave. -/
def ofMembers (s : RecordSchema σ α) (known : σ) : Members → Except Refusal α
  | .closed rest =>
    match s.finish known with
    | .ok a => .ok a
    | .error key => .error ⟨.mismatch (.missingField key), some (.before rest)⟩
  | .broken r => .error r
  | .member key behindKey value more =>
    match s.fields.find? (·.key == key) with
    | none =>
      .error ⟨.mismatch (.unknownField key s.keys), some (closedObject behindKey)⟩
    | some field =>
      if field.isGiven known then
        .error ⟨.mismatch (.repeatedField key), some (closedObject behindKey)⟩
      else
        match field.read value known, value.rest with
        | .ok known, _ => s.ofMembers known more
        | .error r, .ok behind => .error (r.orAt (closedObject behind))
        | .error r, .error _ => .error r

/-- Reads the items of an array as the fields that are left, `behind` being the text after the field
before them. -/
def ofItems (s : RecordSchema σ α) : List (RecordField σ) → σ → Text → Items → Except Refusal α
  | [], known, behind, _ =>
    match s.finish known with
    | .ok a => (endOfArray behind).map fun _ => a
    | .error key =>
      .error ⟨.mismatch (.missingField key), some (closedArray behind)⟩
  | _ :: _, known, _, .closed rest =>
    match s.finish known with
    | .ok a => .ok a
    | .error key =>
      .error ⟨.mismatch (.tooShort (s.keys.idxOf key) s.name s.fields.length), some (.before rest)⟩
  | _ :: _, _, _, .broken r => .error r
  | field :: fields, known, _, .item value more =>
    match field.read value known, value.rest with
    | .ok known, .ok behind => s.ofItems fields known behind more
    | .ok _, .error r => .error r
    | .error r, .ok behind => .error (r.orAt (closedArray behind))
    | .error r, .error _ => .error r

/-- Reads the record. -/
def decode (s : RecordSchema σ α) : Decoder α
  | .object _ members => s.ofMembers s.start members
  | .array start items => s.ofItems s.fields s.start (start.drop 1) items
  | v => .error (v.unexpected ("struct ".toList ++ s.name))

end RecordSchema

end Json

end SwiftDecl
