import PathRouter.Json.Reader

/-!
# Records in JSON texts

A record is written as an object, its members in any order, or as an array of its fields in their
fixed order. Members that belong to no field are skipped, and a field with a default may be
missing; in an array only fields at the end can be. `Layout.read` reads either form into a draft,
field by field.
-/

namespace PathRouter.Json

/-- A field of a record that is being read into a draft of type `σ`. -/
structure Field (σ : Type) where
  /-- The key of the field. -/
  key : String
  /-- Whether the field has a default. -/
  hasDefault : Bool
  /-- Whether the draft has the field already. -/
  isSet : σ → Bool
  /-- Reads the field into a draft. -/
  read : σ → Reader σ

/-- A field given by a reader of its value and by access to its place in the draft. -/
def Field.of {σ α : Type} (key : String) (hasDefault : Bool) (get : σ → Option α)
    (set : σ → α → σ) (read : Reader α) : Field σ where
  key
  hasDefault
  isSet draft := (get draft).isSome
  read draft := fun stray levels cs => (read stray levels cs).map fun (a, cs) => (set draft a, cs)

/-- The form of a record: its name and its fields. -/
structure Layout (σ : Type) where
  /-- The name, for messages. -/
  name : String
  /-- The fields in their fixed order. -/
  fields : List (Field σ)

namespace Layout

variable {σ : Type}

/-- The first field without a default that a draft lacks. -/
def missing? (l : Layout σ) (draft : σ) : Option (Field σ) :=
  l.fields.find? fun f => !f.hasDefault && !f.isSet draft

/-- Reads the members of a record that is written as an object, up to its closing brace. -/
def readMembers (l : Layout σ) (stray : Option Char) (levels : Nat) :
    (fuel : Nat) → (first : Bool) → σ → List Char → Parsed σ
  | 0, _, _, _ => .error .malformed
  | fuel + 1, first, draft, cs =>
    match nextKey (readText stray) first cs with
    | .error e => .error e
    | .ok (none, cs) =>
      match l.missing? draft with
      | some f => .error (.data (.missingField f.key))
      | none => .ok (draft, cs)
    | .ok (some key, cs) =>
      match l.fields.find? fun f => f.key == key with
      | none =>
        match readColon cs with
        | .error e => .error e
        | .ok cs =>
          match skipValue stray cs with
          | .error e => .error e
          | .ok (_, cs) => readMembers l stray levels fuel false draft cs
      | some f =>
        if f.isSet draft then .error (.data (.duplicateField key))
        else
          match readColon cs with
          | .error e => .error e
          | .ok cs =>
            match f.read draft stray levels cs with
            | .error e => .error e
            | .ok (draft, cs) => readMembers l stray levels fuel false draft cs

/-- Reads the fields of a record that is written as an array, up to its closing bracket. `index`
counts the fields before. -/
def readPositions (l : Layout σ) (stray : Option Char) (levels : Nat) :
    List (Field σ) → (index : Nat) → σ → List Char → Parsed σ
  | [], _, draft, cs =>
    match skipBlank cs with
    | [] => .error .unfinished
    | c :: cs => if c = ']' then .ok (draft, cs) else .error .malformed
  | f :: fs, index, draft, cs =>
    match nextItem (index == 0) cs with
    | .error e => .error e
    | .ok (false, cs) =>
      if f.hasDefault then readPositions l stray levels fs (index + 1) draft cs
      else .error (.data (.tooShort index l.name l.fields.length))
    | .ok (true, cs) =>
      match f.read draft stray levels cs with
      | .error e => .error e
      | .ok (draft, cs) => readPositions l stray levels fs (index + 1) draft cs

/-- Reads a record into a draft. -/
def read (l : Layout σ) (blank : σ) : Reader σ := fun stray levels cs =>
  match skipBlank cs with
  | [] => .error .unfinished
  | c :: cs =>
    if c = '[' then
      match levels with
      | 0 => .error .malformed
      | levels + 1 => l.readPositions stray levels l.fields 0 blank cs
    else if c = '\x7B' then
      match levels with
      | 0 => .error .malformed
      | levels + 1 => l.readMembers stray levels (cs.length + 1) true blank cs
    else refuse stray (.record l.name) c cs

end Layout

end PathRouter.Json
