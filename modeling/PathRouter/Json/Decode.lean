import PathRouter.Json.Error

/-!
# Decoding values

A decoder turns a JSON value into a value of another type. Records are decoded like those of a
text: from an object, whose members are visited in their order, or from an array of the fields in
their fixed order. A `Dialect` holds what differs between the notations a value may come from.
-/

namespace PathRouter.Json

/-- What differs between notations. -/
structure Dialect where
  /-- The text of a number in double precision, for messages. -/
  floatText : UInt64 → List Char
  /-- Whether a record that is written as an array may go on after its last field. -/
  openEnded : Bool

/-- A decoder. -/
abbrev Decoder (α : Type) := Dialect → Json → Except ReadError α

/-- Reports a value of another kind. -/
def mismatch {α : Type} (wanted : Wanted) : Decoder α := fun dialect v =>
  .error (.data (.mismatch (Shape.ofJson dialect.floatText v) wanted))

/-- Decodes a string. -/
def decodeString : Decoder String := fun dialect v =>
  match v with
  | .str s => .ok s
  | v => mismatch .string dialect v

/-- Decodes the elements of a list. -/
def decodeItems {α : Type} (decode : Json → Except ReadError α) :
    List Json → Except ReadError (List α)
  | [] => .ok []
  | v :: vs =>
    match decode v with
    | .error e => .error e
    | .ok a =>
      match decodeItems decode vs with
      | .error e => .error e
      | .ok as => .ok (a :: as)

/-- Decodes a list. -/
def decodeList {α : Type} (decode : Decoder α) : Decoder (List α) := fun dialect v =>
  match v with
  | .arr items => decodeItems (decode dialect) items
  | v => mismatch .sequence dialect v

/-- Decodes `null` or a value. -/
def decodeOptional {α : Type} (decode : Decoder α) : Decoder (Option α) := fun dialect v =>
  match v with
  | .null => .ok none
  | v => (decode dialect v).map some

/-- A field of a record that is being decoded into a draft of type `σ`. -/
structure Slot (σ : Type) where
  /-- The key of the field. -/
  key : String
  /-- Whether the field has a default. -/
  hasDefault : Bool
  /-- Decodes the field into a draft. -/
  decode : Dialect → σ → Json → Except ReadError σ

/-- A field given by a decoder of its value and by its place in the draft. -/
def Slot.of {σ α : Type} (key : String) (hasDefault : Bool) (set : σ → α → σ)
    (decode : Decoder α) :
    Slot σ where
  key
  hasDefault
  decode dialect draft v := (decode dialect v).map (set draft)

/-- Decodes the members of an object that belong to fields. -/
def decodeMembers {σ : Type} (slots : List (Slot σ)) (dialect : Dialect) :
    σ → List (String × Json) → Except ReadError σ
  | draft, [] => .ok draft
  | draft, (key, v) :: ms =>
    match slots.find? fun s => s.key == key with
    | none => decodeMembers slots dialect draft ms
    | some s =>
      match s.decode dialect draft v with
      | .error e => .error e
      | .ok draft => decodeMembers slots dialect draft ms

/-- Decodes the elements of an array as fields. `name` and `fields` are for messages, and `index`
counts the fields before. -/
def decodePositions {σ : Type} (name : String) (fields : Nat) (dialect : Dialect) :
    List (Slot σ) → (index : Nat) → σ → List Json → Except ReadError σ
  | [], _, draft, [] => .ok draft
  | [], index, draft, _ :: rest =>
    if dialect.openEnded then .ok draft else .error (.data (.tooLong (index + rest.length + 1)))
  | s :: slots, index, draft, [] =>
    if s.hasDefault then decodePositions name fields dialect slots (index + 1) draft []
    else .error (.data (.tooShort index name fields))
  | s :: slots, index, draft, v :: rest =>
    match s.decode dialect draft v with
    | .error e => .error e
    | .ok draft => decodePositions name fields dialect slots (index + 1) draft rest

/-- Decodes a record into a draft. -/
def decodeRecord {σ : Type} (name : String) (slots : List (Slot σ)) (blank : σ) : Decoder σ :=
  fun dialect v =>
    match v with
    | .obj members =>
      match decodeMembers slots dialect blank members with
      | .error e => .error e
      | .ok draft =>
        match slots.find? fun s => !s.hasDefault && !members.any (·.1 == s.key) with
        | some s => .error (.data (.missingField s.key))
        | none => .ok draft
    | .arr items => decodePositions name slots.length dialect slots 0 blank items
    | v => mismatch (.record name) dialect v

mutual

/-- How deep arrays and objects are nested in a value. -/
def depth : Json → Nat
  | arr items => depthItems items + 1
  | obj members => depthMembers members + 1
  | _ => 0

/-- The depth of the deepest of some values. -/
def depthItems : List Json → Nat
  | [] => 0
  | v :: vs => max (depth v) (depthItems vs)

/-- The depth of the deepest value of some members. -/
def depthMembers : List (String × Json) → Nat
  | [] => 0
  | (_, v) :: ms => max (depth v) (depthMembers ms)

end

theorem depthItems_le_iff {vs : List Json} {n : Nat} :
    depthItems vs ≤ n ↔ ∀ v ∈ vs, depth v ≤ n := by
  induction vs with
  | nil => simp [depthItems]
  | cons v vs ih => simp only [depthItems, Nat.max_le, ih, List.forall_mem_cons]

theorem depthMembers_le_iff {ms : List (String × Json)} {n : Nat} :
    depthMembers ms ≤ n ↔ ∀ m ∈ ms, depth m.2 ≤ n := by
  induction ms with
  | nil => simp [depthMembers]
  | cons m ms ih => simp only [depthMembers, Nat.max_le, ih, List.forall_mem_cons]

end PathRouter.Json
