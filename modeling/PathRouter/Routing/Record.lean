import PathRouter.Json.Record
import PathRouter.Routing.Outcome

/-!
# Records of compiled routes

A compiled route is written as an object with its path, methods and target, and with its matcher
unless paths are compared by equality; a matcher is written as the text of its regular expression
and its capture names. Reading accepts every form that `Json.Layout.read` does, and compiles no
pattern: the regular expression is taken from the record.
-/

namespace PathRouter

open Json (Reader Field Layout ReadError DecodeError)

/-- Types with a reader of their JSON form. -/
class FromJson (α : Type) where
  /-- The reader. -/
  read : Reader α

instance : FromJson String := ⟨Json.readString⟩

instance : FromJson Json := ⟨Json.readValue⟩

/-! ## Methods -/

/-- Reads a list of methods. -/
def Methods.read : Reader Methods :=
  Json.readChecked (Json.readList Json.readString) fun names => .ok (Methods.ofList names)

/-! ## Matchers -/

namespace CompiledPattern

/-- The JSON form of a pattern. -/
def json (p : CompiledPattern) : Json :=
  .obj [("regex", .str p.regex.source), ("captures", Json.strings p.captureNames)]

/-- A pattern that is being read. -/
structure Draft where
  /-- The text of the regular expression. -/
  regex : Option String := none
  /-- The capture names. -/
  captures : Option (List String) := none

/-- The form of a pattern. -/
def layout : Layout Draft where
  name := "RawPattern"
  fields := [
    .of "regex" false Draft.regex (fun d s => { d with regex := some s }) Json.readString,
    .of "captures" false Draft.captures (fun d l => { d with captures := some l })
      (Json.readList Json.readString)]

/-- The pattern of a draft. -/
def ofDraft (d : Draft) : Except DecodeError CompiledPattern :=
  match ofParts (d.regex.getD "") (d.captures.getD []) with
  | .error e => .error (.rejected e.message)
  | .ok p => .ok p

/-- Reads a pattern. -/
def read : Reader CompiledPattern :=
  Json.readChecked (layout.read {}) ofDraft

end CompiledPattern

namespace CompiledPath

/-- The JSON form, if there is something to write. -/
def json? : CompiledPath → Option Json
  | literal => none
  | pattern p => some p.json

/-- Reads a pattern, or `null` for comparison by equality. -/
def read : Reader CompiledPath :=
  Json.readChecked (Json.readOptional CompiledPattern.read) fun
    | none => .ok literal
    | some p => .ok (pattern p)

end CompiledPath

/-! ## Routes -/

namespace CompiledRoute

variable {α : Type}

/-- The members of a record. -/
def members [ToJson α] (r : CompiledRoute α) : List (String × Json) :=
  [("path", .str r.path), ("methods", toJson r.methods), ("target", toJson r.target)]
    ++ (r.matcher.json?.map fun m => ("matcher", m)).toList

/-- The JSON form of a record. -/
def json [ToJson α] (r : CompiledRoute α) : Json :=
  .obj r.members

/-- A record that is being read. -/
structure Draft (α : Type) where
  /-- The pattern. -/
  path : Option String := none
  /-- The accepted methods. -/
  methods : Option Methods := none
  /-- What the route leads to. -/
  target : Option α := none
  /-- How paths are recognised. -/
  matcher : Option CompiledPath := none

/-- The form of a record. -/
def layout [FromJson α] : Layout (Draft α) where
  name := "CompiledRoute"
  fields := [
    .of "path" false Draft.path (fun d s => { d with path := some s }) Json.readString,
    .of "methods" true Draft.methods (fun d m => { d with methods := some m }) Methods.read,
    .of "target" false Draft.target (fun d t => { d with target := some t }) FromJson.read,
    .of "matcher" true Draft.matcher (fun d m => { d with matcher := some m }) CompiledPath.read]

/-- The record of a draft. -/
def ofDraft (d : Draft α) : Except DecodeError (CompiledRoute α) :=
  match d.path, d.target with
  | none, _ => .error (.missingField "path")
  | _, none => .error (.missingField "target")
  | some path, some target =>
    .ok { path, methods := d.methods.getD .any, target, matcher := d.matcher.getD .literal }

/-- Reads a record. -/
def read [FromJson α] : Reader (CompiledRoute α) :=
  Json.readChecked (layout.read {}) ofDraft

end CompiledRoute

/-- The indented text of a list of records. -/
def writeRecords {α : Type} [ToJson α] (routes : List (CompiledRoute α)) : String :=
  (Json.arr (routes.map CompiledRoute.json)).pretty

/-- Reads a list of records. -/
def readRecords {α : Type} [FromJson α] (text : String) :
    Except ReadError (List (CompiledRoute α)) :=
  Json.readDocument (Json.readList CompiledRoute.read) text

/-- Reads a list of records from a text in which a character stands for stray bytes. -/
def readMarkedRecords {α : Type} [FromJson α] (stray : Option Char) (cs : List Char) :
    Except ReadError (List (CompiledRoute α)) :=
  Json.readWhole (Json.readList CompiledRoute.read) stray cs

end PathRouter
