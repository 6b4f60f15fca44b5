import PathRouter.Json.Printer
import PathRouter.Routing.Route

/-!
# Answering requests

A request is a path and a method. Routes are asked in order, and the first one that recognises the
path and accepts the method answers. If routes recognise the path and none accepts the method, the
answer lists all methods they accept.
-/

namespace PathRouter

/-- Types with a written form as JSON. -/
class ToJson (α : Type) where
  /-- The JSON form. -/
  toJson : α → Json

export ToJson (toJson)

instance : ToJson String := ⟨.str⟩

instance : ToJson Json := ⟨id⟩

instance : ToJson Methods := ⟨fun m => Json.strings m.toList⟩

/-- The answer to a request. -/
inductive Outcome (α : Type) where
  /-- A route answers. -/
  | found (target : α) (captures : Captures)
  /-- Routes recognise the path, but accept other methods only. -/
  | notAllowed (allowed : NameSet)
  /-- No route recognises the path. -/
  | notFound
deriving DecidableEq

namespace Outcome

variable {α : Type}

/-- The status code. -/
def status : Outcome α → Nat
  | found _ _ => 200
  | notAllowed _ => 405
  | notFound => 404

/-- Whether a route answers. -/
def isFound : Outcome α → Bool
  | found _ _ => true
  | _ => false

/-- The captures as an object, in their order. -/
def capturesJson (captures : Captures) : Json :=
  .obj (captures.map fun c => (c.1, .str c.2))

/-- The JSON form of an answer. -/
def json [ToJson α] : Outcome α → Json
  | found target captures =>
    .obj [("result", .str "found"), ("target", toJson target), ("captures", capturesJson captures)]
  | notAllowed allowed =>
    .obj [("result", .str "not_allowed"), ("allowed", Json.strings allowed.names)]
  | notFound => .obj [("result", .str "not_found")]

end Outcome

/-- The decision on a request, with the route that answers it. -/
inductive Verdict (α : Type) where
  /-- A route answers. -/
  | found (route : CompiledRoute α) (captures : Captures)
  /-- Routes recognise the path, but accept other methods only. -/
  | notAllowed (allowed : NameSet)
  /-- No route recognises the path. -/
  | notFound

namespace Verdict

variable {α : Type}

/-- The answer. -/
def outcome : Verdict α → Outcome α
  | found route captures => .found route.target captures
  | notAllowed allowed => .notAllowed allowed
  | notFound => .notFound

/-- Asks routes in order. `allowed` holds the methods of the routes before that recognise the
path. -/
def scan (path method : String) (allowed : NameSet) : List (CompiledRoute α) → Verdict α
  | [] => if allowed.isEmpty then notFound else notAllowed allowed
  | r :: rs =>
    match r.matchPath path with
    | none => scan path method allowed rs
    | some captures =>
      if r.methods.accepts method then found r captures
      else scan path method (allowed.insertAll r.methods.toList) rs

/-- The decision of some routes. -/
def ofRoutes (routes : List (CompiledRoute α)) (path method : String) : Verdict α :=
  scan path method .empty routes

end Verdict

/-- The answer of some routes to a request. -/
def matchRoutes {α : Type} (routes : List (CompiledRoute α)) (path method : String) : Outcome α :=
  (Verdict.ofRoutes routes path method).outcome

end PathRouter
