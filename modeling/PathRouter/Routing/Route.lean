import PathRouter.Pattern.Compile
import PathRouter.Routing.Methods

/-!
# Routes

A route is a pattern, the methods it accepts and a target, which is handed back when the route
answers. `Route.compile` decides once how the route recognises paths.
-/

namespace PathRouter

/-- A route. -/
structure Route (α : Type) where
  /-- The pattern. -/
  path : String
  /-- The accepted methods. -/
  methods : Methods
  /-- What the route leads to. -/
  target : α
deriving DecidableEq

/-- A route with the way it recognises paths. -/
structure CompiledRoute (α : Type) where
  /-- The pattern. -/
  path : String
  /-- The accepted methods. -/
  methods : Methods
  /-- What the route leads to. -/
  target : α
  /-- How paths are recognised. -/
  matcher : CompiledPath
deriving DecidableEq

variable {α : Type}

/-- Compiles the pattern of a route. -/
def Route.compile (r : Route α) : Except PatternError (CompiledRoute α) := do
  return {
    path := r.path, methods := r.methods, target := r.target, matcher := ← compilePath r.path }

namespace CompiledRoute

/-- The route without its matcher. -/
def route (r : CompiledRoute α) : Route α where
  path := r.path
  methods := r.methods
  target := r.target

/-- The captures if the route recognises a path. -/
def matchPath (r : CompiledRoute α) (path : String) : Option Captures :=
  match r.matcher with
  | .literal => if r.path = path then some [] else none
  | .pattern p => p.captures? path

end CompiledRoute

/-- Compiles routes in order, up to the first one that fails. -/
def compileRoutes : List (Route α) → Except PatternError (List (CompiledRoute α))
  | [] => .ok []
  | r :: rs =>
    match r.compile with
    | .error e => .error e
    | .ok c =>
      match compileRoutes rs with
      | .error e => .error e
      | .ok cs => .ok (c :: cs)

end PathRouter
