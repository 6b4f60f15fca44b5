import PathRouter.RouteFile.Basic
import PathRouter.Unicode.Blank

/-!
# Problems in route files

A route file may be well formed and still make no sense: a target may be blank, a method name may
be blank, and a pattern may not compile. `RouteFile.problems` lists everything, in the order in
which the routes are registered.
-/

namespace PathRouter

/-- A problem with a route. The path carries the stems of the groups around it. -/
inductive Problem where
  /-- The target is blank. -/
  | emptyTarget (path : String)
  /-- A method name is blank. -/
  | blankMethod (path : String)
  /-- The pattern does not compile. -/
  | pattern (e : PatternError)
deriving DecidableEq

/-- The wording. -/
def Problem.message : Problem → String
  | emptyTarget path => "route '" ++ path ++ "' has an empty target"
  | blankMethod path => "route '" ++ path ++ "' lists a blank method name"
  | pattern e => e.message

/-- The problems with a route under a stem. -/
def RouteEntry.problems (stem : String) (r : RouteEntry) : List Problem :=
  let path := stem ++ r.path
  (if Unicode.isBlank r.target then [.emptyTarget path] else [])
    ++ (if r.methods.toList.any Unicode.isBlank then [.blankMethod path] else [])
    ++ match compilePath path with
      | .error e => [.pattern e]
      | .ok _ => []

namespace RouteGroup

mutual

/-- The problems in a group under a stem. -/
def problems (stem : String) : RouteGroup → List Problem
  | ⟨own, routes, groups⟩ =>
    routes.flatMap (RouteEntry.problems (stem ++ own)) ++ problemsOfAll (stem ++ own) groups

/-- The problems in some groups under a stem. -/
def problemsOfAll (stem : String) : List RouteGroup → List Problem
  | [] => []
  | g :: gs => problems stem g ++ problemsOfAll stem gs

end

end RouteGroup

/-- The problems in a route file. -/
def RouteFile.problems (f : RouteFile) : List Problem :=
  f.routes.flatMap (RouteEntry.problems "") ++ RouteGroup.problemsOfAll "" f.groups

end PathRouter
