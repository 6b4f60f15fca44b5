import PathRouter.Command.Arguments

/-!
# Commands

The program is called with the path of a route file and a command: compile the routes into a cache
file, answer one request, list the routes, or answer requests from the standard input while the
route file is being watched.
-/

namespace PathRouter

/-- What the program shall do. -/
inductive Action where
  /-- Compile the routes and write the cache file, the one of the route file unless another is
  named. -/
  | compile (out : Option String)
  /-- Answer one request. -/
  | query (path method : String) (ignoreCache : Bool)
  /-- List the routes. -/
  | list
  /-- Answer the requests of the standard input. -/
  | watch
deriving DecidableEq, Repr

/-- A call of the program. -/
structure Command where
  /-- The path of the route file. -/
  config : String
  /-- What to do. -/
  action : Action
deriving DecidableEq, Repr

namespace Command

/-- The option for the route file. -/
def configOption : OptionName := { long := "config", short := some 'c' }

/-- The option for the cache file. -/
def outOption : OptionName := { long := "out", short := some 'o' }

/-- The option for the method of a request. -/
def methodOption : OptionName := { long := "method", short := some 'm' }

/-- The option that leaves the cache file aside. -/
def noCacheOption : OptionName := { long := "no-cache", hasValue := false }

/-- A value that names a file. It cannot be empty. -/
def fileValue (value : Option String) : Option (Option String) :=
  match value with
  | some "" => none
  | value => some value

/-- Reads what follows the name of a command. -/
def readAction (name : String) (args : List String) : Option Action :=
  match name with
  | "compile" => do
    let a ← Arguments.read [outOption] {} args
    let out ← fileValue (a.value? "out")
    if a.plain.isEmpty then some (.compile out) else none
  | "match" => do
    let a ← Arguments.read [methodOption, noCacheOption] {} args
    match a.plain with
    | [path] => some (.query path ((a.value? "method").getD "") (a.value? "no-cache").isSome)
    | _ => none
  | "routes" => do
    let a ← Arguments.read [] {} args
    if a.plain.isEmpty then some .list else none
  | "watch" => do
    let a ← Arguments.read [] {} args
    if a.plain.isEmpty then some .watch else none
  | _ => none

/-- Reads a command line. -/
def read (args : List String) : Option Command := do
  let (a, name, rest) ← Arguments.readLeading [configOption] {} args
  let config ← fileValue (a.value? "config")
  return { config := config.getD "routes.toml", action := ← readAction name rest }

end Command

end PathRouter
