import PathRouter.Journal.Basic
import PathRouter.RouteFile.Decode
import PathRouter.RouteFile.Problems
import PathRouter.Storage.Files
import PathRouter.Toml.Reader

/-!
# Loading route files

A route file is a TOML document. It is accepted if it is well formed, holds what a route file
holds, and has no problems.
-/

namespace PathRouter

/-- Why a TOML text is not read. -/
inductive TomlError where
  /-- It is no TOML document. -/
  | malformed
  /-- It does not hold what is asked for. -/
  | data (e : Json.DecodeError)
deriving DecidableEq

/-- Why there is no route file. -/
inductive ConfigError where
  /-- The file cannot be used. -/
  | file (e : FileError)
  /-- The text is not read. -/
  | text (e : TomlError)
  /-- The routes have problems. -/
  | invalid (problems : List Problem)
deriving DecidableEq

/-- The wording. What is wrong with the form of a text is not told. -/
def ConfigError.message : ConfigError → String
  | file e => "IO error: " ++ e.message
  | text .malformed => "Parse error"
  | text (.data e) => "Parse error: " ++ e.message
  | invalid problems => "Validation failed: " ++ ", ".intercalate (problems.map Problem.message)

namespace RouteFile

/-- Numbers and records as TOML has them. -/
def tomlDialect : Json.Dialect := ⟨Decimal.plainTextOfBits, true⟩

/-- Reads a route file without a look at its problems. -/
def ofToml (text : String) : Except TomlError RouteFile :=
  match Toml.read text with
  | none => .error .malformed
  | some v =>
    match decode tomlDialect v with
    | .error (.data e) => .error (.data e)
    | .error _ => .error .malformed
    | .ok f => .ok f

/-- A route file without problems. -/
def check (f : RouteFile) : Except (List Problem) RouteFile :=
  if f.problems.isEmpty then .ok f else .error f.problems

/-- The notes on checking a route file: every pattern is compiled on its own. -/
def entryNotes (stem : String) (r : RouteEntry) : List Note :=
  match compilePath (stem ++ r.path) with
  | .ok (.pattern p) => [.event (.patternCompiled (stem ++ r.path) p.regex.source)]
  | _ => []

mutual

/-- The notes on checking a group. -/
def groupNotes (stem : String) : RouteGroup → List Note
  | ⟨own, routes, groups⟩ =>
    routes.flatMap (entryNotes (stem ++ own)) ++ groupsNotes (stem ++ own) groups

/-- The notes on checking some groups. -/
def groupsNotes (stem : String) : List RouteGroup → List Note
  | [] => []
  | g :: gs => groupNotes stem g ++ groupsNotes stem gs

end

/-- The notes on checking a route file. -/
def checkNotes (f : RouteFile) : List Note :=
  f.routes.flatMap (entryNotes "") ++ groupsNotes "" f.groups

/-- Checks a route file. -/
def checked (f : RouteFile) : Logged (Except ConfigError RouteFile) :=
  ⟨match f.check with
    | .error problems => .error (.invalid problems)
    | .ok f => .ok f, f.checkNotes⟩

/-- Reads and checks a route file. -/
def parse (text : String) : Logged (Except ConfigError RouteFile) :=
  match ofToml text with
  | .error e => ⟨.error (.text e), []⟩
  | .ok f => f.checked

/-- Loads a route file. -/
def load (files : Files) (path : String) : Logged (Except ConfigError RouteFile) :=
  match files.readText path with
  | .error e => ⟨.error (.file e), []⟩
  | .ok text => do
    match ← parse text with
    | .error e => return .error e
    | .ok f =>
      Logged.note [.event (.routeFileLoaded path f.routes.length f.groups.length)]
      return .ok f

end RouteFile

end PathRouter
