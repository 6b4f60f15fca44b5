import PathRouter.Routing.Record
import PathRouter.Routing.Table
import PathRouter.Storage.Files

/-!
# Cache files

A cache file holds the records of a compiled table, so that the next start need not compile
anything. A cache that exists is trusted as it is; `createTable` builds a table only if there is
none.

Saving takes two stages. The file is opened first, which empties it, and the records are written to
it afterwards; so the files are handed back as they are in the end, whether saving succeeds or not.
-/

namespace PathRouter

/-- Why there is no table, or no cache file. -/
inductive CacheError where
  /-- A file cannot be used. -/
  | file (e : FileError)
  /-- A cache file does not hold records. -/
  | format (e : Json.ReadError)
  /-- A route does not compile. -/
  | pattern (e : PatternError)
deriving DecidableEq

/-- The wording. What is wrong with the text of a cache file is not told. -/
def CacheError.message : CacheError → String
  | file e => "Cache IO error: " ++ e.message
  | format _ => "Cache format error"
  | pattern e => e.message

variable {α : Type}

/-- Writes records to a file. -/
def saveRecords [ToJson α] (files : Files) (path : String) (routes : List (CompiledRoute α)) :
    Logged (Files × Except CacheError Unit) :=
  match files.create path with
  | .error e => ⟨(files, .error (.file e)), []⟩
  | .ok opened =>
    match opened.write path (.text (writeRecords routes)) with
    | .error e => ⟨(opened, .error (.file e)), []⟩
    | .ok written => ⟨(written, .ok ()), [.event (.recordsSaved path routes.length)]⟩

/-- Writes records to the cache file, if one is named. -/
def saveIfNamed [ToJson α] (files : Files) (cache : Option String)
    (routes : List (CompiledRoute α)) :
    Logged (Files × Except CacheError Unit) :=
  match cache with
  | none => return (files, .ok ())
  | some path => saveRecords files path routes

/-- The records a file holds. -/
def fileRecords [FromJson α] (files : Files) (path : String) :
    Except CacheError (List (CompiledRoute α)) :=
  match files.find path with
  | .error e => .error (.file e)
  | .ok .directory => .error (.format .unreadable)
  | .ok (.file content) =>
    let (cs, stray) := content.marked
    match readMarkedRecords stray cs with
    | .error e => .error (.format e)
    | .ok routes => .ok routes

/-- Reads records from a file. -/
def loadRecords [FromJson α] (files : Files) (path : String) :
    Logged (Except CacheError (List (CompiledRoute α))) :=
  match fileRecords files path with
  | .error e => ⟨.error e, []⟩
  | .ok routes => ⟨.ok routes, [.event (.recordsLoaded path routes.length)]⟩

/-- A table, and how it came about. -/
structure Creation (α : Type) where
  /-- Whether the routes were registered anew. -/
  built : Bool
  /-- The files afterwards. -/
  files : Files
  /-- The table. -/
  table : Except CacheError (Table α)

/-- Registers routes on a new table, compiles it and writes the cache file if one is named. -/
def buildTable [ToJson α] (files : Files) (cache : Option String)
    (build : Table α → Logged (Table α)) : Logged (Creation α) := do
  let (table, compiled) ← (← build {}).compile
  match compiled with
  | .error e => return { built := true, files, table := .error (.pattern e) }
  | .ok routes =>
    let (files, saved) ← saveIfNamed files cache routes
    return { built := true, files, table := saved.map fun _ => table }

/-- The table in a cache file if there is one, and otherwise the table with the routes that `build`
registers. -/
def createTable [ToJson α] [FromJson α] (files : Files) (cache : Option String)
    (build : Table α → Logged (Table α)) : Logged (Creation α) := do
  match cache.filter files.isFile with
  | none => buildTable files cache build
  | some path =>
    match ← loadRecords files path with
    | .error e => return { built := false, files, table := .error e }
    | .ok routes => return { built := false, files, table := .ok (.ofCompiled routes) }

end PathRouter
