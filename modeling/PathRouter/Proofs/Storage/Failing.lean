import PathRouter.Proofs.RouteFile.Rebuilding

/-!
# Failures leave the files alone

Saving is more than one step.  The cache file is opened first, and this makes it if it does not
exist and empties it if it does; the records are written afterwards.  A failure after the file has
been opened would leave an empty file behind.  There is none: routes are compiled before anything
is opened, a file that has been opened can be written (`saveRecords_of_write`), and a table that
has been compiled can be frozen (`Table.freeze_compile`).

* `files_createTable_of_error`, `files_rebuild_of_error` — creating a table, and rebuilding a
  matcher;
* `files_eq_of_failure` — after a failure of either the files are what they were.
-/

namespace PathRouter

/-- A table that is not created leaves the files alone, whichever stage it fails in. -/
theorem files_createTable_of_error {α : Type} [ToJson α] [FromJson α] {files : Files}
    {cache : Option String} {build : Table α → Logged (Table α)} {e : CacheError}
    (h : (createTable files cache build).value.table = .error e) :
    (createTable files cache build).value.files = files := by
  obtain ⟨built, e', he⟩ | ⟨routes, hloaded⟩ | ⟨files', hbuilt⟩ :=
    createTable_cases files cache build
  · rw [he]
  · rw [hloaded]
  · -- what has been saved has been created
    rw [hbuilt] at h
    cases h

/-- So does a matcher that is not rebuilt. -/
theorem files_rebuild_of_error {files : Files} {path : String} {e : RebuildError}
    (h : (rebuild files path).value.matcher = .error e) :
    (rebuild files path).value.files = files := by
  have hrefused : ∀ f : RouteFile, ¬f.Usable files path := by
    intro f hf
    have hok := isOk_rebuild_iff.2 ⟨f, hf⟩
    rw [h] at hok
    cases hok
  obtain ⟨e', hrebuild⟩ := rebuild_of_not_usable hrefused
  rw [hrebuild]

/-- Whenever no table is created or no matcher is rebuilt, every file holds what it held before,
and there is no new file.  The files may hold anything, and anything may be registered.  This is so
although a cache file is emptied before it is written. -/
theorem files_eq_of_failure (files : Files) :
    (∀ (α : Type) [ToJson α] [FromJson α] (cache : Option String)
        (build : Table α → Logged (Table α)),
      let creation := (createTable files cache build).value
      ∀ e, creation.table = .error e → creation.files = files) ∧
    ∀ path : String,
      let rebuilt := (rebuild files path).value
      ∀ e, rebuilt.matcher = .error e → rebuilt.files = files :=
  ⟨fun _ _ _ _ _ _ he => files_createTable_of_error he, fun _ _ he => files_rebuild_of_error he⟩

/-- A cache file that holds no records, and a route file whose cache file is in a directory that
does not exist. -/
def spoiltFiles : Files :=
  ⟨[(["cache.json"], .file (.text "[\x7B\"path\": 1\x7D]")), (["routes.toml"], .file (.text
    "[cache]\npath = \"none/cache.json\"\n\n[[routes]]\npath = \"/\"\ntarget = \"home\"\n"))]⟩

/-- A cache file that cannot be read, one that cannot be made for routes that compile, and a
rebuild that gets as far as opening the cache file. -/
theorem files_eq_of_failure_spoilt :
    let unread := (createTable spoiltFiles (some "cache.json") addPages).value
    let unwritten := (createTable spoiltFiles (some "none/cache.json") addPages).value
    let rebuilt := (rebuild spoiltFiles "routes.toml").value
    unread.table.isOk = false ∧ unread.files = spoiltFiles ∧
      unwritten.table.isOk = false ∧ unwritten.files = spoiltFiles ∧
      rebuilt.matcher.isOk = false ∧ rebuilt.files = spoiltFiles := by
  intro unread unwritten rebuilt
  obtain ⟨hcreate, hrebuild⟩ := files_eq_of_failure spoiltFiles
  have hunread : unread.table.isOk = false := by decide +kernel
  have hunwritten : unwritten.table.isOk = false := by decide +kernel
  have hrebuilt : rebuilt.matcher.isOk = false := by decide +kernel
  obtain ⟨e₁, he₁⟩ := isOk_eq_false_iff_exists.1 hunread
  obtain ⟨e₂, he₂⟩ := isOk_eq_false_iff_exists.1 hunwritten
  obtain ⟨e₃, he₃⟩ := isOk_eq_false_iff_exists.1 hrebuilt
  exact ⟨hunread, hcreate Json (some "cache.json") addPages e₁ he₁,
    hunwritten, hcreate Json (some "none/cache.json") addPages e₂ he₂,
    hrebuilt, hrebuild "routes.toml" e₃ he₃⟩

end PathRouter
