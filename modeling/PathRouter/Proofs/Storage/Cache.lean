import PathRouter.Proofs.Routing.Records
import PathRouter.Proofs.Storage.Writing
import PathRouter.Storage.Cache

/-!
# Cache files read back

What is saved in a cache file is loaded from it, whatever the file held before, as long as it can
be written at all.  The stages of saving come to one write: all that can fail comes before the file
is opened, so saving that fails leaves the file as it was.

* `saveRecords_of_write`, `saveRecords_of_write_error` — the stages against one write;
* `fileRecords_of_saveRecords` — for targets that are read back; `fileRecords_saved`, for a save
  that is known to have been possible;
* `loadRecords_of_saveRecords` — for texts, and for JSON values that a text can hold.
-/

namespace PathRouter

variable {α : Type}

theorem value_loadRecords [FromJson α] (files : Files) (path : String) :
    (loadRecords (α := α) files path).value = fileRecords files path := by
  unfold loadRecords
  cases (fileRecords files path : Except _ (List (CompiledRoute α))) <;> rfl

/-! ## Saving -/

section Saving

variable [ToJson α] {files files' : Files} {path : String} {cache : Option String}
  {routes : List (CompiledRoute α)}

/-- A file that has been opened can be written, so both stages come to one write. -/
theorem saveRecords_of_write (h : files.write path (.text (writeRecords routes)) = .ok files') :
    (saveRecords files path routes).value = (files', .ok ()) := by
  obtain ⟨opened, hopen⟩ := (Files.CanWrite.of_write h).exists_write (.text "")
  obtain ⟨written, hwritten, hwrite⟩ := Files.write_write hopen (.text (writeRecords routes))
  obtain rfl : files' = written := Except.ok.inj (h.symm.trans hwrite)
  simp only [saveRecords, Files.create, hopen, hwritten]

/-- All that can fail comes before the file is opened. -/
theorem saveRecords_of_write_error {e : FileError}
    (h : files.write path (.text (writeRecords routes)) = .error e) :
    (saveRecords files path routes).value = (files, .error (.file e)) := by
  have hopen : files.create path = .error e := Files.write_eq_error h _
  simp only [saveRecords, hopen]

theorem saveRecords_eq_ok_iff : (saveRecords files path routes).value = (files', .ok ()) ↔
    files.write path (.text (writeRecords routes)) = .ok files' := by
  cases hwrite : files.write path (.text (writeRecords routes)) with
  | error e => simp [saveRecords_of_write_error hwrite]
  | ok written => simp [saveRecords_of_write hwrite]

/-- Records are saved, or nothing is changed. -/
theorem saveRecords_cases (files : Files) (path : String) (routes : List (CompiledRoute α)) :
    (∃ e, (saveRecords files path routes).value = (files, .error e)) ∨
      ∃ files', (saveRecords files path routes).value = (files', .ok ()) := by
  cases hwrite : files.write path (.text (writeRecords routes)) with
  | error e => exact .inl ⟨_, saveRecords_of_write_error hwrite⟩
  | ok written => exact .inr ⟨_, saveRecords_of_write hwrite⟩

theorem saveIfNamed_cases (files : Files) (cache : Option String)
    (routes : List (CompiledRoute α)) :
    (∃ e, (saveIfNamed files cache routes).value = (files, .error e)) ∨
      ∃ files', (saveIfNamed files cache routes).value = (files', .ok ()) := by
  cases cache with
  | none => exact .inr ⟨files, rfl⟩
  | some path => exact saveRecords_cases files path routes

theorem exists_saveIfNamed_iff :
    (∃ files', (saveIfNamed files cache routes).value = (files', .ok ())) ↔
    ∀ path ∈ cache, files.CanWrite path := by
  cases cache with
  | none => simp [saveIfNamed]
  | some path =>
      simp only [saveIfNamed, saveRecords_eq_ok_iff, Option.mem_def, Option.some.injEq, forall_eq']
      exact ⟨fun ⟨_, h⟩ => .of_write h, fun h => h.exists_write _⟩

theorem isFile_saved (hsave : (saveRecords files path routes).value = (files', .ok ())) :
    files'.isFile path = true :=
  Files.isFile_of_find (Files.find_write (saveRecords_eq_ok_iff.1 hsave))

end Saving

/-! ## Loading -/

/-- Records are written to every file that can be written, and they are what it holds then. -/
theorem fileRecords_of_saveRecords [ToJson α] [FromJson α] {files : Files} {path : String}
    (hpath : files.CanWrite path) {routes : List (CompiledRoute α)}
    (htargets : ∀ r ∈ routes, ∀ level, Json.Denotes (FromJson.read none (Json.maxLevels - 2))
      (Json.writePretty level (toJson r.target)) r.target) :
    ∃ files', (saveRecords files path routes).value = (files', .ok ()) ∧
      fileRecords files' path = .ok routes := by
  obtain ⟨files', hwrite⟩ := hpath.exists_write (.text (writeRecords routes))
  refine ⟨files', saveRecords_of_write hwrite, ?_⟩
  rw [fileRecords, Files.find_write hwrite]
  simp only [Content.marked, readMarkedRecords_writeRecords htargets]

/-- What could be saved is what the file holds. -/
theorem fileRecords_saved [ToJson α] [FromJson α] {files files' : Files} {path : String}
    {routes : List (CompiledRoute α)}
    (hsave : (saveRecords files path routes).value = (files', .ok ()))
    (htargets : ∀ r ∈ routes, ∀ level, Json.Denotes (FromJson.read none (Json.maxLevels - 2))
      (Json.writePretty level (toJson r.target)) r.target) : fileRecords files' path =
        .ok routes := by
  have hpath : files.CanWrite path := .of_write (saveRecords_eq_ok_iff.1 hsave)
  obtain ⟨saved, hsaved, hrecords⟩ := fileRecords_of_saveRecords hpath htargets
  have hsame : saved = files' := congrArg Prod.fst (hsaved.symm.trans hsave)
  rw [← hsame]
  exact hrecords

theorem fileRecords_saved_texts {files files' : Files} {path : String}
    {routes : List (CompiledRoute String)}
    (hsave : (saveRecords files path routes).value = (files', .ok ())) :
    fileRecords files' path = .ok routes :=
  fileRecords_saved hsave fun r _ level => denotes_target_string _ level r.target

/-- Saved routes are loaded as they were, in their order and with all that is in them, whatever the
file held before; it must be possible to write it, which it is if it exists
(`Files.CanWrite.of_isFile`).  The targets are any texts, or any JSON values that a text can hold
and that are nested less than 100 levels deep. -/
theorem loadRecords_of_saveRecords {files : Files} {path : String} (hpath : files.CanWrite path) :
    (∀ routes : List (CompiledRoute String), ∃ files',
      (saveRecords files path routes).value = (files', .ok ()) ∧
        (loadRecords files' path).value = .ok routes) ∧
    ∀ routes : List (CompiledRoute Json),
      (∀ r ∈ routes, r.target.isExact = true ∧ r.target.depth < 100) → ∃ files',
        (saveRecords files path routes).value = (files', .ok ()) ∧
          (loadRecords files' path).value = .ok routes := by
  refine ⟨fun routes => ?_, fun routes htargets => ?_⟩
  · simp only [value_loadRecords]
    exact fileRecords_of_saveRecords hpath fun r _ level => denotes_target_string _ level r.target
  · simp only [value_loadRecords]
    refine fileRecords_of_saveRecords hpath fun r hr level => ?_
    obtain ⟨hexact, hdepth⟩ := htargets r hr
    exact denotes_target_json level hexact (Nat.le_trans (Nat.le_of_lt hdepth) (by decide))

/-- A route that compares paths by equality although its path is a pattern, with a JSON value as
target. -/
def awkwardRoute : CompiledRoute Json where
  path := "/\x7Bid\x7D\"\\\n\x01é"
  methods := .ofList ["GET", "\t"]
  target := .obj [("a", .int (-5)), ("b\"", .arr [.null, .str "\x7F"])]
  matcher := .literal

/-- A route replaces the rubbish that a file holds, and is loaded from it. -/
theorem loadRecords_of_saveRecords_broken :
    let files : Files := ⟨[(["cache.json"], .file (.broken [some 'x', none]))]⟩
    files.isFile "cache.json" = true ∧ ∃ files',
      (saveRecords files "cache.json" [awkwardRoute]).value = (files', .ok ()) ∧
        (loadRecords files' "cache.json").value = .ok [awkwardRoute] := by
  intro files
  have hfile : files.isFile "cache.json" = true := by decide
  refine ⟨hfile, (loadRecords_of_saveRecords (Files.CanWrite.of_isFile hfile)).2 _ ?_⟩
  intro r hr
  rw [List.mem_singleton] at hr
  subst hr
  decide

end PathRouter
