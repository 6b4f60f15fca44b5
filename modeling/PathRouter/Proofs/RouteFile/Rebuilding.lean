import PathRouter.Proofs.RouteFile.Listing
import PathRouter.Proofs.Storage.Creating
import PathRouter.RouteFile.Rebuild

/-!
# Rebuilding matchers from route files

A rebuild can be refused when the route file is loaded and when the cache file is written, and at
no other stage: what is loaded has no problems, and so it compiles.  If it is refused, no file is
changed.

* `RouteFile.value_load_eq_ok_iff` — when a route file is loaded;
* `rebuild_eq_ok_iff` — what a rebuild gives, and `isOk_rebuild_iff`, when it gives something;
* `rebuild_refreshes_cache` — the cache file after a rebuild against the matcher that was rebuilt.
-/

namespace PathRouter

variable {files files' : Files} {path : String} {routes : List (CompiledRoute String)}

/-! ## Loading -/

namespace RouteFile

variable {f : RouteFile}

/-- A route file is loaded as long as nothing is written to it. -/
theorem load_congr {later : Files} (h : later.find path = files.find path) :
    load later path = load files path := by
  rw [load, load, Files.readText, Files.readText, h]

theorem value_load_eq_ok_iff : (load files path).value = .ok f ↔
    ∃ text, files.readText path = .ok text ∧ ofToml text = .ok f ∧ f.problems = [] := by
  unfold load
  cases hread : files.readText path with
  | error e => simp
  | ok text =>
      cases htoml : ofToml text with
      | error e => simp [parse, htoml]
      | ok g =>
          simp only [Logged.value_bind, value_parse htoml]
          by_cases hnone : g.problems = []
          · simp only [if_pos hnone, Logged.value_bind, Logged.value_pure, Except.ok.injEq]
            constructor
            · rintro rfl
              exact ⟨text, rfl, htoml, hnone⟩
            · rintro ⟨_, rfl, hg, -⟩
              exact Except.ok.inj (htoml.symm.trans hg)
          · simp only [if_neg hnone, Logged.value_pure, reduceCtorEq, Except.ok.injEq, false_iff]
            rintro ⟨_, rfl, hg, hf⟩
            cases htoml.symm.trans hg
            exact hnone hf

/-- The empty text names no file. -/
theorem ne_empty_of_load (h : (load files path).value = .ok f) : path ≠ "" := by
  rintro rfl
  obtain ⟨text, hread, -⟩ := value_load_eq_ok_iff.1 h
  have hmissing : files.readText "" = .error .missing := by
    simp [Files.readText, Files.find, Files.locate]
  cases hmissing.symm.trans hread

/-- A route file without problems compiles. -/
theorem exists_compile (h : f.problems = []) :
    ∃ routes, (Table.ofRouteFile f).value.compile.value.2 = .ok routes := by
  have hcompile : (Table.ofRouteFile f).value.compile.value.2 =
      compileRoutes ((f.registrations []).map Registration.registered) := by
    rw [Table.snd_compile, Table.ofRouteFile_eq]
    simp [Table.append]
  rw [hcompile]
  cases hroutes : compileRoutes ((f.registrations []).map Registration.registered) with
  | ok routes => exact ⟨routes, rfl⟩
  | error e =>
      rw [compileRoutes_registered_eq_error_iff, ← problems_eq, h] at hroutes
      cases hroutes

end RouteFile

/-! ## Rebuilding -/

theorem isFile_saveIfNamed {cache : Option String}
    (hsaved : (saveIfNamed files cache routes).value = (files', .ok ())) {other : String}
    (hother : files.isFile other = true) : files'.isFile other = true := by
  cases cache with
  | none =>
      cases hsaved
      exact hother
  | some path => exact Files.isFile_write (saveRecords_eq_ok_iff.1 hsaved) hother

section RebuildFrom

variable {f : RouteFile}

/-- The table is compiled before anything is saved, so it can be frozen afterwards. -/
theorem rebuildFrom_of_saved (hcompile : (Table.ofRouteFile f).value.compile.value.2 = .ok routes)
    (hsaved : (saveIfNamed files f.cachePath routes).value = (files', .ok ())) :
    (rebuildFrom files f).value = ⟨files', .ok ⟨routes⟩⟩ := by
  simp only [rebuildFrom, Logged.value_bind, hcompile, hsaved,
    (Table.ofRouteFile f).value.freeze_compile hcompile]
  rfl

/-- A matcher is made and saved, or nothing is changed. -/
theorem rebuildFrom_cases (files : Files) (f : RouteFile) :
    (∃ e, (rebuildFrom files f).value = ⟨files, .error e⟩) ∨
      ∃ routes files', (Table.ofRouteFile f).value.compile.value.2 = .ok routes ∧
        (saveIfNamed files f.cachePath routes).value = (files', .ok ()) := by
  cases hcompile : (Table.ofRouteFile f).value.compile.value.2 with
  | error e =>
      refine .inl ⟨.cache (.pattern e), ?_⟩
      simp only [rebuildFrom, Logged.value_bind, hcompile, Logged.value_pure]
  | ok routes =>
      obtain ⟨e, hsaved⟩ | ⟨files', hsaved⟩ := saveIfNamed_cases files f.cachePath routes
      · refine .inl ⟨.cache e, ?_⟩
        simp only [rebuildFrom, Logged.value_bind, hcompile, hsaved, Logged.value_pure]
      · exact .inr ⟨routes, files', rfl, hsaved⟩

end RebuildFrom

theorem value_rebuild (files : Files) (path : String) : (rebuild files path).value =
    match (RouteFile.load files path).value with
    | .error e => ⟨files, .error (.config e)⟩
    | .ok f => (rebuildFrom files f).value := by
  simp only [rebuild, Logged.value_bind]
  cases (RouteFile.load files path).value <;> rfl

theorem rebuild_eq_ok_iff {matcher : Matcher String} :
    (rebuild files path).value = ⟨files', .ok matcher⟩ ↔
    ∃ f, (RouteFile.load files path).value = .ok f ∧
      (Table.ofRouteFile f).value.compile.value.2 = .ok matcher.routes ∧
      (saveIfNamed files f.cachePath matcher.routes).value = (files', .ok ()) := by
  rw [value_rebuild]
  cases hload : (RouteFile.load files path).value with
  | error e => simp
  | ok f =>
      simp only [Except.ok.injEq, exists_eq_left']
      constructor
      · intro h
        obtain ⟨e, hfrom⟩ | ⟨routes, saved, hcompile, hsaved⟩ := rebuildFrom_cases files f
        · cases hfrom.symm.trans h
        · cases (rebuildFrom_of_saved hcompile hsaved).symm.trans h
          exact ⟨hcompile, hsaved⟩
      · rintro ⟨hcompile, hsaved⟩
        exact rebuildFrom_of_saved hcompile hsaved

/-- A route file can be loaded, and the cache file that it names can be written. -/
def RouteFile.Usable (f : RouteFile) (files : Files) (path : String) : Prop :=
  (load files path).value = .ok f ∧ ∀ cache ∈ f.cachePath, files.CanWrite cache

theorem rebuild_of_usable {f : RouteFile} (h : f.Usable files path) : ∃ routes files',
    (Table.ofRouteFile f).value.compile.value.2 = .ok routes ∧
      (saveIfNamed files f.cachePath routes).value = (files', .ok ()) ∧
      (rebuild files path).value = ⟨files', .ok ⟨routes⟩⟩ := by
  obtain ⟨hload, hcache⟩ := h
  obtain ⟨-, -, -, hnone⟩ := RouteFile.value_load_eq_ok_iff.1 hload
  obtain ⟨routes, hcompile⟩ := RouteFile.exists_compile hnone
  obtain ⟨files', hsaved⟩ : ∃ files', (saveIfNamed files f.cachePath routes).value =
      (files', .ok ()) :=
    exists_saveIfNamed_iff.2 hcache
  exact ⟨routes, files', hcompile, hsaved, rebuild_eq_ok_iff.2 ⟨f, hload, hcompile, hsaved⟩⟩

/-- A rebuild that is refused leaves the files alone. -/
theorem rebuild_of_not_usable (h : ∀ f : RouteFile, ¬f.Usable files path) :
    ∃ e, (rebuild files path).value = ⟨files, .error e⟩ := by
  rw [value_rebuild]
  cases hload : (RouteFile.load files path).value with
  | error e => exact ⟨_, rfl⟩
  | ok f =>
      obtain hrefused | ⟨routes, files', -, hsaved⟩ := rebuildFrom_cases files f
      · exact hrefused
      · cases h f ⟨hload, exists_saveIfNamed_iff.1 ⟨files', hsaved⟩⟩

theorem isOk_rebuild_iff :
    (rebuild files path).value.matcher.isOk = true ↔ ∃ f : RouteFile, f.Usable files path := by
  constructor
  · intro hok
    by_contra hnone
    obtain ⟨e, he⟩ := rebuild_of_not_usable (not_exists.1 hnone)
    rw [he] at hok
    cases hok
  · rintro ⟨f, hf⟩
    obtain ⟨routes, files', -, -, hrebuild⟩ := rebuild_of_usable hf
    rw [hrebuild]
    rfl

/-! ## The cache file afterwards -/

/-- A rebuilt matcher answers as the table of the routes that it was made of. -/
theorem Matcher.map_ok_requestAll {t : Table String} {matcher : Matcher String}
    (h : t.compile.value.2 = .ok matcher.routes) (queries : List (String × String)) :
    (t.requestAll queries).value.2 = (matcher.requestAll queries).value.map .ok := by
  rw [Table.snd_requestAll, Matcher.value_requestAll, h, List.map_map]
  rfl

/-- After a rebuild, the cache file that the route file names holds the routes of the matcher,
whatever it held before; and a table that is created through it registers nothing and answers as
the matcher does. -/
theorem rebuild_refreshes_cache {f : RouteFile} {cache : String} {matcher : Matcher String}
    (hload : (RouteFile.load files path).value = .ok f) (hcache : f.cachePath = some cache)
    (hrebuild : (rebuild files path).value = ⟨files', .ok matcher⟩) :
    (loadRecords files' cache).value = .ok matcher.routes ∧
      ∀ build, createTable files' (some cache) build =
          ⟨⟨false, files', .ok (.ofCompiled matcher.routes)⟩,
            [.event (.recordsLoaded cache matcher.routes.length)]⟩ ∧
        ∀ queries, ((Table.ofCompiled matcher.routes).requestAll queries).value.2 =
          (matcher.requestAll queries).value.map .ok := by
  obtain ⟨g, hg, -, hsaved⟩ := rebuild_eq_ok_iff.1 hrebuild
  cases hload.symm.trans hg
  have hsave : (saveRecords files cache matcher.routes).value = (files', .ok ()) := by
    simpa only [saveIfNamed, hcache] using hsaved
  have hrecords := fileRecords_saved_texts hsave
  refine ⟨by rw [value_loadRecords, hrecords], fun build => ⟨?_, Matcher.map_ok_requestAll rfl⟩⟩
  exact createTable_of_fileRecords (isFile_saved hsave) hrecords build

/-- A route file that names a cache file. -/
def usersText : String :=
  "[cache]\npath = \"cache.json\"\n\n" ++
    "[[routes]]\npath = \"/users/\x7Bid:i\x7D\"\ntarget = \"user\"\n"

/-- The cache file holds rubbish. -/
def staleFiles : Files :=
  ⟨[(["routes.toml"], .file (.text usersText)),
    (["cache.json"], .file (.broken [some 'x', none]))]⟩

/-- The rubbish is replaced. -/
theorem rebuild_refreshes_cache_stale :
    (fileRecords (α := String) staleFiles "cache.json").isOk = false ∧ ∃ f files' matcher,
      (RouteFile.load staleFiles "routes.toml").value = .ok f ∧ f.cachePath = some "cache.json" ∧
        (rebuild staleFiles "routes.toml").value = ⟨files', .ok matcher⟩ ∧
        (loadRecords files' "cache.json").value = .ok matcher.routes := by
  have hstale : (fileRecords (α := String) staleFiles "cache.json").isOk = false := by
    decide +kernel
  have hcache : (RouteFile.load staleFiles "routes.toml").value.map RouteFile.cachePath =
      .ok (some "cache.json") := by decide +kernel
  obtain ⟨f, hload, hpath⟩ := map_eq_ok_iff.1 hcache
  have hwrite : ∀ cache ∈ f.cachePath, staleFiles.CanWrite cache := by
    rw [hpath]
    rintro _ ⟨⟩
    exact .of_isFile (by decide)
  obtain ⟨routes, files', -, -, hrebuild⟩ := rebuild_of_usable ⟨hload, hwrite⟩
  exact ⟨hstale, f, files', ⟨routes⟩, hload, hpath, hrebuild,
    (rebuild_refreshes_cache hload hpath hrebuild).1⟩

end PathRouter
