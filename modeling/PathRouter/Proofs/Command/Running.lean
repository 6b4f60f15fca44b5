import PathRouter.Proofs.Command.Requests
import PathRouter.Proofs.RouteFile.Watching
import PathRouter.Proofs.Routing.Answering

/-!
# Calls of the program

The program is called many times with one route file.  A call finds the cache file or makes it,
goes around it or makes it anew, and what it answers is the same in all cases.  The reason is that
a cache file, once there is one, holds the routes of the route file; every call leaves it so.

* `Deployed` — what the calls find, and what they leave;
* `Deployed.run`, `Deployed.runAll` — one call, and one after the other;
* `run_query_alike` — requests with and without the cache file, and as lines while the route file
  is watched.
-/

namespace PathRouter

/-! ## Calls -/

/-- Whether a cache file other than the one of the route file is asked for. -/
def Action.namesOutput : Action → Bool
  | compile (some _) => true
  | _ => false

/-- Whether the cache file of the route file is made if there is none. -/
def Action.makesCache : Action → Bool
  | compile none => true
  | query _ _ ignoreCache => !ignoreCache
  | _ => false

/-- A call of the program with a route file. -/
structure Call where
  /-- What to do. -/
  action : Action
  /-- The standard input. -/
  input : String := ""
  /-- The filter of the environment. -/
  environment : Option String := none

namespace Command

variable {config cache path method : String} {f : RouteFile} {routes : List (CompiledRoute String)}
  {files files' : Files}

/-! ## The route file and the cache file -/

/-- There is a route file that can be loaded, and it names a cache file that can be written.  If
there is a cache file, it holds the routes of the route file. -/
structure Deployed (config : String) (f : RouteFile) (cache : String)
    (routes : List (CompiledRoute String)) (files : Files) : Prop where
  /-- The route file names the cache file. -/
  cachePath : f.cachePath = some cache
  /-- The routes of the route file. -/
  compile : (Table.ofRouteFile f).value.compile.value.2 = .ok routes
  /-- The route file can be loaded. -/
  load : (RouteFile.load files config).value = .ok f
  /-- The cache file can be written. -/
  canWrite : files.CanWrite cache
  /-- The cache file is not the route file. -/
  apart : files.Apart cache config
  /-- The records of the cache file. -/
  records : files.isFile cache = true → fileRecords files cache = .ok routes

namespace Deployed

/-- At first there is no cache file. -/
theorem of_vacant (hload : (RouteFile.load files config).value = .ok f)
    (hcache : f.cachePath = some cache) (hvacant : files.Vacant cache) :
    ∃ routes, Deployed config f cache routes files := by
  obtain ⟨text, hread, -, hnone⟩ := RouteFile.value_load_eq_ok_iff.1 hload
  obtain ⟨routes, hcompile⟩ := RouteFile.exists_compile hnone
  refine ⟨routes, hcache, hcompile, hload, hvacant.canWrite,
    hvacant.apart (Files.isFile_of_readText hread), fun hfile => ?_⟩
  cases hvacant.isFile_eq_false.symm.trans hfile

/-- The cache file is written over. -/
theorem save (h : Deployed config f cache routes files)
    (hsave : (saveRecords files cache routes).value = (files', .ok ())) :
    Deployed config f cache routes files' where
  cachePath := h.cachePath
  compile := h.compile
  load := by
    rw [RouteFile.load_congr (Files.find_write_of_apart h.apart (saveRecords_eq_ok_iff.1 hsave)),
      h.load]
  canWrite := .of_isFile (isFile_saved hsave)
  apart := h.apart.write (saveRecords_eq_ok_iff.1 hsave)
  records := fun _ => fileRecords_saved_texts hsave

theorem exists_save (h : Deployed config f cache routes files) :
    ∃ files', (saveRecords files cache routes).value = (files', .ok ()) := by
  obtain ⟨files', hwrite⟩ := h.canWrite.exists_write (.text (writeRecords routes))
  exact ⟨files', saveRecords_eq_ok_iff.2 hwrite⟩

end Deployed

/-- What a call does to the files: nothing, or the cache file is written. -/
def Leaves (cache : String) (routes : List (CompiledRoute String)) (files files' : Files) : Prop :=
  files' = files ∨ (saveRecords files cache routes).value = (files', .ok ())

theorem Leaves.deployed (h : Leaves cache routes files files')
    (hd : Deployed config f cache routes files) :
    Deployed config f cache routes files' := by
  rcases h with rfl | hsave
  · exact hd
  · exact hd.save hsave

/-- A cache file does not go away. -/
theorem Leaves.isFile (h : Leaves cache routes files files') (hfile : files.isFile cache = true) :
    files'.isFile cache = true := by
  rcases h with rfl | hsave
  · exact hfile
  · exact isFile_saved hsave

/-! ## Actions -/

namespace Deployed

variable (h : Deployed config f cache routes files)
include h

/-- A table made for a request, with or without the cache file, answers with the routes of the
route file. -/
theorem exists_createTable (ignoreCache : Bool) : ∃ built files' t,
    (createTable files (if ignoreCache then none else f.cachePath) (·.register f)).value =
        ⟨built, files', .ok t⟩ ∧ t.compile.value.2 = .ok routes ∧
        Leaves cache routes files files' ∧ (ignoreCache = false → files'.isFile cache = true) := by
  have hsame := (Table.ofRouteFile f).value.snd_compile_compile.trans h.compile
  cases ignoreCache with
  | true => exact ⟨true, files, _, value_createTable_none files h.compile, hsame, .inl rfl, nofun⟩
  | false =>
      rw [if_neg Bool.false_ne_true, h.cachePath]
      cases hfile : files.isFile cache with
      | true =>
          have hcreate := createTable_of_fileRecords hfile (h.records hfile) (·.register f)
          exact ⟨false, files, .ofCompiled routes, by rw [hcreate], rfl, .inl rfl, fun _ => hfile⟩
      | false =>
          obtain ⟨saved, hsave⟩ := h.exists_save
          have hcreate : (createTable files (some cache) (·.register f)).value = _ :=
            value_createTable_of_isFile_eq_false hfile h.compile hsave
          exact ⟨true, saved, _, hcreate, hsame, .inr hsave, fun _ => isFile_saved hsave⟩

theorem value_runQuery (path method : String) (ignoreCache : Bool) : ∃ files',
    (runQuery files f path method ignoreCache).value = ⟨files',
        (matchRoutes routes path method).json.pretty ++ "\n",
        .ok (exitCode (matchRoutes routes path method))⟩ ∧
      Leaves cache routes files files' ∧ (ignoreCache = false → files'.isFile cache = true) := by
  obtain ⟨built, files', t, hcreate, hcompile, hleaves, hfile⟩ := h.exists_createTable ignoreCache
  refine ⟨files', ?_, hleaves, hfile⟩
  simp only [runQuery, Logged.value_bind, hcreate, Table.snd_request_of_compile hcompile,
    Logged.value_pure]

theorem value_runCompile : ∃ files', (saveRecords files cache routes).value = (files', .ok ()) ∧
    (runCompile files f none).value.files = files' ∧ (runCompile files f none).value.status =
      .ok 0 := by
  obtain ⟨saved, hsave⟩ := h.exists_save
  refine ⟨saved, hsave, ?_⟩
  simp [runCompile, h.cachePath, h.compile, hsave]

theorem value_runList : ∃ text, (runList files f).value = ⟨files, text, .ok 0⟩ := by
  refine ⟨String.join (routes.map listing), ?_⟩
  simp only [runList, Logged.value_bind, h.compile, Logged.value_pure]

theorem value_runWatch (input : String) :
    ∃ files', (runWatch files config f input).value = ⟨files',
      String.join ((readRequests input).map fun r =>
        (matchRoutes routes r.1 r.2).json.compact ++ "\n"),
      .ok 0⟩ ∧ Leaves cache routes files files' := by
  obtain ⟨routes', begun, hcompile, hinitial, hbegun⟩ := value_initialMatcher h.load
  cases hcompile.symm.trans h.compile
  refine ⟨begun, ?_, ?_⟩
  · simp only [runWatch, Logged.value_bind, hinitial, Watch.start, Matcher.value_requestAll,
      Logged.value_pure, List.map_map]
    rfl
  · simpa only [Leaves, saveIfNamed, h.cachePath] using hbegun

end Deployed

/-- Carries out calls one after the other. -/
def runAll (config : String) (files : Files) (calls : List Call) : Files :=
  calls.foldl (fun files call =>
    (run files ⟨config, call.action⟩ call.input call.environment).1.files) files

namespace Deployed

/-! ## Runs -/

/-- What the route file says about the log makes no difference. -/
theorem fst_run (h : Deployed config f cache routes files) (action : Action) (input : String)
    (environment : Option String) : (run files ⟨config, action⟩ input environment).1 =
      match action with
      | .compile out => (runCompile files f out).value
      | .query path method ignoreCache => (runQuery files f path method ignoreCache).value
      | .list => (runList files f).value
      | .watch => (runWatch files config f input).value := by
  rw [run, h.load]
  cases action <;> rfl

/-- A call leaves everything as it should be, and a cache file if it is to make one. -/
theorem run (h : Deployed config f cache routes files) {call : Call}
    (hcall : call.action.namesOutput = false) :
    let files' := (Command.run files ⟨config, call.action⟩ call.input call.environment).1.files
    Leaves cache routes files files' ∧
      (call.action.makesCache = true → files'.isFile cache = true) := by
  intro files'
  have hfiles : files' = _ :=
    congrArg Completion.files (h.fst_run call.action call.input call.environment)
  rw [hfiles]
  cases haction : call.action with
  | compile out =>
      cases out with
      | some path =>
          rw [haction] at hcall
          cases hcall
      | none =>
          obtain ⟨saved, hsave, hcompile, -⟩ := h.value_runCompile
          simp only [hcompile]
          exact ⟨.inr hsave, fun _ => isFile_saved hsave⟩
  | query path method ignoreCache =>
      obtain ⟨after, hquery, hleaves, hfile⟩ := h.value_runQuery path method ignoreCache
      simp only [hquery]
      exact ⟨hleaves, fun hmakes => hfile (by simpa [Action.makesCache] using hmakes)⟩
  | list =>
      obtain ⟨text, hlist⟩ := h.value_runList
      simp only [hlist]
      exact ⟨.inl rfl, nofun⟩
  | watch =>
      obtain ⟨after, hwatch, hleaves⟩ := h.value_runWatch call.input
      simp only [hwatch]
      exact ⟨hleaves, nofun⟩

/-- The same holds after any calls.  From the first call on that makes the cache file, it is
there. -/
theorem runAll (h : Deployed config f cache routes files) {calls : List Call}
    (hcalls : ∀ call ∈ calls, call.action.namesOutput = false) :
    let files' := Command.runAll config files calls
    Deployed config f cache routes files' ∧
      ((files.isFile cache = true ∨ ∃ call ∈ calls, call.action.makesCache = true) →
        files'.isFile cache = true) := by
  induction calls generalizing files with
  | nil => exact ⟨h, by simp [Command.runAll]⟩
  | cons call calls ih =>
      rw [List.forall_mem_cons] at hcalls
      obtain ⟨hleaves, hmakes⟩ := h.run hcalls.1
      obtain ⟨hdeployed, hfile⟩ := ih (hleaves.deployed h) hcalls.2
      refine ⟨hdeployed, fun hor => hfile ?_⟩
      rcases hor with hbefore | ⟨first, hfirst, hmakesFirst⟩
      · exact .inl (hleaves.isFile hbefore)
      · rcases List.mem_cons.1 hfirst with rfl | hlater
        · exact .inl (hmakes hmakesFirst)
        · exact .inr ⟨first, hlater, hmakesFirst⟩

end Deployed

/-- A call prints a text and ends with an exit code. -/
def Prints (c : Completion) (text : String) (code : Nat) : Prop :=
  c.output = text ∧ c.code = code

/-- The outcome of a request is printed, with or without the cache file. -/
theorem Deployed.prints_query (h : Deployed config f cache routes files) (path method : String)
    (ignoreCache : Bool) (input : String) (environment : Option String) :
    Prints (Command.run files ⟨config, .query path method ignoreCache⟩ input environment).1
      ((matchRoutes routes path method).json.pretty ++ "\n")
      (exitCode (matchRoutes routes path method)) := by
  obtain ⟨after, hvalue, -⟩ := h.value_runQuery path method ignoreCache
  rw [h.fst_run]
  simp only [hvalue]
  exact ⟨rfl, rfl⟩

/-- A route file names a cache file that does not exist, in a directory that does.  After any calls
of the program with this route file, in which the cache file is made or not, a request is answered
with the same text and the same exit code whether the cache file is used or left aside; and as a
line of the standard input, while the route file is being watched, it is answered with the compact
text of the same outcome.  Once the cache file has been made, it holds the routes of the route
file.  Calls that ask for another cache file are left out.  Every request can be put as the
arguments of a call, if the path stands behind two dashes and the method is attached to its
option. -/
theorem run_query_alike (hload : (RouteFile.load files config).value = .ok f)
    (hcache : f.cachePath = some cache) (hvacant : files.Vacant cache) :
    ∃ routes, (Table.ofRouteFile f).value.compile.value.2 = .ok routes ∧
      ∀ calls : List Call, (∀ call ∈ calls, call.action.namesOutput = false) →
        let store := runAll config files calls
        ((∃ call ∈ calls, call.action.makesCache = true) →
          store.isFile cache = true ∧ (loadRecords store cache).value = .ok routes) ∧
        (∀ path method c, read (queryLine config path method false) = some c →
          ∃ c', read (queryLine config path method true) = some c' ∧ ∀ input environment,
            let outcome := matchRoutes routes path method
            Prints (run store c input environment).1 (outcome.json.pretty ++ "\n")
              (exitCode outcome) ∧
            Prints (run store c' input environment).1 (outcome.json.pretty ++ "\n")
              (exitCode outcome)) ∧
        (∀ path method ignoreCache, ∃ c,
          read (guardedQueryLine config path method ignoreCache) = some c ∧ ∀ input environment,
            let outcome := matchRoutes routes path method
            Prints (run store c input environment).1 (outcome.json.pretty ++ "\n")
              (exitCode outcome)) ∧
        ∀ requests : List (String × String), (∀ r ∈ requests, IsPlain r.1 r.2) → ∀ environment,
          Prints (run store ⟨config, .watch⟩ (inputText requests) environment).1
            (String.join (requests.map fun r => (matchRoutes routes r.1 r.2).json.compact ++ "\n"))
              0 := by
  obtain ⟨routes, hbegin⟩ := Deployed.of_vacant hload hcache hvacant
  refine ⟨routes, hbegin.compile, fun calls hcalls => ?_⟩
  intro store
  obtain ⟨h, hfile⟩ := hbegin.runAll hcalls
  refine ⟨fun hmakes => ?_, fun path method c hread => ?_, fun path method ignoreCache => ?_,
    fun requests hplain environment => ?_⟩
  · have hexists := hfile (.inr hmakes)
    exact ⟨hexists, by rw [value_loadRecords, h.records hexists]⟩
  · cases hread.symm.trans (read_queryLine hread false)
    exact ⟨_, read_queryLine hread true, fun input environment =>
      ⟨h.prints_query path method false input environment,
        h.prints_query path method true input environment⟩⟩
  · exact ⟨_, read_guardedQueryLine (RouteFile.ne_empty_of_load hload) path method ignoreCache,
      h.prints_query path method ignoreCache⟩
  · obtain ⟨after, hvalue, -⟩ := h.value_runWatch (inputText requests)
    rw [h.fst_run]
    simp only [hvalue, readRequests_inputText hplain]
    exact ⟨rfl, rfl⟩

/-- A request is answered after the cache file has been made, and the same request is put as a
line. -/
theorem run_query_alike_users :
    let files : Files := ⟨[(["routes.toml"], .file (.text usersText))]⟩
    let store := runAll "routes.toml" files [{ action := .compile none }]
    ∃ f, (RouteFile.load files "routes.toml").value = .ok f ∧ f.cachePath = some "cache.json" ∧
      files.Vacant "cache.json" ∧ store.isFile "cache.json" = true ∧ ∃ outcome : Outcome String,
        Prints (run store ⟨"routes.toml", .query "/users/42" "GET" false⟩ "" none).1
          (outcome.json.pretty ++ "\n") (exitCode outcome) ∧
        Prints (run store ⟨"routes.toml", .query "/users/42" "GET" true⟩ "" none).1
          (outcome.json.pretty ++ "\n") (exitCode outcome) ∧
        Prints (run store ⟨"routes.toml", .watch⟩ "GET /users/42\n" none).1
          (outcome.json.compact ++ "\n") 0 := by
  intro files store
  have hvacant : files.Vacant "cache.json" := ⟨["cache.json"], by decide, by decide⟩
  have hcache : (RouteFile.load files "routes.toml").value.map RouteFile.cachePath =
      .ok (some "cache.json") := by decide +kernel
  have hread : read (queryLine "routes.toml" "/users/42" "GET" false) =
      some ⟨"routes.toml", .query "/users/42" "GET" false⟩ := by decide +kernel
  have hplain : IsPlain "/users/42" "GET" := ⟨by decide, by decide +kernel, by decide +kernel⟩
  have hinput : inputText [("/users/42", "GET")] = "GET /users/42\n" := by decide
  obtain ⟨f, hload, hpath⟩ := map_eq_ok_iff.1 hcache
  obtain ⟨routes, -, hruns⟩ := run_query_alike hload hpath hvacant
  obtain ⟨hmade, hqueries, -, hlines⟩ := hruns [{ action := .compile none }] (by decide)
  obtain ⟨c', hread', hprints⟩ := hqueries _ _ _ hread
  cases hread'.symm.trans (read_queryLine hread true)
  have hline := hlines [("/users/42", "GET")] (by simpa using hplain) none
  rw [hinput] at hline
  refine ⟨f, hload, hpath, hvacant, (hmade (by decide)).1, matchRoutes routes "/users/42" "GET",
    (hprints "" none).1, (hprints "" none).2, ?_⟩
  simpa [String.join] using hline

end Command

end PathRouter
