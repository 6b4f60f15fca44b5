import PathRouter.Command.Run
import PathRouter.Proofs.RouteFile.Rebuilding

/-!
# Following a route file

The contents of a route file follow each other while it is being watched.  A content is good if a
matcher can be rebuilt from it, and the matcher in service is that of the last good one; at first
it is that of the route file as it was loaded, whether it could be rebuilt or not.

* `Watch.value_change_of_usable`, `Watch.value_change_of_not_usable` — one change that is noticed;
* `Course.Serves.deliver`, `Course.Serves.follow` — what is served after one content, and after all
  of them;
* `Watch.serves_lastGood` — the matcher in service against a table made of the last good content.
-/

namespace PathRouter

variable {files : Files} {path : String} {f : RouteFile}

/-! ## The matcher to begin with -/

/-- A matcher is there from the beginning, even if none can be rebuilt. -/
theorem Command.value_initialMatcher (hload : (RouteFile.load files path).value = .ok f) :
    ∃ routes start, (Table.ofRouteFile f).value.compile.value.2 = .ok routes ∧
      (initialMatcher files path f).value = (start, .ok ⟨routes⟩) ∧
      (start = files ∨ (saveIfNamed files f.cachePath routes).value = (start, .ok ())) := by
  by_cases husable : f.Usable files path
  · obtain ⟨routes, start, hcompile, hsaved, hrebuild⟩ := rebuild_of_usable husable
    exact ⟨routes, start, hcompile, by simp [initialMatcher, hrebuild], .inr hsaved⟩
  · have hrefused : ∀ g : RouteFile, ¬g.Usable files path := by
      intro g hg
      cases hload.symm.trans hg.1
      exact husable hg
    obtain ⟨e, hrebuild⟩ := rebuild_of_not_usable hrefused
    obtain ⟨-, -, -, hnone⟩ := RouteFile.value_load_eq_ok_iff.1 hload
    obtain ⟨routes, hcompile⟩ := RouteFile.exists_compile hnone
    refine ⟨routes, files, hcompile, ?_, .inl rfl⟩
    simp [initialMatcher, hrebuild, Table.value_freeze, hcompile, Except.map]

/-! ## One change -/

namespace Watch

variable {w : Watch}

theorem value_change_of_usable (h : f.Usable files w.path) : ∃ routes files',
    (Table.ofRouteFile f).value.compile.value.2 = .ok routes ∧
      (saveIfNamed files f.cachePath routes).value = (files', .ok ()) ∧
      (w.change files).value = (files', { w with matcher := ⟨routes⟩ }, true) := by
  obtain ⟨routes, files', hcompile, hsaved, hrebuild⟩ := rebuild_of_usable h
  exact ⟨routes, files', hcompile, hsaved, by simp [change, hrebuild]⟩

/-- If no matcher can be rebuilt, nothing changes. -/
theorem value_change_of_not_usable (h : ∀ f : RouteFile, ¬f.Usable files w.path) :
    (w.change files).value = (files, w, false) := by
  obtain ⟨e, hrebuild⟩ := rebuild_of_not_usable h
  simp [change, hrebuild]

end Watch

/-! ## The last good content -/

/-- A content is good if it is the text of a route file without problems, and the cache file that
this route file names can be written. -/
theorem isOk_rebuild_iff_of_find {content : Content}
    (hfind : files.find path = .ok (.file content)) :
    (rebuild files path).value.matcher.isOk = true ↔ ∃ text g, content = .text text ∧
      RouteFile.ofToml text = .ok g ∧ g.problems = [] ∧ ∀ cache ∈ g.cachePath,
      files.CanWrite cache := by
  have hread : ∀ text, files.readText path = .ok text ↔ content = .text text := by
    intro text
    cases content <;> simp [Files.readText, hfind]
  rw [isOk_rebuild_iff]
  constructor
  · rintro ⟨g, hload, hcache⟩
    obtain ⟨text, htext, htoml, hnone⟩ := RouteFile.value_load_eq_ok_iff.1 hload
    exact ⟨text, g, (hread text).1 htext, htoml, hnone, hcache⟩
  · rintro ⟨text, g, hcontent, htoml, hnone, hcache⟩
    have hload := RouteFile.value_load_eq_ok_iff.2 ⟨text, (hread text).2 hcontent, htoml, hnone⟩
    exact ⟨g, hload, hcache⟩

/-- The route file in the last ones of some files from which a matcher could be rebuilt, or another
one if there were none. -/
def lastGood (path : String) (f : RouteFile) (noticed : List Files) : RouteFile :=
  noticed.foldl (fun last files =>
    match (rebuild files path).value.matcher, (RouteFile.load files path).value with
    | .ok _, .ok g => g
    | _, _ => last) f

theorem lastGood_concat_of_usable {g : RouteFile} (h : g.Usable files path)
    (noticed : List Files) :
    lastGood path f (noticed ++ [files]) = g := by
  obtain ⟨routes, files', -, -, hrebuild⟩ := rebuild_of_usable h
  rw [lastGood, List.foldl_append, List.foldl_cons, List.foldl_nil, hrebuild, h.1]

theorem lastGood_concat_of_not_usable (h : ∀ g : RouteFile, ¬g.Usable files path)
    (noticed : List Files) :
    lastGood path f (noticed ++ [files]) = lastGood path f noticed := by
  obtain ⟨e, hrebuild⟩ := rebuild_of_not_usable h
  rw [lastGood, List.foldl_append, List.foldl_cons, List.foldl_nil, hrebuild]
  rfl

/-! ## The whole course -/

/-- A route file that is being watched, and the files around it. -/
structure Course where
  /-- The files. -/
  files : Files
  /-- The path of the route file, and the matcher in service. -/
  watch : Watch
  /-- The files as they were found when a change was noticed, the first ones first. -/
  noticed : List Files := []

namespace Course

/-- The route file is given a content, and the change is noticed. -/
def deliver (c : Course) (content : Content) : Course :=
  match c.files.write c.watch.path content with
  | .error _ => c
  | .ok files =>
    let (files', watch, _) := (c.watch.change files).value
    ⟨files', watch, c.noticed ++ [files]⟩

/-- The route file is given one content after the other. -/
def follow (c : Course) (contents : List Content) : Course :=
  contents.foldl deliver c

/-- The matcher in service is that of the last good content. -/
structure Serves (path : String) (f : RouteFile) (c : Course) : Prop where
  /-- The path of the route file. -/
  path_eq : c.watch.path = path
  /-- There is a file to write to. -/
  isFile : c.files.isFile path = true
  /-- The routes of the matcher. -/
  routes : (Table.ofRouteFile (lastGood path f c.noticed)).value.compile.value.2 =
    .ok c.watch.matcher.routes

variable {c : Course}

/-- Whatever content the route file is given, it is noticed. -/
theorem Serves.exists_write (h : c.Serves path f) (content : Content) :
    ∃ files, c.files.write path content = .ok files ∧ files.find path = .ok (.file content) ∧
      (c.deliver content).noticed = c.noticed ++ [files] := by
  obtain ⟨files, hwrite⟩ := (Files.CanWrite.of_isFile h.isFile).exists_write content
  refine ⟨files, hwrite, Files.find_write hwrite, ?_⟩
  rw [deliver, h.path_eq, hwrite]

theorem Serves.deliver_of_not_usable (h : c.Serves path f) {content : Content}
    (hwrite : c.files.write path content = .ok files)
    (hrefused : ∀ g : RouteFile, ¬g.Usable files path) :
    c.deliver content = ⟨files, c.watch, c.noticed ++ [files]⟩ := by
  have hchange : (c.watch.change files).value = (files, c.watch, false) :=
    Watch.value_change_of_not_usable (h.path_eq ▸ hrefused)
  simp only [deliver, h.path_eq, hwrite, hchange]

/-- A good content replaces the one before it, and any other content changes nothing. -/
theorem Serves.deliver (h : c.Serves path f) (content : Content) :
    (c.deliver content).Serves path f := by
  obtain ⟨files, hwrite, hfind, -⟩ := h.exists_write content
  have hfile : files.isFile path = true := Files.isFile_of_find hfind
  by_cases husable : ∃ g : RouteFile, g.Usable files path
  · obtain ⟨g, hg⟩ := husable
    obtain ⟨routes, files', hcompile, hsaved, hchange⟩ :=
      Watch.value_change_of_usable (w := c.watch) (h.path_eq.symm ▸ hg)
    have hdeliver : c.deliver content =
        ⟨files', { c.watch with matcher := ⟨routes⟩ }, c.noticed ++ [files]⟩ := by
      simp only [Course.deliver, h.path_eq, hwrite, hchange]
    rw [hdeliver]
    exact ⟨h.path_eq, isFile_saveIfNamed hsaved hfile, by
      rw [lastGood_concat_of_usable hg, hcompile]⟩
  · have hrefused := not_exists.1 husable
    rw [h.deliver_of_not_usable hwrite hrefused]
    exact ⟨h.path_eq, hfile, by rw [lastGood_concat_of_not_usable hrefused, h.routes]⟩

theorem Serves.follow (h : c.Serves path f) (contents : List Content) :
    (c.follow contents).Serves path f ∧
      (c.follow contents).noticed.map (·.find path) =
        c.noticed.map (·.find path) ++ contents.map fun content => .ok (.file content) := by
  induction contents generalizing c with
  | nil => exact ⟨h, by simp [Course.follow]⟩
  | cons content contents ih =>
      obtain ⟨files, -, hfind, hnoticed⟩ := h.exists_write content
      obtain ⟨hserves, hcontents⟩ := ih (h.deliver content)
      refine ⟨hserves, hcontents.trans ?_⟩
      simp [hnoticed, hfind]

end Course

/-- While a route file is being watched, the matcher in service answers as a new table with the
routes of the last content from which a matcher could be rebuilt, or of the route file as it was
loaded if there is none.  A matcher can be rebuilt from a content if and only if it is the text of
a route file without problems that names no cache file, or one that can be written; from any other
content nothing changes.  The contents may be any files, the first one being a route file that can
be loaded, even if no matcher can be rebuilt from it. -/
theorem Watch.serves_lastGood (hload : (RouteFile.load files path).value = .ok f) :
    ∃ begun matcher, (Command.initialMatcher files path f).value = (begun, .ok matcher) ∧
      ∀ contents : List Content,
        let c := (Course.mk begun (Watch.start path matcher).value []).follow contents
        c.noticed.map (·.find path) = contents.map (fun content => .ok (.file content)) ∧
        (∀ queries, (c.watch.matcher.requestAll queries).value.map .ok =
          ((Table.ofRouteFile (lastGood path f c.noticed)).value.requestAll queries).value.2) ∧
        ∀ content, ∃ files, c.files.write path content = .ok files ∧
          (c.deliver content).noticed = c.noticed ++ [files] ∧
          ((rebuild files path).value.matcher.isOk = true ↔ ∃ text g, content = .text text ∧
            RouteFile.ofToml text = .ok g ∧ g.problems = [] ∧
              ∀ cache ∈ g.cachePath, files.CanWrite cache) ∧
          ((rebuild files path).value.matcher.isOk = false →
            c.deliver content = ⟨files, c.watch, c.noticed ++ [files]⟩) := by
  obtain ⟨text, hread, -⟩ := RouteFile.value_load_eq_ok_iff.1 hload
  obtain ⟨routes, begun, hcompile, hinitial, hfiles⟩ := Command.value_initialMatcher hload
  have hfile : begun.isFile path = true := by
    rcases hfiles with rfl | hsaved
    · exact Files.isFile_of_readText hread
    · exact isFile_saveIfNamed hsaved (Files.isFile_of_readText hread)
  refine ⟨begun, ⟨routes⟩, hinitial, fun contents => ?_⟩
  intro c
  have hbegin : (Course.mk begun (Watch.start path ⟨routes⟩).value []).Serves path f :=
    ⟨rfl, hfile, hcompile⟩
  obtain ⟨hserves, hnoticed⟩ := hbegin.follow contents
  refine ⟨hnoticed, fun queries => (Matcher.map_ok_requestAll hserves.routes queries).symm, ?_⟩
  intro content
  obtain ⟨files, hwrite, hfind, hconcat⟩ := hserves.exists_write content
  refine ⟨files, hwrite, hconcat, isOk_rebuild_iff_of_find hfind, fun hfailed => ?_⟩
  refine hserves.deliver_of_not_usable hwrite (not_exists.1 fun husable => ?_)
  rw [isOk_rebuild_iff.2 husable] at hfailed
  cases hfailed

/-- A route file whose cache file is in a directory that does not exist. -/
def unsavableFiles : Files :=
  ⟨[(["routes.toml"], .file (.text
    "[cache]\npath = \"none/cache.json\"\n\n[[routes]]\npath = \"/\"\ntarget = \"home\"\n"))]⟩

/-- No matcher can be rebuilt from it, but it is served, also after it has been broken. -/
theorem Watch.serves_lastGood_unsavable :
    (rebuild unsavableFiles "routes.toml").value.matcher.isOk = false ∧ ∃ f,
      (RouteFile.load unsavableFiles "routes.toml").value = .ok f ∧ ∃ begun matcher,
        (Command.initialMatcher unsavableFiles "routes.toml" f).value = (begun, .ok matcher) ∧
          ((Course.mk begun ⟨"routes.toml", matcher⟩ []).deliver (.text "[")).watch.matcher =
            matcher := by
  have hfailed : (rebuild unsavableFiles "routes.toml").value.matcher.isOk = false := by
    decide +kernel
  have hok : (RouteFile.load unsavableFiles "routes.toml").value.isOk = true := by decide +kernel
  have hmalformed : (RouteFile.ofToml "[").isOk = false := by decide +kernel
  obtain ⟨f, hload⟩ := isOk_iff_exists.1 hok
  obtain ⟨begun, matcher, hinitial, hcourse⟩ := serves_lastGood hload
  obtain ⟨-, -, hdeliver⟩ := hcourse []
  obtain ⟨files, -, -, hgood, hkept⟩ := hdeliver (.text "[")
  have hbroken : (rebuild files "routes.toml").value.matcher.isOk = false := by
    rw [← Bool.not_eq_true, hgood]
    rintro ⟨text, g, hcontent, htoml, -⟩
    rw [← Content.text.inj hcontent] at htoml
    rw [htoml] at hmalformed
    cases hmalformed
  refine ⟨hfailed, f, hload, begun, matcher, hinitial, ?_⟩
  exact congrArg (fun c => c.watch.matcher) (hkept hbroken)

end PathRouter
