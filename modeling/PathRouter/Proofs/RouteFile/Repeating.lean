import PathRouter.Proofs.Storage.Failing

/-!
# Rebuilding once more

A route file that is being watched is rebuilt after every change, and nobody looks at it in
between.  A rebuild reads the route file and writes the cache file, whose name it takes from the
route file.  If these are two files, the route file stays as it is, and another rebuild gives the
same matcher and the same files, or is refused for the same reason.  If the route file names itself
as the cache file, then the records are written over it.  This always changes it, since records are
no TOML document, and no rebuild succeeds any more.

* `Toml.read_writeRecords` — records are no TOML document;
* `RouteFile.NamesItself` — the cache file is the route file;
* `rebuild_keeps_routeFile_iff` — the route file and another rebuild, for every path and all files.
-/

namespace PathRouter

/-! ## Records as TOML -/

namespace Toml

/-- The header of a table has a key in it, on the same line. -/
theorem readLines_of_bracket {c : Char} (hc : c = ']' ∨ c = '\n') (fuel : Nat) (d : Document)
    (cs : List Char) :
    readLines fuel d ('[' :: c :: cs) = none := by
  have hheader : readHeader d (c :: cs) = none := by
    rcases hc with rfl | rfl <;> rfl
  cases fuel with
  | zero => rfl
  | succ fuel =>
      have hspace : skipSpace ('[' :: c :: cs) = '[' :: c :: cs := rfl
      simp only [readLines, hspace, hheader]

/-- Other characters than a carriage return stay. -/
theorem joinLineEnds_cons {c : Char} (hc : c ≠ '\r') (cs : List Char) :
    joinLineEnds (c :: cs) = (joinLineEnds cs).map (c :: ·) := by
  rw [joinLineEnds.eq_3 c cs fun _ h _ => absurd h hc, if_neg hc]

theorem read_of_bracket {c : Char} (hc : c = ']' ∨ c = '\n') {text : String} {cs : List Char}
    (htext : text.toList = '[' :: c :: cs) : read text = none := by
  have hne : c ≠ '\r' := by
    rcases hc with rfl | rfl <;> decide
  rw [read, htext, joinLineEnds_cons (by decide), joinLineEnds_cons hne]
  cases joinLineEnds cs with
  | none => rfl
  | some cs =>
      show (readLines _ {} ('[' :: c :: cs) >>= fun d => _) = none
      rw [readLines_of_bracket hc]
      rfl

/-- Records are no TOML document. -/
theorem read_writeRecords {α : Type} [ToJson α] (routes : List (CompiledRoute α)) :
    read (writeRecords routes) = none := by
  cases routes with
  | nil =>
      have htext : (writeRecords ([] : List (CompiledRoute α))).toList = ['[', ']'] :=
        String.toList_ofList
      exact read_of_bracket (.inl rfl) htext
  | cons r rs => exact read_of_bracket (.inr rfl) String.toList_ofList

end Toml

variable {files files' : Files} {path : String} {f : RouteFile}
    {routes : List (CompiledRoute String)}

/-! ## Writing the cache file again -/

/-- Writing the same records again changes nothing. -/
theorem saveIfNamed_saveIfNamed {cache : Option String}
    (h : (saveIfNamed files cache routes).value = (files', .ok ())) :
    (saveIfNamed files' cache routes).value = (files', .ok ()) := by
  cases cache with
  | none => rfl
  | some cache =>
      have hwrite := saveRecords_eq_ok_iff.1 h
      obtain ⟨written, hagain, hsame⟩ := Files.write_write hwrite (.text (writeRecords routes))
      obtain rfl : files' = written := Except.ok.inj (hwrite.symm.trans hsame)
      exact saveRecords_eq_ok_iff.2 hagain

/-! ## The cache file and the route file -/

namespace RouteFile

/-- The cache file that a route file names is the route file itself. -/
def NamesItself (f : RouteFile) (files : Files) (path : String) : Prop :=
  ∃ cache, f.cachePath = some cache ∧ files.locate cache = files.locate path

theorem exists_location (hload : (load files path).value = .ok f) :
    ∃ l content, files.locate path = .ok l ∧ files.at? l = some (.file content) := by
  obtain ⟨text, hread, -⟩ := value_load_eq_ok_iff.1 hload
  exact Files.isFile_iff.1 (Files.isFile_of_readText hread)

/-- What has been read can be written. -/
theorem NamesItself.usable (h : f.NamesItself files path)
    (hload : (load files path).value = .ok f) :
    f.Usable files path := by
  obtain ⟨cache, hcache, hlocate⟩ := h
  obtain ⟨l, content, hl, hat⟩ := exists_location hload
  refine ⟨hload, ?_⟩
  rw [hcache]
  rintro _ ⟨⟩
  exact .of_isFile (Files.isFile_iff.2 ⟨l, content, hlocate.trans hl, hat⟩)

/-- A cache file of its own is written without a change to the route file. -/
theorem find_saveIfNamed (hload : (load files path).value = .ok f)
    (hself : ¬f.NamesItself files path)
    (hsaved : (saveIfNamed files f.cachePath routes).value = (files', .ok ())) :
    files'.find path = files.find path := by
  cases hcache : f.cachePath with
  | none =>
      rw [hcache] at hsaved
      cases hsaved
      rfl
  | some cache =>
      rw [hcache] at hsaved
      have hwrite := saveRecords_eq_ok_iff.1 hsaved
      obtain ⟨-, l, hl, -⟩ := Files.write_eq_ok_iff.1 hwrite
      obtain ⟨m, -, hm, -⟩ := exists_location hload
      refine Files.find_write_of_apart ⟨l, m, hl, hm, ?_⟩ hwrite
      rintro rfl
      exact hself ⟨cache, hcache, hl.trans hm.symm⟩

/-- If the route file names itself, then the records are in it afterwards. -/
theorem NamesItself.find_saveIfNamed (h : f.NamesItself files path)
    (hload : (load files path).value = .ok f)
    (hsaved : (saveIfNamed files f.cachePath routes).value = (files', .ok ())) :
    files'.find path = .ok (.file (.text (writeRecords routes))) := by
  obtain ⟨cache, hcache, hlocate⟩ := h
  rw [hcache] at hsaved
  have hwrite := saveRecords_eq_ok_iff.1 hsaved
  obtain ⟨l, -, hl, -⟩ := exists_location hload
  have hfind := Files.find_write hwrite
  rw [Files.find, Files.locate_write hwrite (hlocate.trans hl)] at hfind
  rw [Files.find, Files.locate_write hwrite hl]
  exact hfind

/-- Records are no route file. -/
theorem value_load_of_records (h : files.find path = .ok (.file (.text (writeRecords routes)))) :
    (load files path).value = .error (.text .malformed) := by
  have hread : files.readText path = .ok (writeRecords routes) := by
    rw [Files.readText, h]
  simp [load, hread, parse, ofToml, Toml.read_writeRecords]

end RouteFile

/-! ## Rebuilding twice -/

/-- A rebuild writes the records over the route file. -/
def WritesOver (files : Files) (path : String) : Prop :=
  ∃ f : RouteFile, (RouteFile.load files path).value = .ok f ∧ f.NamesItself files path

/-- Otherwise the route file stays, and rebuilding once more is rebuilding once. -/
theorem rebuild_rebuild (h : ¬WritesOver files path) :
    (rebuild files path).value.files.find path = files.find path ∧
      (rebuild (rebuild files path).value.files path).value = (rebuild files path).value := by
  by_cases husable : ∃ f : RouteFile, f.Usable files path
  · obtain ⟨f, hf⟩ := husable
    obtain ⟨routes, files', hcompile, hsaved, hrebuild⟩ := rebuild_of_usable hf
    have hself : ¬f.NamesItself files path := fun hself => h ⟨f, hf.1, hself⟩
    have hfind := RouteFile.find_saveIfNamed hf.1 hself hsaved
    have hload : (RouteFile.load files' path).value = .ok f := by
      rw [RouteFile.load_congr hfind, hf.1]
    rw [hrebuild]
    exact ⟨hfind, rebuild_eq_ok_iff.2 ⟨f, hload, hcompile, saveIfNamed_saveIfNamed hsaved⟩⟩
  · obtain ⟨e, hrebuild⟩ := rebuild_of_not_usable (not_exists.1 husable)
    rw [hrebuild]
    exact ⟨rfl, hrebuild⟩

/-- A rebuild that writes over the route file succeeds and is the last one. -/
theorem WritesOver.rebuild (h : WritesOver files path) : ∃ routes files',
    (rebuild files path).value = ⟨files', .ok ⟨routes⟩⟩ ∧ files'.find path ≠ files.find path ∧
      (PathRouter.rebuild files' path).value = ⟨files', .error (.config (.text .malformed))⟩ := by
  obtain ⟨f, hload, hself⟩ := h
  obtain ⟨routes, files', -, hsaved, hrebuild⟩ := rebuild_of_usable (hself.usable hload)
  have hmalformed := RouteFile.value_load_of_records (hself.find_saveIfNamed hload hsaved)
  refine ⟨routes, files', hrebuild, fun hfind => ?_, ?_⟩
  · rw [RouteFile.load_congr hfind, hload] at hmalformed
    cases hmalformed
  · rw [value_rebuild, hmalformed]

/-- The route file is what it was after a rebuild, whether this succeeds or not, unless it names
itself as its cache file; and then another rebuild without a change in between gives the same
matcher or error and the same files.  A route file that names itself is always changed, by a
rebuild that succeeds, and from then on every rebuild is refused because the route file is no TOML
document. -/
theorem rebuild_keeps_routeFile_iff (files : Files) (path : String) :
    let once := (rebuild files path).value
    let twice := (rebuild once.files path).value
    (once.files.find path = files.find path ↔ ¬WritesOver files path) ∧
      (twice = once ↔ ¬WritesOver files path) ∧
      (WritesOver files path →
        once.matcher.isOk = true ∧ twice = ⟨once.files, .error (.config (.text .malformed))⟩) := by
  intro once twice
  by_cases hover : WritesOver files path
  · obtain ⟨routes, files', hrebuild, hchanged, hagain⟩ := hover.rebuild
    have honce : once = ⟨files', .ok ⟨routes⟩⟩ := hrebuild
    have htwice : twice = ⟨files', .error (.config (.text .malformed))⟩ := by
      rw [← hagain, ← show once.files = files' by rw [honce]]
    rw [htwice, honce]
    refine ⟨iff_of_false hchanged (not_not_intro hover), iff_of_false ?_ (not_not_intro hover),
      fun _ => ⟨rfl, rfl⟩⟩
    rintro ⟨⟩
  · obtain ⟨hkept, hagain⟩ := rebuild_rebuild hover
    exact ⟨iff_of_true hkept hover, iff_of_true hagain hover, fun h => absurd h hover⟩

/-- A route file that names itself as its cache file. -/
def selfNamingText : String :=
  "[cache]\npath = \"routes.toml\"\n\n[[routes]]\npath = \"/home\"\ntarget = \"home\"\n"

/-- It is rebuilt once, which changes it, and then no more. -/
theorem rebuild_keeps_routeFile_iff_selfNaming :
    let files : Files := ⟨[(["routes.toml"], .file (.text selfNamingText))]⟩
    let once := (rebuild files "routes.toml").value
    WritesOver files "routes.toml" ∧ once.matcher.isOk = true ∧
      once.files.find "routes.toml" ≠ files.find "routes.toml" ∧
      (rebuild once.files "routes.toml").value =
        ⟨once.files, .error (.config (.text .malformed))⟩ := by
  intro files once
  have hcache : (RouteFile.load files "routes.toml").value.map RouteFile.cachePath =
      .ok (some "routes.toml") := by decide +kernel
  obtain ⟨f, hload, hcache⟩ := map_eq_ok_iff.1 hcache
  have hover : WritesOver files "routes.toml" := ⟨f, hload, _, hcache, rfl⟩
  obtain ⟨hkept, -, hlast⟩ := rebuild_keeps_routeFile_iff files "routes.toml"
  obtain ⟨hok, hagain⟩ := hlast hover
  exact ⟨hover, hok, fun hfind => hkept.1 hfind hover, hagain⟩

end PathRouter
