import PathRouter.Storage.Files

/-!
# Files after writing

A file is written at the place that its path names, and the way to this place goes through
directories only. So the path names the same place afterwards, whatever else the store holds and
whatever was there before.

* `Files.write_eq_ok_iff` — when a file can be written, which does not depend on what is written;
* `Files.CanWrite.of_isFile` — a file that exists can be written;
* `Files.find_write`, `Files.find_write_of_apart` — what the path names afterwards, and what paths
  to other places name;
* `Files.write_write` — a file that was written can be written again, and what it held before is
  gone;
* `Files.Vacant` — a path with nothing at its place, in a directory that exists.
-/

namespace PathRouter.Files

variable {f f' : Files} {path : String} {content : Content}

/-! ## When a file can be written -/

/-- A path names a place, and there is no directory at this place.  A slash at the end would ask
for one. -/
def CanWrite (f : Files) (path : String) : Prop :=
  path.toList.getLast? ≠ some '/' ∧ ∃ l, f.locate path = .ok l ∧ f.at? l ≠ some .directory

theorem write_eq_ok_iff : f.write path content = .ok f' ↔ path.toList.getLast? ≠ some '/' ∧
    ∃ l, f.locate path = .ok l ∧ f.at? l ≠ some .directory ∧ f' = f.set l (.file content) := by
  unfold write
  split
  next hslash =>
    refine ⟨fun h => ?_, fun h => absurd hslash h.1⟩
    split at h
    · cases h
    · split at h <;> cases h
  next hslash =>
    split
    next e hlocate => simp [hlocate]
    next l hlocate =>
      split
      next hat => simp [hlocate, hat]
      next hat =>
        refine ⟨fun h => ⟨hslash, l, hlocate, hat, (Except.ok.inj h).symm⟩, ?_⟩
        rintro ⟨-, l', hl', -, rfl⟩
        cases hlocate.symm.trans hl'
        rfl

/-- Whatever is to be written, it is written or not for the same reason. -/
theorem CanWrite.exists_write (h : f.CanWrite path) (content : Content) :
    ∃ f', f.write path content = .ok f' := by
  obtain ⟨hslash, l, hlocate, hat⟩ := h
  exact ⟨_, write_eq_ok_iff.2 ⟨hslash, l, hlocate, hat, rfl⟩⟩

theorem CanWrite.of_write (h : f.write path content = .ok f') : f.CanWrite path := by
  obtain ⟨hslash, l, hlocate, hat, -⟩ := write_eq_ok_iff.1 h
  exact ⟨hslash, l, hlocate, hat⟩

/-- Whether a file can be written, and why not, does not depend on what is to be written. -/
theorem write_eq_error {before : Content} {e : FileError} (h : f.write path before = .error e)
    (content : Content) : f.write path content = .error e := by
  unfold write at h ⊢
  by_cases hslash : path.toList.getLast? = some '/'
  · rw [if_pos hslash] at h ⊢
    exact h
  · rw [if_neg hslash] at h ⊢
    cases hlocate : f.locate path with
    | error e' => simpa only [hlocate] using h
    | ok l =>
        simp only [hlocate] at h ⊢
        split at h
        · exact h
        · cases h

/-! ## Finding what was written -/

/-- The working directory and what is above it are always directories. -/
theorem isBase_of_at? {l : Location} (h : f.at? l ≠ some .directory) :
    Location.isBase l = false := by
  rw [← Bool.not_eq_true]
  exact fun hbase => h (by rw [at?, if_pos hbase])

theorem at?_of_descend {l l' : Location} {name : String} (h : f.descend l name = .ok l') :
    f.at? l = some .directory := by
  unfold descend at h
  split at h
  · cases h
  · cases h
  next hat => exact hat

/-- A way through directories is still open if all directories are still there. -/
theorem foldlM_descend {names : List String} {l l' : Location}
    (hkeep : ∀ l, f.at? l = some .directory → f'.at? l = some .directory)
    (h : names.foldlM f.descend l = .ok l') : names.foldlM f'.descend l = .ok l' := by
  induction names generalizing l with
  | nil => exact h
  | cons name names ih =>
      rw [List.foldlM_cons] at h ⊢
      cases hdescend : f.descend l name with
      | error e => rw [hdescend] at h; cases h
      | ok next =>
          have hat := at?_of_descend hdescend
          have hsame : f'.descend l name = .ok next := by
            rw [← hdescend, descend, descend, hat, hkeep l hat]
          rw [hdescend] at h
          rw [hsame]
          exact ih h

/-- A path names the same place as long as all directories are still there. -/
theorem locate_eq {l : Location}
    (hkeep : ∀ l, f.at? l = some .directory → f'.at? l = some .directory)
    (h : f.locate path = .ok l) : f'.locate path = .ok l := by
  unfold locate at h ⊢
  split at h
  · cases h
  next hpath =>
    rw [if_neg hpath]
    exact foldlM_descend hkeep h

/-- Writing a file leaves every directory in its place. -/
theorem at?_write_of_directory (h : f.write path content = .ok f') {m : Location}
    (hm : f.at? m = some .directory) : f'.at? m = some .directory := by
  obtain ⟨-, l, -, hat, rfl⟩ := write_eq_ok_iff.1 h
  have hne : m ≠ l := by
    rintro rfl
    exact hat hm
  rw [at?_set (isBase_of_at? hat), if_neg hne]
  exact hm

theorem locate_write (h : f.write path content = .ok f') {other : String} {l : Location}
    (hl : f.locate other = .ok l) : f'.locate other = .ok l :=
  locate_eq (fun _ => at?_write_of_directory h) hl

/-- The path of a file that was written names what was written. -/
theorem find_write (h : f.write path content = .ok f') : f'.find path = .ok (.file content) := by
  obtain ⟨-, l, hlocate, hat, rfl⟩ := write_eq_ok_iff.1 h
  rw [find, locate_write h hlocate]
  simp only [at?_set (isBase_of_at? hat), if_true]

/-- A file that was written can be written again, and it is as if it had been written once. -/
theorem write_write {opened : Files} {before : Content} (h : f.write path before = .ok opened)
    (content : Content) :
    ∃ written, opened.write path content = .ok written ∧ f.write path content = .ok written := by
  obtain ⟨hslash, l, hlocate, hat, rfl⟩ := write_eq_ok_iff.1 h
  have hbase := isBase_of_at? hat
  have hagain : ((f.set l (.file before)).at? l) ≠ some .directory := by
    simp [at?_set hbase]
  have hset : (f.set l (.file before)).set l (.file content) = f.set l (.file content) := by
    simp [set, List.filter_filter]
  refine ⟨f.set l (.file content), ?_, ?_⟩
  · exact write_eq_ok_iff.2 ⟨hslash, l, locate_write h hlocate, hagain, hset.symm⟩
  · exact write_eq_ok_iff.2 ⟨hslash, l, hlocate, hat, rfl⟩

/-! ## Files that exist -/

/-- A slash at the end of a path stands in front of an empty part. -/
theorem parts_of_getLast? (h : path.toList.getLast? = some '/') :
    ∃ names, parts path = names ++ [""] := by
  obtain ⟨cs, hcs⟩ := List.getLast?_eq_some_iff.1 h
  exact ⟨_, by rw [parts, hcs, List.splitOn_append_cons_self, List.map_append]; rfl⟩

/-- A path with a slash at its end names a directory, or nothing. -/
theorem at?_of_getLast? {l : Location} (hslash : path.toList.getLast? = some '/')
    (h : f.locate path = .ok l) : f.at? l = some .directory := by
  obtain ⟨names, hnames⟩ := parts_of_getLast? hslash
  unfold locate at h
  split at h
  · cases h
  · rw [hnames, List.foldlM_append] at h
    cases hway : names.foldlM f.descend (start path) with
    | error e => rw [hway] at h; cases h
    | ok l' =>
        rw [hway] at h
        have hdescend : f.descend l' "" = .ok l := by
          rw [← h]
          show _ = (f.descend l' "" >>= pure)
          rw [bind_pure]
        have hat := at?_of_descend hdescend
        simp only [descend, hat, true_or, if_true, Except.ok.injEq] at hdescend
        exact hdescend ▸ hat

/-- A file that exists can be written, whatever it holds. -/
theorem CanWrite.of_isFile (h : f.isFile path = true) : f.CanWrite path := by
  unfold isFile find at h
  cases hlocate : f.locate path with
  | error e => simp [hlocate] at h
  | ok l =>
      have hat : f.at? l ≠ some .directory := by
        intro hat
        simp [hlocate, hat] at h
      exact ⟨fun hslash => hat (at?_of_getLast? hslash hlocate), l, hlocate, hat⟩

theorem isFile_iff : f.isFile path = true ↔
    ∃ l content, f.locate path = .ok l ∧ f.at? l = some (.file content) := by
  unfold isFile find
  cases hlocate : f.locate path with
  | error e => simp
  | ok l => cases hat : f.at? l with
    | none => simp [hat]
    | some entry => cases entry <;> simp [hat]

theorem isFile_of_find (h : f.find path = .ok (.file content)) : f.isFile path = true := by
  rw [isFile, h]

theorem isFile_of_readText {text : String} (h : f.readText path = .ok text) :
    f.isFile path = true := by
  unfold readText at h
  split at h
  · cases h
  · cases h
  · cases h
  next hfind => exact isFile_of_find hfind

/-- A file stays a file, whatever file is written. -/
theorem isFile_write (h : f.write path content = .ok f') {other : String}
    (hother : f.isFile other = true) : f'.isFile other = true := by
  obtain ⟨m, c, hm, hat⟩ := isFile_iff.1 hother
  have hm' := locate_write h hm
  obtain ⟨-, l, -, hl, rfl⟩ := write_eq_ok_iff.1 h
  rw [isFile_iff]
  by_cases hml : m = l
  · exact ⟨m, content, hm', by rw [at?_set (isBase_of_at? hl), if_pos hml]⟩
  · exact ⟨m, c, hm', by rw [at?_set (isBase_of_at? hl), if_neg hml, hat]⟩

/-! ## Other files -/

/-- Two paths name different places. -/
def Apart (f : Files) (path other : String) : Prop :=
  ∃ l m, f.locate path = .ok l ∧ f.locate other = .ok m ∧ l ≠ m

theorem Apart.write {other written : String} (hapart : f.Apart path other)
    (h : f.write written content = .ok f') : f'.Apart path other := by
  obtain ⟨l, m, hl, hm, hne⟩ := hapart
  exact ⟨l, m, locate_write h hl, locate_write h hm, hne⟩

/-- Writing a file changes no file at another place. -/
theorem find_write_of_apart {other : String} (hapart : f.Apart path other)
    (h : f.write path content = .ok f') : f'.find other = f.find other := by
  obtain ⟨l, m, hl, hm, hne⟩ := hapart
  have hm' := locate_write h hm
  obtain ⟨-, l', hl', hat, rfl⟩ := write_eq_ok_iff.1 h
  have hsame : l = l' := Except.ok.inj (hl.symm.trans hl')
  have hkept : (f.set l' (.file content)).at? m = f.at? m := by
    rw [at?_set (isBase_of_at? hat), if_neg (hsame ▸ hne.symm)]
  simp only [find, hm, hm', hkept]

/-- A path names a place in a directory, and there is nothing at this place. -/
def Vacant (f : Files) (path : String) : Prop :=
  ∃ l, f.locate path = .ok l ∧ f.at? l = none

namespace Vacant

theorem canWrite (h : f.Vacant path) : f.CanWrite path := by
  obtain ⟨l, hlocate, hat⟩ := h
  refine ⟨fun hslash => ?_, l, hlocate, by simp [hat]⟩
  cases (at?_of_getLast? hslash hlocate).symm.trans hat

theorem isFile_eq_false (h : f.Vacant path) : f.isFile path = false := by
  obtain ⟨l, hlocate, hat⟩ := h
  simp [isFile, find, hlocate, hat]

/-- A path that names nothing and one that names a file name different places. -/
theorem apart (h : f.Vacant path) {other : String} (hother : f.isFile other = true) :
    f.Apart path other := by
  obtain ⟨l, hlocate, hat⟩ := h
  obtain ⟨m, c, hm, hatm⟩ := isFile_iff.1 hother
  refine ⟨l, m, hlocate, hm, ?_⟩
  rintro rfl
  cases hat.symm.trans hatm

end Vacant

end PathRouter.Files
