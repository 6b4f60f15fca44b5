import PathRouter.Pattern.Template

/-!
# Splitting a pattern

`Template.scan` loses nothing and finds what has been written down.

* `Placeholder.read?_eq_some_iff` — what is read after an opening brace are the placeholders that
  can be written down, and all of them;
* `Template.text_scan` — the pieces of a pattern give the pattern back;
* `Template.scan_text_append`, `Template.scan_append` — a placeholder is found where it has been
  written, and text without opening braces is literal whatever comes after it.
-/

namespace PathRouter

namespace Placeholder

/-- The placeholders that can be written down. -/
structure Writable (p : Placeholder) : Prop where
  /-- There is a name. -/
  name_ne_nil : p.name ≠ []
  /-- The name has no colon and no closing brace. -/
  name_all : ∀ c ∈ p.name, isNameChar c = true
  /-- A key is not empty. -/
  key_ne_nil : p.key ≠ some []
  /-- A key has no closing brace. -/
  key_all : ∀ key ∈ p.key, ∀ c ∈ key, isKeyChar c = true

theorem writable_iff {p : Placeholder} : p.Writable ↔ p.name ≠ [] ∧ p.name.all isNameChar = true ∧
    p.key ≠ some [] ∧ p.key.all (fun key => key.all isKeyChar) = true := by
  simp only [List.all_eq_true, Option.all_eq_true]
  constructor
  · rintro ⟨hne, hname, hkey, hall⟩
    exact ⟨hne, hname, hkey, hall⟩
  · rintro ⟨hne, hname, hkey, hall⟩
    exact ⟨hne, hname, hkey, hall⟩

instance (p : Placeholder) : Decidable p.Writable := decidable_of_iff' _ writable_iff

theorem all_takeWhile (f : Char → Bool) (cs : List Char) : ∀ c ∈ cs.takeWhile f, f c = true :=
  fun _ h => List.all_eq_true.1 List.all_takeWhile _ h

theorem writable_of_read? {cs rest : List Char} {p : Placeholder} (h : read? cs = some (p, rest)) :
    p.Writable ∧ '\x7B' :: cs = p.text ++ rest := by
  have hcs : cs.takeWhile isNameChar ++ cs.dropWhile isNameChar = cs :=
    List.takeWhile_append_dropWhile
  simp only [read?] at h
  split at h
  · cases h
  next hname =>
    rw [List.isEmpty_iff] at hname
    split at h
    next rest' heq =>
      cases h
      rw [heq] at hcs
      refine ⟨⟨hname, all_takeWhile _ _, by simp, by simp⟩, ?_⟩
      rw [text]
      simp [hcs]
    next cs' heq =>
      have hcs' : cs'.takeWhile isKeyChar ++ cs'.dropWhile isKeyChar = cs' :=
        List.takeWhile_append_dropWhile
      split at h
      · cases h
      next hkey =>
        rw [List.isEmpty_iff] at hkey
        split at h
        next rest' heq' =>
          cases h
          rw [heq'] at hcs'
          rw [heq] at hcs
          refine ⟨⟨hname, all_takeWhile _ _, by simpa using hkey, ?_⟩, ?_⟩
          · intro key hmem
            cases hmem
            exact all_takeWhile _ _
          · rw [text]
            simp [hcs, hcs']
        · cases h
    · cases h

/-- A text up to a character that ends it. -/
theorem takeWhile_append_cons {f : Char → Bool} {u : List Char} (hu : ∀ c ∈ u, f c = true)
    {d : Char} (hd : f d = false) (v : List Char) :
    (u ++ d :: v).takeWhile f = u ∧ (u ++ d :: v).dropWhile f = d :: v := by
  rw [List.takeWhile_append_of_pos hu, List.dropWhile_append_of_pos hu]
  simp [hd]

theorem read?_of_writable {p : Placeholder} (hp : p.Writable) {cs rest : List Char}
    (h : '\x7B' :: cs = p.text ++ rest) : read? cs = some (p, rest) := by
  obtain ⟨name, key⟩ := p
  have hname : name.isEmpty = false := by simpa using hp.name_ne_nil
  cases key with
  | none =>
      obtain rfl : cs = name ++ '\x7D' :: rest := by simpa [text] using h
      obtain ⟨htake, hdrop⟩ := takeWhile_append_cons hp.name_all (d := '\x7D') (by decide) rest
      simp [read?, htake, hdrop, hname]
  | some key =>
      have hkey : key.isEmpty = false := by simpa using hp.key_ne_nil
      obtain rfl : cs = name ++ ':' :: (key ++ '\x7D' :: rest) := by simpa [text] using h
      obtain ⟨htake, hdrop⟩ :=
        takeWhile_append_cons hp.name_all (d := ':') (by decide) (key ++ '\x7D' :: rest)
      obtain ⟨htake', hdrop'⟩ :=
        takeWhile_append_cons (hp.key_all key rfl) (d := '\x7D') (by decide) rest
      simp [read?, htake, hdrop, htake', hdrop', hname, hkey]

/-- After an opening brace, a placeholder is read if and only if it can be written down and is. -/
theorem read?_eq_some_iff {cs rest : List Char} {p : Placeholder} :
    read? cs = some (p, rest) ↔ p.Writable ∧ '\x7B' :: cs = p.text ++ rest :=
  ⟨writable_of_read?, fun h => read?_of_writable h.1 h.2⟩

end Placeholder

namespace Template

/-- No character is lost. -/
theorem text_scan (cs : List Char) : text (scan cs) = cs := by
  fun_induction scan cs with
  | case1 => rfl
  | case2 c cs hc p rest h _ ih =>
      obtain rfl : c = '\x7B' := by simpa using hc
      rw [text, List.flatMap_cons, ← text, ih]
      exact (Placeholder.read?_eq_some_iff.1 h).2.symm
  | case3 c cs _ _ ih =>
      rw [text, List.flatMap_cons, ← text, ih]
      rfl
  | case4 c cs _ ih =>
      rw [text, List.flatMap_cons, ← text, ih]
      rfl

/-- The placeholders that are found can be written down. -/
theorem writable_of_mem_scan {cs : List Char} {p : Placeholder} (h : p ∈ (scan cs).placeholders) :
    p.Writable := by
  fun_induction scan cs with
  | case1 => simp [placeholders] at h
  | case2 c cs _ q rest hread _ ih =>
      rcases List.mem_cons.1 h with rfl | h
      · exact (Placeholder.read?_eq_some_iff.1 hread).1
      · exact ih h
  | case3 c cs _ _ ih => exact ih h
  | case4 c cs _ ih => exact ih h

/-- A placeholder is found where it has been written. -/
theorem scan_text_append {p : Placeholder} (hp : p.Writable) (cs : List Char) :
    scan (p.text ++ cs) = .placeholder p :: scan cs := by
  obtain ⟨u, hu⟩ : ∃ u, p.text ++ cs = '\x7B' :: u := ⟨_, rfl⟩
  have hread := Placeholder.read?_eq_some_iff.2 ⟨hp, hu.symm⟩
  rw [hu, scan, if_pos (by decide)]
  split
  next q rest heq =>
    rw [hread] at heq
    cases heq
    rfl
  next heq =>
    rw [hread] at heq
    cases heq

/-- Placeholders that have been written one after the other are all found. -/
theorem scan_text_placeholders {ps : List Placeholder} (h : ∀ p ∈ ps, p.Writable) :
    scan (text (ps.map .placeholder)) = ps.map .placeholder := by
  induction ps with
  | nil => rw [List.map_nil, text, List.flatMap_nil, scan]
  | cons p ps ih =>
      rw [List.forall_mem_cons] at h
      rw [List.map_cons, text, List.flatMap_cons, ← text, scan_text_append h.1, ih h.2]

/-- Text without opening braces is literal. -/
theorem scan_append {u : List Char} (hu : '\x7B' ∉ u) (cs : List Char) :
    scan (u ++ cs) = u.map Segment.char ++ scan cs := by
  induction u with
  | nil => rfl
  | cons c u ih =>
      rw [List.mem_cons, not_or] at hu
      rw [List.cons_append, scan, if_neg (by simpa using Ne.symm hu.1), ih hu.2]
      rfl

end Template

end PathRouter
