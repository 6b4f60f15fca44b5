import PathRouter.Proofs.Pattern.Substituting

/-!
# What captured values stand for

The key of a placeholder promises a kind of value: a number, a word, a colour code of six
hexadecimal digits.  Handlers rely on it when they read a value.  The texts that an assertion takes
keep the promise for all keys but one.  The letters of a colour code go up to `Z` where they are
capital letters, so that `GHIJKL` passes for a code.

* `Assertion.Means` — what a key promises;
* `Assertion.Takes.means_iff` — which of the texts that are taken keep the promise;
* `CompiledPattern.captured_means_iff` — which of the values that are captured do.
-/

namespace PathRouter

/-! ## Meanings -/

/-- What the key of an assertion promises of a text. -/
def Assertion.Means : Assertion → List Char → Prop
  | segment, v => v ≠ [] ∧ ∀ c ∈ v, c ≠ '/'
  | alpha, v => v ≠ [] ∧ ∀ c ∈ v, c.isAlpha
  | alphaNumeric, v => v ≠ [] ∧ ∀ c ∈ v, c.isAlphanum
  | hex, v => v.length = 6 ∧
      ∀ c ∈ v, ('0' ≤ c ∧ c ≤ '9') ∨ ('a' ≤ c ∧ c ≤ 'f') ∨ ('A' ≤ c ∧ c ≤ 'F')
  | digits, v => v ≠ [] ∧ ∀ c ∈ v, c.isDigit
  | catchAll, v => ∃ c cs, v = c :: cs ∧ ¬ Unicode.isWhite c

/-- Of the characters of a colour code, those that are no hexadecimal digits are the capital
letters from `G` upwards. -/
theorem isHexadecimal_iff {c : Char}
    (hc : ('a' ≤ c ∧ c ≤ 'f') ∨ ('A' ≤ c ∧ c ≤ 'Z') ∨ ('0' ≤ c ∧ c ≤ '9')) :
    (('0' ≤ c ∧ c ≤ '9') ∨ ('a' ≤ c ∧ c ≤ 'f') ∨ ('A' ≤ c ∧ c ≤ 'F')) ↔ ¬('G' ≤ c ∧ c ≤ 'Z') := by
  simp only [Char.le_def, UInt32.le_iff_toNat_le, Char.reduceVal, UInt32.reduceToNat] at hc ⊢
  omega

/-- A text that an assertion takes is what its key promises, unless it is a colour code with a
letter above `F`. -/
theorem Assertion.Takes.means_iff {a : Assertion} {v : List Char} (h : a.Takes v) :
    a.Means v ↔ (a = .hex → ∀ c ∈ v, ¬('G' ≤ c ∧ c ≤ 'Z')) := by
  cases a with
  | hex =>
      obtain ⟨hlength, hall⟩ := h
      constructor
      · rintro ⟨-, hmeans⟩ - c hc
        exact (isHexadecimal_iff (hall c hc)).1 (hmeans c hc)
      · intro hlow
        exact ⟨hlength, fun c hc => (isHexadecimal_iff (hall c hc)).2 (hlow rfl c hc)⟩
  | catchAll =>
      obtain ⟨c, cs, rfl, hc, -⟩ := h
      exact iff_of_true ⟨c, cs, rfl, hc⟩ nofun
  | _ => exact iff_of_true h nofun

/-! ## Captured values -/

namespace Template

/-- The values of a filling suit their placeholders. -/
theorem Fills.suits {t : Template} {vs : List (List Char)} {cs : List Char} (h : Fills t vs cs) :
    List.Forall₂ Placeholder.Suits t.placeholders vs := by
  induction h with
  | nil => exact .nil
  | char _ ih => exact ih
  | placeholder ha hv _ ih => exact .cons ⟨_, ha, hv⟩ ih

/-- Every placeholder has its value among the captures. -/
theorem exists_lookup_captures {t : Template}
    (hnodup : (t.placeholders.map Placeholder.name).Nodup) {vs : List (List Char)}
    (hvs : List.Forall₂ Placeholder.Suits t.placeholders vs) {q : Placeholder}
    (hq : q ∈ t.placeholders) :
    ∃ v, q.Suits v ∧ (t.captures vs).lookup (String.ofList q.name) = some (String.ofList v) := by
  have hlength := hvs.length_eq.symm
  obtain ⟨i, hi, rfl⟩ := List.getElem_of_mem hq
  have hi' : i < vs.length := hlength ▸ hi
  refine ⟨vs[i], hvs.get hi hi', ?_⟩
  rw [lookup_eq_some_iff_mem (nodup_captures hnodup hlength), captures, List.mem_iff_getElem]
  exact ⟨i, by simpa using ⟨hi, hi'⟩, by simp⟩

end Template

/-- If a pattern with suitable names and keys matches a path, then every placeholder has captured a
text that its assertion takes.  This text is what the key promises, unless the key is that of
colour codes and there is a capital letter above `F` in it. -/
theorem CompiledPattern.captured_means_iff {pattern : String} {t : Template}
    (hscan : Template.scan pattern.toList = t) (ht : t.WellNamed) {p : CompiledPattern}
    (hp : compilePath pattern = .ok (.pattern p)) {path : String}
    (hmatch : p.isMatch path = true) :
    ∃ captures, p.captures? path = some captures ∧
      captures.map Prod.fst = t.placeholders.map (String.ofList ·.name) ∧
      ∀ q ∈ t.placeholders, ∃ a v, q.assertion? = some a ∧
        captures.lookup (String.ofList q.name) = some (String.ofList v) ∧ a.Takes v ∧
        (a.Means v ↔ (a = .hex → ∀ c ∈ v, ¬('G' ≤ c ∧ c ≤ 'Z'))) := by
  obtain ⟨hne, -⟩ := of_compilePath_eq_pattern hp hscan
  have hcompiled := compilePath_of_wellNamed hscan ht hne
  simp only [hp, reduceCtorEq, and_false, false_or, Except.ok.injEq,
    CompiledPath.pattern.injEq] at hcompiled
  obtain ⟨-, _, rfl, hof, hnode⟩ := hcompiled
  have hsome : (p.captures? path).isSome = true := by
    rwa [captures?, Option.isSome_map]
  obtain ⟨captures, hcaptures⟩ := Option.isSome_iff_exists.1 hsome
  obtain ⟨vs, hlongest, rfl⟩ := exists_isLongest hof hnode ht hcaptures
  refine ⟨_, hcaptures, Template.map_fst_captures hlongest.1.length_eq, fun q hq => ?_⟩
  obtain ⟨v, ⟨a, ha, hv⟩, hlookup⟩ := Template.exists_lookup_captures ht.nodup hlongest.1.suits hq
  exact ⟨a, v, ha, hlookup, hv, hv.means_iff⟩

/-! ## A colour -/

/-- A pattern for colours. -/
def colorPattern : String := "/color/\x7Bcode:h\x7D"

/-- A placeholder for a colour code. -/
def codePlaceholder : Placeholder where
  name := "code".toList
  key := some ['h']

/-- The pieces of the pattern. -/
def colorTemplate : Template :=
  "/color/".toList.map Segment.char ++ [.placeholder codePlaceholder]

theorem scan_colorPattern : Template.scan colorPattern.toList = colorTemplate := by
  have htext : colorPattern.toList = "/color/".toList ++ (codePlaceholder.text ++ []) := by decide
  rw [htext, Template.scan_append (by decide), Template.scan_text_append (by decide),
    Template.scan]
  rfl

theorem wellNamed_colorTemplate : colorTemplate.WellNamed where
  isGroupName := by
    have hplaceholders : colorTemplate.placeholders = [codePlaceholder] := by decide
    rw [hplaceholders, List.forall_mem_singleton]
    exact Regex.State.isGroupName_of_isLower (by decide) (by decide)
  nodup := by decide
  known := by decide

/-- Letters that are no digits of a number are captured as a colour code. -/
theorem captured_means_iff_color : ∃ p, compilePath colorPattern = .ok (.pattern p) ∧
    p.isMatch "/color/GHIJKL" = true ∧ p.captures? "/color/GHIJKL" = some [("code", "GHIJKL")] ∧
    ¬Assertion.hex.Means "GHIJKL".toList := by
  have hshort : colorTemplate.node.footprint ≤ Regex.maxFootprint :=
    Template.footprint_node_le_maxFootprint (by decide)
  rcases compilePath_of_wellNamed scan_colorPattern wellNamed_colorTemplate (by decide) with
    ⟨hlarge, -⟩ | ⟨-, p, hp, hof, hnode⟩
  · exact absurd hlarge (Nat.not_lt_of_le hshort)
  have hcaptures : p.captures? "/color/GHIJKL" = some [("code", "GHIJKL")] := by
    rw [CompiledPattern.captures?, Regex.search, hnode, hof.captureNames]
    decide +kernel
  have hmatch : p.isMatch "/color/GHIJKL" = true := by
    have hsome : (p.captures? "/color/GHIJKL").isSome = true := by
      rw [hcaptures]
      rfl
    rwa [CompiledPattern.captures?, Option.isSome_map] at hsome
  refine ⟨p, hp, hmatch, hcaptures, fun hmeans => ?_⟩
  obtain ⟨captures, hsame, -, hvalues⟩ :=
    CompiledPattern.captured_means_iff scan_colorPattern wellNamed_colorTemplate hp hmatch
  obtain rfl := Option.some.inj (hcaptures.symm.trans hsame)
  obtain ⟨a, v, ha, hlookup, -, hiff⟩ := hvalues codePlaceholder (by decide)
  obtain rfl : Assertion.hex = a := Option.some.inj ha
  have hv : "GHIJKL".toList = v := by
    rw [Option.some.inj hlookup, String.toList_ofList]
  rw [← hv] at hiff
  exact hiff.1 hmeans rfl 'G' (by decide) (by decide)

end PathRouter
