import PathRouter.Pattern.Compile

/-!
# Fillings of a pattern

What a pattern means, said without regular expressions: a path belongs to a pattern if it is the
pattern with a text in the place of every placeholder, each text in the class of the assertion of
its placeholder.  The literal characters stand for themselves.

* `Assertion.Takes` — the class of texts of an assertion;
* `Template.Fills t values path` — `path` is `t` with `values` in the place of its placeholders;
* `Template.IsLongest t values path` — among the fillings that give `path` it is the one with the
  longest first value, then with the longest second value, and so on.  There is at most one
  (`Template.IsLongest.unique`);
* `Template.WellNamed` — the patterns that are meant to compile: names that a capture group can
  have, no name twice, no unknown key.
-/

namespace PathRouter

/-! ## The texts of an assertion -/

namespace Assertion

/-- The texts of an assertion.  Letters and digits are those of ASCII. -/
def Takes : Assertion → List Char → Prop
  | segment, v => v ≠ [] ∧ ∀ c ∈ v, c ≠ '/'
  | alpha, v => v ≠ [] ∧ ∀ c ∈ v, c.isAlpha
  | alphaNumeric, v => v ≠ [] ∧ ∀ c ∈ v, c.isAlphanum
  | hex, v => v.length = 6 ∧
      ∀ c ∈ v, ('a' ≤ c ∧ c ≤ 'f') ∨ ('A' ≤ c ∧ c ≤ 'Z') ∨ ('0' ≤ c ∧ c ≤ '9')
  | digits, v => v ≠ [] ∧ ∀ c ∈ v, c.isDigit
  | catchAll, v => ∃ c cs, v = c :: cs ∧ ¬ Unicode.isWhite c ∧ ∀ d ∈ cs, d ≠ '\n'

end Assertion

namespace Template

/-! ## Fillings -/

/-- A text is a template with some values in the place of its placeholders. -/
inductive Fills : Template → List (List Char) → List Char → Prop
  /-- Nothing is the text of the empty template. -/
  | nil : Fills [] [] []
  /-- A literal character stands for itself. -/
  | char {c : Char} {t : Template} {vs : List (List Char)} {cs : List Char} :
      Fills t vs cs → Fills (.char c :: t) vs (c :: cs)
  /-- A placeholder stands for a text of its assertion. -/
  | placeholder {p : Placeholder} {a : Assertion} {t : Template} {v : List Char}
      {vs : List (List Char)} {cs : List Char} :
      p.assertion? = some a → a.Takes v → Fills t vs cs →
        Fills (.placeholder p :: t) (v :: vs) (v ++ cs)

/-- The template with values in the place of its placeholders.  Values that are missing are
empty. -/
def fill : Template → List (List Char) → List Char
  | [], _ => []
  | .char c :: t, vs => c :: fill t vs
  | .placeholder _ :: t, vs => vs.headD [] ++ fill t vs.tail

theorem Fills.fill_eq {t : Template} {vs : List (List Char)} {cs : List Char} (h : Fills t vs cs) :
    fill t vs = cs := by
  induction h with
  | nil => rfl
  | char _ ih => rw [fill, ih]
  | placeholder _ _ _ ih => rw [fill, List.headD_cons, List.tail_cons, ih]

theorem Fills.length_eq {t : Template} {vs : List (List Char)} {cs : List Char}
    (h : Fills t vs cs) :
    vs.length = (placeholders t).length := by
  induction h with
  | nil => rfl
  | char _ ih => exact ih
  | placeholder _ _ _ ih => simpa [placeholders] using ih

theorem fills_nil_iff {vs : List (List Char)} {cs : List Char} :
    Fills [] vs cs ↔ vs = [] ∧ cs = [] :=
  ⟨fun h => by cases h; exact ⟨rfl, rfl⟩, fun ⟨h, h'⟩ => by rw [h, h']; exact .nil⟩

theorem fills_char_iff {c : Char} {t : Template} {vs : List (List Char)} {cs : List Char} :
    Fills (.char c :: t) vs cs ↔ ∃ cs', cs = c :: cs' ∧ Fills t vs cs' := by
  constructor
  · intro h
    cases h with
    | char h => exact ⟨_, rfl, h⟩
  · rintro ⟨cs', rfl, h⟩
    exact .char h

/-- Literal text stands for itself. -/
theorem fills_chars_iff {u : List Char} {t : Template} {vs : List (List Char)} {cs : List Char} :
    Fills (u.map Segment.char ++ t) vs cs ↔ ∃ cs', cs = u ++ cs' ∧ Fills t vs cs' := by
  induction u generalizing cs with
  | nil => simp
  | cons c u ih =>
      rw [List.map_cons, List.cons_append, fills_char_iff]
      constructor
      · rintro ⟨cs', rfl, h⟩
        obtain ⟨cs'', rfl, hrest⟩ := ih.1 h
        exact ⟨cs'', rfl, hrest⟩
      · rintro ⟨cs', rfl, h⟩
        exact ⟨u ++ cs', rfl, ih.2 ⟨cs', rfl, h⟩⟩

theorem fills_placeholder_iff {p : Placeholder} {a : Assertion} (ha : p.assertion? = some a)
    {t : Template} {ws : List (List Char)} {cs : List Char} :
    Fills (.placeholder p :: t) ws cs ↔
      ∃ v vs cs', ws = v :: vs ∧ cs = v ++ cs' ∧ a.Takes v ∧ Fills t vs cs' := by
  constructor
  · intro h
    cases h with
    | placeholder hb hv h =>
        obtain rfl : a = _ := Option.some.inj (ha.symm.trans hb)
        exact ⟨_, _, _, rfl, rfl, hv, h⟩
  · rintro ⟨v, vs, cs', rfl, rfl, hv, h⟩
    exact .placeholder ha hv h

/-! ## The longest filling -/

/-- Of all fillings that give a text, the one with the longest first value, among those the one
with the longest second value, and so on: the lengths are the greatest in lexicographic order. -/
def IsLongest (t : Template) (vs : List (List Char)) (cs : List Char) : Prop :=
  Fills t vs cs ∧ ∀ ws, Fills t ws cs →
    ¬ List.Lex (· < ·) (vs.map List.length) (ws.map List.length)

/-- Fillings of one text with values of the same lengths are the same. -/
theorem Fills.eq_of_lengths {t : Template} {vs ws : List (List Char)} {cs : List Char}
    (h : Fills t vs cs) (h' : Fills t ws cs) (hl : vs.map List.length = ws.map List.length) :
    vs = ws := by
  induction h generalizing ws with
  | nil => exact (fills_nil_iff.1 h').1.symm
  | char _ ih =>
      obtain ⟨cs', e, h'⟩ := fills_char_iff.1 h'
      obtain rfl := (List.cons.inj e).2
      exact ih h' hl
  | placeholder ha _ _ ih =>
      obtain ⟨w, ws', cs', rfl, e, -, h'⟩ := (fills_placeholder_iff ha).1 h'
      simp only [List.map_cons, List.cons.injEq] at hl
      obtain ⟨rfl, rfl⟩ := List.append_inj e hl.1
      rw [ih h' hl.2]

theorem IsLongest.unique {t : Template} {vs ws : List (List Char)} {cs : List Char}
    (h : IsLongest t vs cs) (h' : IsLongest t ws cs) : vs = ws :=
  h.1.eq_of_lengths h'.1 (List.le_antisymm (h'.2 vs h.1) (h.2 ws h'.1))

theorem isLongest_nil : IsLongest [] [] [] :=
  ⟨.nil, fun ws h => by rw [(fills_nil_iff.1 h).1]; exact List.not_lex_nil⟩

theorem IsLongest.char {t : Template} {vs : List (List Char)} {cs : List Char} (c : Char)
    (h : IsLongest t vs cs) : IsLongest (.char c :: t) vs (c :: cs) := by
  refine ⟨.char h.1, fun ws hw => h.2 ws ?_⟩
  obtain ⟨cs', e, hw⟩ := fills_char_iff.1 hw
  rwa [(List.cons.inj e).2]

/-- A first value is the right one if the rest has its longest filling after it, and no longer
value leaves a rest that can be filled. -/
theorem IsLongest.placeholder {p : Placeholder} {a : Assertion} (ha : p.assertion? = some a)
    {t : Template} {v : List Char} {vs : List (List Char)} {cs : List Char} (hv : a.Takes v)
    (h : IsLongest t vs cs)
    (hmax : ∀ w ws cs', v ++ cs = w ++ cs' → a.Takes w → v.length < w.length → ¬ Fills t ws cs') :
    IsLongest (.placeholder p :: t) (v :: vs) (v ++ cs) := by
  refine ⟨.placeholder ha hv h.1, ?_⟩
  intro ws hw
  obtain ⟨w, ws', cs', rfl, e, hw, hf⟩ := (fills_placeholder_iff ha).1 hw
  rw [List.map_cons, List.map_cons, List.cons_lex_cons_iff]
  rintro (hlonger | ⟨heq, hlex⟩)
  · exact hmax w ws' cs' e hw hlonger hf
  · obtain ⟨-, rfl⟩ := List.append_inj e heq
    exact h.2 ws' hf hlex

/-! ## Well-named templates -/

/-- The templates that are meant to compile: every name can be that of a capture group, no name
stands twice, and every key is known. -/
structure WellNamed (t : Template) : Prop where
  /-- The names can be those of capture groups. -/
  isGroupName : ∀ p ∈ t.placeholders, Regex.isGroupName p.name = true
  /-- No name stands twice. -/
  nodup : (t.placeholders.map Placeholder.name).Nodup
  /-- The keys are known. -/
  known : ∀ p ∈ t.placeholders, p.assertion?.isSome = true

end Template

end PathRouter
