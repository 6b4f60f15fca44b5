import PathRouter.Proofs.Pattern.Literals
import PathRouter.Proofs.Pattern.Outcomes
import PathRouter.Proofs.Regex.Standing

/-!
# The one way to take a pattern apart

A pattern is literal text and placeholders in turn.  With stray, nested and empty braces in it,
where the placeholders are is not obvious: `a{{b}}` has one, of the name `{b`, and a brace is left
over.  What settles it is that a placeholder is taken wherever one begins, unless this is inside
the one before.  There is exactly one way to take a pattern apart like this.  It is what a scan
gives, and what one gets by searching for placeholders with a regular expression, again and again.

* `Division`, `Division.Proper` — the ways to take a text apart, and those that are right;
* `Division.scan_text`, `Template.proper_division` — a right one is what a scan gives, and this is
  right;
* `Placeholder.spans_expression_iff` — the regular expression for placeholders matches them and
  nothing else;
* `Division.FoundBy`, `Division.Proper.foundBy` — it finds the placeholders of a right division one
  after the other;
* `exists_only_division` — what a pattern is taken apart into.
-/

namespace PathRouter

open Regex

/-! ## Where a placeholder begins -/

/-- A text begins with a placeholder. -/
def Placeholder.Begins (cs : List Char) : Prop :=
  ∃ p : Placeholder, p.Writable ∧ p.text <+: cs

theorem Placeholder.begins_cons_iff {c : Char} {cs : List Char} :
    Begins (c :: cs) ↔ c = '\x7B' ∧ ∃ p rest, read? cs = some (p, rest) := by
  constructor
  · rintro ⟨p, hp, rest, htext⟩
    obtain rfl : '\x7B' = c := (List.cons.inj htext).1
    exact ⟨rfl, p, rest, read?_eq_some_iff.2 ⟨hp, htext.symm⟩⟩
  · rintro ⟨rfl, p, rest, hread⟩
    obtain ⟨hp, htext⟩ := read?_eq_some_iff.1 hread
    exact ⟨p, hp, rest, htext.symm⟩

/-- A character at which no placeholder begins is literal. -/
theorem Template.scan_cons_of_not_begins {c : Char} {cs : List Char}
    (h : ¬Placeholder.Begins (c :: cs)) :
    scan (c :: cs) = .char c :: scan cs := by
  rw [Placeholder.begins_cons_iff] at h
  rw [scan]
  split
  next hc =>
    split
    next p rest hread => exact absurd ⟨by simpa using hc, p, rest, hread⟩ h
    next => rfl
  next => rfl

/-! ## Divisions -/

/-- A text taken apart into literal text and placeholders. -/
inductive Division where
  /-- Literal text up to the end. -/
  | last (literal : List Char)
  /-- Literal text up to a placeholder, the placeholder, and what follows it. -/
  | next (literal : List Char) (p : Placeholder) (rest : Division)
deriving DecidableEq, Repr

namespace Division

/-- The text that has been taken apart. -/
def text : Division → List Char
  | last literal => literal
  | next literal p rest => literal ++ (p.text ++ rest.text)

/-- The placeholders, from left to right. -/
def placeholders : Division → List Placeholder
  | last _ => []
  | next _ p rest => p :: rest.placeholders

/-- The pieces, with single characters for literal text. -/
def template : Division → Template
  | last literal => literal.map .char
  | next literal p rest => literal.map .char ++ .placeholder p :: rest.template

/-- No placeholder begins at a position inside literal text, given the text that follows. -/
def Free (literal after : List Char) : Prop :=
  ∀ u v, literal = u ++ v → v ≠ [] → ¬Placeholder.Begins (v ++ after)

/-- What is taken for a placeholder is written as one, and none begins inside of what is taken for
literal text. -/
def Proper : Division → Prop
  | last literal => Free literal []
  | next literal p rest => Free literal (p.text ++ rest.text) ∧ p.Writable ∧ rest.Proper

/-- One more character at the start. -/
def push (c : Char) : Division → Division
  | last literal => last (c :: literal)
  | next literal p rest => next (c :: literal) p rest

theorem template_push (c : Char) (d : Division) : (d.push c).template = .char c :: d.template := by
  cases d <;> rfl

theorem text_push (c : Char) (d : Division) : (d.push c).text = c :: d.text := by
  cases d <;> rfl

theorem placeholders_template (d : Division) : d.template.placeholders = d.placeholders := by
  induction d with
  | last literal => exact Template.placeholders_map_char literal
  | next literal p rest ih =>
      rw [template, Template.placeholders, List.filterMap_append, ← Template.placeholders,
        Template.placeholders_map_char, List.nil_append]
      exact congrArg (p :: ·) ih

/-! ## Proper divisions and scans -/

theorem free_cons_iff {c : Char} {literal after : List Char} : Free (c :: literal) after ↔
    ¬Placeholder.Begins (c :: (literal ++ after)) ∧ Free literal after := by
  constructor
  · intro h
    refine ⟨h [] _ rfl (List.cons_ne_nil c literal), fun u v huv hv => h (c :: u) v ?_ hv⟩
    rw [huv, List.cons_append]
  · rintro ⟨hfirst, hrest⟩ u v huv hv
    cases u with
    | nil =>
        rw [List.nil_append] at huv
        rw [← huv]
        exact hfirst
    | cons d u => exact hrest u v (List.cons.inj huv).2 hv

theorem free_nil (after : List Char) : Free [] after :=
  fun _ _ huv hv => absurd (List.append_eq_nil_iff.1 huv.symm).2 hv

theorem proper_push_iff {c : Char} {d : Division} :
    (d.push c).Proper ↔ ¬Placeholder.Begins (c :: d.text) ∧ d.Proper := by
  cases d with
  | last literal =>
      show Free (c :: literal) [] ↔ _
      rw [free_cons_iff, List.append_nil]
      exact Iff.rfl
  | next literal p rest =>
      show Free (c :: literal) _ ∧ _ ↔ _
      rw [free_cons_iff, and_assoc]
      exact Iff.rfl

/-- Where no placeholder begins, the text is literal. -/
theorem scan_append_of_free {literal after : List Char} (h : Free literal after) :
    Template.scan (literal ++ after) = literal.map .char ++ Template.scan after := by
  induction literal with
  | nil => rfl
  | cons c literal ih =>
      obtain ⟨hfirst, hrest⟩ := free_cons_iff.1 h
      rw [List.cons_append, Template.scan_cons_of_not_begins hfirst, ih hrest]
      rfl

/-- A scan gives the pieces of a proper division. -/
theorem scan_text {d : Division} (h : d.Proper) : Template.scan d.text = d.template := by
  induction d with
  | last literal =>
      have hscan := scan_append_of_free h
      rwa [List.append_nil, Template.scan, List.append_nil] at hscan
  | next literal p rest ih =>
      obtain ⟨hfree, hp, hrest⟩ := h
      rw [text, scan_append_of_free hfree, Template.scan_text_append hp, ih hrest]
      rfl

end Division

namespace Template

/-- The pieces with the literal characters between two placeholders taken together. -/
def division : Template → Division
  | [] => .last []
  | .char c :: t => (division t).push c
  | .placeholder p :: t => .next [] p (division t)

theorem template_division (t : Template) : t.division.template = t := by
  induction t with
  | nil => rfl
  | cons s t ih =>
      cases s with
      | char c => rw [division, Division.template_push, ih]
      | placeholder p => exact congrArg (.placeholder p :: ·) ih

theorem text_division (t : Template) : t.division.text = t.text := by
  induction t with
  | nil => rfl
  | cons s t ih =>
      cases s with
      | char c =>
          rw [division, Division.text_push, ih]
          rfl
      | placeholder p => exact congrArg (p.text ++ ·) ih

theorem text_division_scan (cs : List Char) : (scan cs).division.text = cs := by
  rw [text_division, text_scan]

/-- What a scan gives is a proper division. -/
theorem proper_division (cs : List Char) : (scan cs).division.Proper := by
  fun_induction scan cs with
  | case1 => exact Division.free_nil []
  | case2 c cs _ p rest hread _ ih =>
      exact ⟨Division.free_nil _, (Placeholder.read?_eq_some_iff.1 hread).1, ih⟩
  | case3 c cs _ hread ih =>
      refine Division.proper_push_iff.2 ⟨?_, ih⟩
      rw [text_division_scan, Placeholder.begins_cons_iff, hread]
      rintro ⟨-, p, rest, ⟨⟩⟩
  | case4 c cs hc ih =>
      refine Division.proper_push_iff.2 ⟨?_, ih⟩
      rw [Placeholder.begins_cons_iff]
      rintro ⟨rfl, -⟩
      exact hc rfl

end Template

/-- Two divisions into the same pieces are the same. -/
theorem Division.division_template (d : Division) : d.template.division = d := by
  induction d with
  | last literal =>
      induction literal with
      | nil => rfl
      | cons c literal ih => exact congrArg (push c) ih
  | next literal p rest hrest =>
      induction literal with
      | nil => exact congrArg (next [] p) hrest
      | cons c literal ih => exact congrArg (push c) ih

/-! ## The regular expression for placeholders -/

namespace Placeholder

/-- The tree of a name. -/
def nameNode : Node :=
  .capture 1 none (.rep 1 none true (.set (.compl (.unionAll [.single ':', .single '\x7D']))))

/-- The tree of a key, after a colon. -/
def keyNode : Node :=
  .seq (.set (.single ':')) (.capture 2 none (.rep 1 none true (.set (.compl (.single '\x7D')))))

/-- The regular expression for a placeholder: in braces a name, and a key after a colon if there is
one. -/
def expression : Regex where
  source := "\\\x7B([^:\x7D]+)(?::([^\x7D]+))?\\\x7D"
  node := .seq (.set (.single '\x7B'))
    (.seq nameNode (.seq (.rep 0 (some 1) true keyNode) (.set (.single '\x7D'))))
  parse_source := by decide +kernel

variable {cs : List Char} {i j : Nat}

theorem spans_nameNode_iff : nameNode.Spans cs i j ↔
    ∃ name, name ≠ [] ∧ (∀ c ∈ name, isNameChar c = true) ∧ Stands name cs i j := by
  have hset : ∀ c, (CharSet.compl (.unionAll [.single ':', .single '\x7D'])).contains c =
      isNameChar c := by
    intro c
    simp [CharSet.contains, CharSet.contains_unionAll, CharSet.contains_single, isNameChar, bne,
      Bool.beq_eq_decide_eq]
  simp only [← hset]
  exact Node.spans_plus_iff

theorem spans_keyNode_iff : keyNode.Spans cs i j ↔
    ∃ key, key ≠ [] ∧ (∀ c ∈ key, isKeyChar c = true) ∧ Stands (':' :: key) cs i j := by
  have hset : ∀ c, (CharSet.compl (.single '\x7D')).contains c = isKeyChar c := by
    intro c
    simp [CharSet.contains, CharSet.contains_single, isKeyChar, bne, Bool.beq_eq_decide_eq]
  simp only [← hset]
  constructor
  · rintro ⟨m, hcolon, hkey⟩
    obtain ⟨key, hne, hall, hstands⟩ := Node.spans_plus_iff.1 hkey
    exact ⟨key, hne, hall, stands_append.2 ⟨m, Node.spans_single_iff.1 hcolon, hstands⟩⟩
  · rintro ⟨key, hne, hall, hstands⟩
    obtain ⟨m, hcolon, hkey⟩ := stands_append (u := [':']).1 hstands
    exact ⟨m, Node.spans_single_iff.2 hcolon, Node.spans_plus_iff.2 ⟨key, hne, hall, hkey⟩⟩

theorem stands_text_iff {p : Placeholder} : Stands p.text cs i j ↔
    ∃ m, Stands ['\x7B'] cs i m ∧ ∃ e, Stands p.name cs m e ∧
      ∃ k, Stands (p.key.elim [] (':' :: ·)) cs e k ∧ Stands ['\x7D'] cs k j := by
  have htext : p.text = ['\x7B'] ++ (p.name ++ (p.key.elim [] (':' :: ·) ++ ['\x7D'])) := by
    obtain ⟨name, key⟩ := p
    cases key <;> simp [text]
  rw [htext]
  simp only [stands_append]

/-- The expression matches what is written as a placeholder, and nothing else. -/
theorem spans_expression_iff : expression.node.Spans cs i j ↔
    ∃ p : Placeholder, p.Writable ∧ Stands p.text cs i j := by
  constructor
  · rintro ⟨m, hopen, e, hname, k, hkey, hclose⟩
    have hopen := Node.spans_single_iff.1 hopen
    have hclose := Node.spans_single_iff.1 hclose
    obtain ⟨name, hne, hall, hname⟩ := spans_nameNode_iff.1 hname
    rcases Node.spans_optional_iff.1 hkey with rfl | hkey
    · exact ⟨⟨name, none⟩, ⟨hne, hall, nofun, nofun⟩,
        stands_text_iff.2 ⟨m, hopen, e, hname, e, stands_nil.2 rfl, hclose⟩⟩
    · obtain ⟨key, hkeyne, hkeyall, hkey⟩ := spans_keyNode_iff.1 hkey
      refine ⟨⟨name, some key⟩, ⟨hne, hall, by simpa using hkeyne, ?_⟩,
        stands_text_iff.2 ⟨m, hopen, e, hname, k, hkey, hclose⟩⟩
      rintro _ ⟨⟩
      exact hkeyall
  · rintro ⟨⟨name, key⟩, hp, hstands⟩
    obtain ⟨m, hopen, e, hname, k, hkey, hclose⟩ := stands_text_iff.1 hstands
    refine ⟨m, Node.spans_single_iff.2 hopen, e,
      spans_nameNode_iff.2 ⟨name, hp.name_ne_nil, hp.name_all, hname⟩, k,
      Node.spans_optional_iff.2 ?_, Node.spans_single_iff.2 hclose⟩
    cases key with
    | none => exact Or.inl (stands_nil.1 hkey)
    | some key =>
        exact Or.inr
          (spans_keyNode_iff.2 ⟨key, by simpa using hp.key_ne_nil, hp.key_all key rfl, hkey⟩)

/-- Where the expression matches, a placeholder begins. -/
theorem exists_spans_iff : (∃ j, expression.node.Spans cs i j) ↔ Begins (cs.drop i) := by
  constructor
  · rintro ⟨j, hspans⟩
    obtain ⟨p, hp, -, hprefix⟩ := spans_expression_iff.1 hspans
    exact ⟨p, hp, hprefix⟩
  · rintro ⟨p, hp, hprefix⟩
    exact ⟨_, spans_expression_iff.2 ⟨p, hp, rfl, hprefix⟩⟩

/-- Two placeholders at the start of one text are the same. -/
theorem Writable.eq_of_prefix {p q : Placeholder} (hp : p.Writable) (hq : q.Writable)
    (h : p.text <+: cs) (h' : q.text <+: cs) : p = q := by
  obtain ⟨rest, rfl⟩ := h
  obtain ⟨rest', htext⟩ := h'
  have hscan := Template.scan_text_append hp rest
  rw [← htext, Template.scan_text_append hq rest'] at hscan
  exact (Segment.placeholder.inj (List.cons.inj hscan).1).symm

end Placeholder

/-! ## Searching for placeholders -/

namespace Division

/-- An expression matches first at the first placeholder, all of it and no more, then at the next
one in what follows, and nowhere after the last one. -/
def FoundBy (n : Node) : Division → Prop
  | last literal => ¬n.Matches literal
  | next literal p rest =>
    let text := literal ++ (p.text ++ rest.text)
    IsLeast {i | ∃ j, n.Spans text i j} literal.length ∧
      (∀ j, n.Spans text literal.length j ↔ j = literal.length + p.text.length) ∧ rest.FoundBy n

/-- The expression does not match from inside of literal text. -/
theorem Free.not_spans {literal after : List Char} (h : Free literal after) {i : Nat}
    (hi : i < literal.length) :
    ¬∃ j, Placeholder.expression.node.Spans (literal ++ after) i j := by
  rw [Placeholder.exists_spans_iff, List.drop_append_of_le_length (Nat.le_of_lt hi)]
  exact h _ _ (List.take_append_drop i literal).symm (by simpa using hi)

/-- The placeholders of a proper division are found one after the other. -/
theorem Proper.foundBy {d : Division} (h : d.Proper) : d.FoundBy Placeholder.expression.node := by
  induction d with
  | last literal =>
      rintro ⟨i, j, hi, hspans⟩
      rcases Nat.lt_or_eq_of_le hi with hi | rfl
      · refine Free.not_spans h hi ⟨j, ?_⟩
        rwa [List.append_nil]
      · -- at the end there is no opening brace left
        obtain ⟨p, -, -, hprefix⟩ := Placeholder.spans_expression_iff.1 hspans
        rw [List.drop_length, List.prefix_nil] at hprefix
        cases hprefix
  | next literal p rest ih =>
      obtain ⟨hfree, hp, hrest⟩ := h
      have hprefix : p.text <+: (literal ++ (p.text ++ rest.text)).drop literal.length := by
        rw [List.drop_left]
        exact List.prefix_append p.text rest.text
      have hspans := Placeholder.spans_expression_iff.2 ⟨p, hp, rfl, hprefix⟩
      refine ⟨⟨⟨_, hspans⟩, fun i hi => ?_⟩, fun j =>
        ⟨fun h => ?_, fun hj => hj ▸ hspans⟩, ih hrest⟩
      · by_contra hlt
        exact hfree.not_spans (Nat.lt_of_not_le hlt) hi
      · obtain ⟨q, hq, rfl, hprefix'⟩ := Placeholder.spans_expression_iff.1 h
        rw [hp.eq_of_prefix hq hprefix hprefix']

/-- If placeholders are found one after the other, then the expression matches if there is one. -/
theorem FoundBy.matches_iff {n : Node} {d : Division} (h : d.FoundBy n) :
    n.Matches d.text ↔ d.placeholders ≠ [] := by
  cases d with
  | last literal => exact iff_of_false h (not_not_intro rfl)
  | next literal p rest =>
      obtain ⟨⟨⟨j, hspans⟩, -⟩, -⟩ := h
      exact iff_of_true ⟨literal.length, j, by simp [text], hspans⟩ (List.cons_ne_nil _ _)

end Division

/-! ## Patterns -/

/-- A pattern is taken apart into literal text and placeholders such that nothing is lost, the
placeholders are written as ones, and at no position inside the literal text does a placeholder
begin in what remains of the pattern.  There is one way only to do so.  It gives the pieces of
which a pattern is compiled, which are those that are found one after the other by searching for
placeholders with a regular expression. -/
theorem exists_only_division (pattern : String) : ∃ d : Division,
    d.text = pattern.toList ∧ d.Proper ∧
      (∀ other : Division, other.text = pattern.toList → other.Proper → other = d) ∧
      Template.scan pattern.toList = d.template ∧ d.FoundBy Placeholder.expression.node ∧
      (hasPlaceholder pattern = true ↔ 1 ≤ d.placeholders.length) ∧
      hasPlaceholder pattern = Placeholder.expression.isMatch pattern ∧
      (compilePath pattern = .ok .literal ↔ d.placeholders = []) ∧
      ∀ p, compilePath pattern = .ok (.pattern p) → p.IsOf d.template := by
  obtain ⟨d, hscan, htext, hproper⟩ : ∃ d : Division, Template.scan pattern.toList = d.template ∧
      d.text = pattern.toList ∧ d.Proper :=
    ⟨_, (Template.template_division _).symm, Template.text_division_scan _,
      Template.proper_division _⟩
  have hplaceholders : (Template.scan pattern.toList).placeholders = d.placeholders := by
    rw [hscan, d.placeholders_template]
  have hhas : hasPlaceholder pattern = true ↔ d.placeholders ≠ [] := by
    rw [hasPlaceholder, hplaceholders, Bool.not_eq_true', List.isEmpty_eq_false_iff]
  refine ⟨d, htext, hproper, fun other hother hotherProper => ?_, hscan, hproper.foundBy,
    hhas.trans List.length_pos_iff.symm, ?_, ?_,
    fun p hp => (of_compilePath_eq_pattern hp hscan).2.2.2⟩
  · rw [← other.division_template, ← Division.scan_text hotherProper, hother, hscan,
      d.division_template]
  · rw [Bool.eq_iff_iff, hhas, ← hproper.foundBy.matches_iff, htext]
    exact Node.isSome_search_iff.symm
  · rw [← hplaceholders]
    exact compilePath_eq_literal_iff rfl

/-- Two opening braces, of which the second one belongs to the name. -/
example : Template.scan "a\x7B\x7Bb\x7D\x7D".toList =
    [.char 'a', .placeholder { name := ['\x7B', 'b'], key := none }, .char '\x7D'] := by
  decide +kernel

end PathRouter
