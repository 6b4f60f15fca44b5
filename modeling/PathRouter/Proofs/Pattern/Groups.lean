import PathRouter.Proofs.Pattern.Captures
import PathRouter.Proofs.Regex.GroupNames

/-!
# The groups of a pattern

A name goes into the regular expression as it is written, and the expression is read again.  If no
name has a closing angle bracket in it, which would end the name of the group early, then the
groups of the expression are the placeholders of the pattern, one by one; a name with such a
bracket is that of no group.

* `Template.wellNamed_of_parse` — without such brackets, a pattern that compiles has suitable
  names;
* `CompiledPattern.captureNames_eq_groupNames_iff` — when the two lists are the same, and when a
  match reports every name.
-/

namespace PathRouter

open Regex

namespace Regex

theorem not_mem_of_isGroupName {name : List Char} (h : isGroupName name = true) : '>' ∉ name := by
  have hchars : ∀ c ∈ name, isNameChar c = true := by
    cases name with
    | nil => exact fun c hc => absurd hc List.not_mem_nil
    | cons c cs =>
        rw [isGroupName, Bool.and_eq_true, List.all_eq_true] at h
        exact List.forall_mem_cons.2 ⟨State.isNameChar_of_isNameStart h.1, h.2⟩
  exact fun hm => absurd (hchars _ hm) (by rw [State.isNameChar_close]; exact Bool.false_ne_true)

namespace State

/-- A name without closing bracket is read up to the bracket after it. -/
theorem eq_of_readName {first : Bool} {name rest u v : List Char} (hname : '>' ∉ name)
    (h : readName first (name ++ '>' :: rest) = .ok (u, v)) : u = name := by
  induction name generalizing first u v with
  | nil => cases h; rfl
  | cons c cs ih =>
      rw [List.mem_cons, not_or] at hname
      rw [List.cons_append, readName, if_neg (by simpa using Ne.symm hname.1)] at h
      by_cases hc : (if first = true then isNameStart c else isNameChar c) = true
      · rw [if_pos hc] at h
        obtain ⟨⟨u', v'⟩, hrec, h⟩ := exists_of_bind_eq_ok h
        cases h
        rw [ih hname.2 hrec]
      · rw [if_neg hc] at h
        cases h

/-- If a group with a name without closing bracket is opened, then the name is one that a group can
have, and it is not in use. -/
theorem of_openNamed_eq_ok {st : State} {name rest : List Char} {r : State × List Char}
    (hname : '>' ∉ name) (h : st.openNamed (name ++ '>' :: rest) = .ok r) :
    isGroupName name = true ∧ String.ofList name ∉ st.names := by
  obtain ⟨⟨u, v⟩, hread, hopen⟩ := exists_of_bind_eq_ok h
  obtain rfl := eq_of_readName hname hread
  dsimp only at hopen
  split at hopen
  · cases hopen
  next hne =>
    split at hopen
    · cases hopen
    next hnew =>
      refine ⟨isGroupName_of_readName hread ?_, by simpa using hnew⟩
      rintro rfl
      exact hne rfl

end State

end Regex

namespace Template

/-- Names without closing bracket in an expression that can be read are names that a group can
have. -/
theorem isGroupName_of_reached {t : Template} {s : Regex.State} (hf : s.flags = {})
    (hclose : ∀ p ∈ t.placeholders, '>' ∉ p.name) {rest : List Char} {n : Nat} {r : Regex.State}
    (hn : (t.source ++ rest).length ≤ n) (h : State.reached n s (t.source ++ rest) = .ok r) :
    ∀ p ∈ t.placeholders, isGroupName p.name = true := by
  induction t generalizing s n with
  | nil => exact fun p hp => absurd hp List.not_mem_nil
  | cons x t ih =>
      cases x with
      | char c =>
          rw [source_char, List.append_assoc] at hn h
          obtain ⟨m, hm, e⟩ := State.reads_quote_char hf c _ n hn
          refine ih ?_ hclose hm (e.symm.trans h)
          exact hf
      | placeholder p =>
          rw [placeholders_placeholder, List.forall_mem_cons] at hclose
          have hopen : isGroupName p.name = true ∧ String.ofList p.name ∉ s.names := by
            rw [source_placeholder, List.append_assoc] at hn h
            obtain ⟨r', m, hnamed, -⟩ := State.exists_openNamed_of_reached hf hn h
            exact State.of_openNamed_eq_ok hclose.1 hnamed
          rw [source_placeholder, List.append_assoc] at hn h
          obtain ⟨m, hm, e⟩ := State.reads_group hf p p.assertion hopen.1 hopen.2 _ n hn
          refine List.forall_mem_cons.2 ⟨hopen.1, ih ?_ hclose.2 hm (e.symm.trans h)⟩
          exact hf

theorem groupNames_node (t : Template) :
    t.node.groupNames = t.placeholders.map fun p => String.ofList p.name := by
  have hnodes : ∀ index, (nodes index t).flatMap Node.groupNames =
      t.placeholders.map fun p => String.ofList p.name := by
    induction t with
    | nil => exact fun _ => rfl
    | cons x t ih =>
        intro index
        cases x with
        | char c => exact ih index
        | placeholder p =>
            have hassertion : p.assertion.node.groupNames = [] := by cases p.assertion <;> rfl
            rw [nodes_placeholder, List.flatMap_cons, ih, Placeholder.node, Node.groupNames,
              hassertion]
            rfl
  rw [node, Node.groupNames_ofParts, List.flatMap_cons, List.flatMap_append, hnodes]
  simp [Node.groupNames]

/-- Without closing brackets in names, a pattern whose expression can be read has suitable
names. -/
theorem wellNamed_of_parse {t : Template} {n : Node}
    (h : Node.parse ('^' :: t.source ++ ['$']) = .ok n)
    (hclose : ∀ p ∈ t.placeholders, '>' ∉ p.name)
    (hknown : ∀ p ∈ t.placeholders, p.assertion?.isSome = true)
    (hnodup : (t.placeholders.map Placeholder.name).Nodup) : t.WellNamed where
  isGroupName := by
    obtain ⟨st, hreached, -⟩ := Node.exists_reached_of_parse h
    have hstart : State.Reads {} ['^'] { items := [{ node := .anchor .textStart }] } :=
      State.reads_of_step (u := []) rfl fun _ => rfl
    obtain ⟨m, hm, e⟩ := hstart (t.source ++ ['$']) _ (Nat.le_refl _)
    exact isGroupName_of_reached rfl hclose hm (e.symm.trans hreached)
  nodup := hnodup
  known := hknown

end Template

namespace CompiledPattern

variable {pattern : String} {p : CompiledPattern} {t : Template}

/-- Without closing brackets in names, a compiled pattern is the tree of its template. -/
theorem wellNamed_and_node_eq (h : compilePath pattern = .ok (.pattern p))
    (hscan : Template.scan pattern.toList = t) (hclose : ∀ q ∈ t.placeholders, '>' ∉ q.name) :
    t.WellNamed ∧ p.regex.node = t.node := by
  obtain ⟨hne, hknown, hnodup, hof⟩ := of_compilePath_eq_pattern h hscan
  have hparse := p.regex.parse_source
  rw [hof.source, Template.anchored, String.toList_ofList] at hparse
  have ht := Template.wellNamed_of_parse hparse hclose hknown hnodup
  refine ⟨ht, ?_⟩
  rcases compilePath_of_wellNamed hscan ht hne with ⟨-, he⟩ | ⟨-, p', hp', -, hnode⟩
  · rw [he] at h
    cases h
  · rw [hp'] at h
    cases h
    exact hnode

/-- The names to report are those of the placeholders, one by one.  They are the names of the
groups exactly if none of them has a closing angle bracket in it, and otherwise no match reports
them all. -/
theorem captureNames_eq_groupNames_iff (h : compilePath pattern = .ok (.pattern p))
    (hscan : Template.scan pattern.toList = t) :
    p.captureNames = t.placeholders.map (String.ofList ·.name) ∧
    (p.captureNames = p.regex.groupNames ↔ ∀ q ∈ t.placeholders, '>' ∉ q.name) ∧
    ∀ path captures, p.captures? path = some captures →
      (captures.map Prod.fst = p.captureNames ↔ ∀ q ∈ t.placeholders, '>' ∉ q.name) := by
  obtain ⟨-, -, -, hof⟩ := of_compilePath_eq_pattern h hscan
  -- the names of groups are without closing bracket
  have hgroups : ∀ q ∈ t.placeholders, String.ofList q.name ∈ p.regex.groupNames →
      '>' ∉ q.name := by
    intro q _ hq
    have := Node.isGroupName_of_parse p.regex.parse_source _ hq
    rw [String.toList_ofList] at this
    exact not_mem_of_isGroupName this
  have hmem : ∀ q ∈ t.placeholders, String.ofList q.name ∈ p.captureNames := by
    intro q hq
    rw [hof.captureNames]
    exact List.mem_map_of_mem hq
  refine ⟨hof.captureNames, ⟨fun heq q hq => hgroups q hq (heq ▸ hmem q hq), fun hclose => ?_⟩, ?_⟩
  · obtain ⟨-, hnode⟩ := wellNamed_and_node_eq h hscan hclose
    rw [hof.captureNames, Regex.groupNames, hnode, Template.groupNames_node]
  · intro path captures hcaptures
    constructor
    · intro heq q hq
      refine hgroups q hq ?_
      have hreported := hmem q hq
      obtain ⟨found, hsearch, rfl⟩ := Option.map_eq_some_iff.1 hcaptures
      rw [← heq] at hreported
      obtain ⟨⟨name, text⟩, hentry, rfl⟩ := List.mem_map.1 hreported
      obtain ⟨name', -, hlookup⟩ := List.mem_filterMap.1 hentry
      obtain ⟨text', hlookup, he⟩ := Option.map_eq_some_iff.1 hlookup
      cases he
      exact Node.mem_groupNames_of_search hsearch
        (List.mem_map.2 ⟨_, mem_of_lookup_eq_some hlookup, rfl⟩)
    · intro hclose
      obtain ⟨ht, hnode⟩ := wellNamed_and_node_eq h hscan hclose
      obtain ⟨vs, hvs, rfl⟩ := exists_isLongest hof hnode ht hcaptures
      rw [Template.map_fst_captures hvs.1.length_eq, hof.captureNames]

end CompiledPattern

/-! ## A name that ends early -/

/-- A placeholder with a closing bracket in its name. -/
def strayPlaceholder : Placeholder where
  name := "a>x)(?P<b".toList
  key := none

/-- A pattern with such a placeholder. -/
def strayPattern : String := "/x\x7Ba>x)(?P<b\x7D"

/-- What the pattern is read as: the one placeholder makes two groups. -/
def strayNode : Node :=
  .ofParts [.anchor .textStart, .set (.single '/'), .set (.single 'x'),
    .capture 1 (some "a") (.set (.single 'x')), .capture 2 (some "b") (Assertion.node .segment),
    .anchor .textEnd]

theorem scan_strayPattern : Template.scan strayPattern.toList =
    [.char '/', .char 'x', .placeholder strayPlaceholder] := by
  have hp : strayPlaceholder.Writable := by decide
  have htext : strayPattern.toList = ['/', 'x'] ++ (strayPlaceholder.text ++ []) := by decide
  rw [htext, Template.scan_append (by decide), Template.scan_text_append hp, Template.scan]
  rfl

/-- The name is read as the end of one group and the start of another. -/
theorem parse_stray : Node.parse "^/x(?P<a>x)(?P<b>[^/]+)$".toList = .ok strayNode := by
  have ha : isGroupName ['a'] = true := State.isGroupName_of_isLower (by decide) (by decide)
  have hb : isGroupName ['b'] = true := State.isGroupName_of_isLower (by decide) (by decide)
  let second : Placeholder := { name := ['b'], key := none }
  have hreads :
      State.Reads {} ('^' :: ([] ++ (quote ['/', 'x'] ++ (("(?P<".toList ++ ['a'] ++ ['>']) ++
      (quote ['x'] ++ (')' :: ([] ++ (second.group .segment ++ ['$'])))))))) _ :=
    State.Reads.step rfl (fun _ => rfl) ((State.reads_quote _ rfl).append
      ((State.reads_open rfl ha (by decide)).append ((State.reads_quote _ rfl).append
        (State.Reads.step rfl (fun _ => rfl)
          ((State.reads_group rfl second .segment hb (by decide)).append
          (State.reads_of_step (u := []) rfl fun _ => rfl))))))
  have hrun :
      State.run "^/x(?P<a>x)(?P<b>[^/]+)$".toList.length {} "^/x(?P<a>x)(?P<b>[^/]+)$".toList =
      .ok { node := strayNode, depth := 4 } := hreads.run_eq
  rw [Node.parse_of_run hrun (by decide), if_neg (by decide +kernel)]

theorem compilePath_strayPattern :
    ∃ p, compilePath strayPattern = .ok (.pattern p) ∧ p.regex.node = strayNode := by
  have hanchored : Template.anchored [.char '/', .char 'x', .placeholder strayPlaceholder] =
      "^/x(?P<a>x)(?P<b>[^/]+)$" := by decide
  rw [compilePath_eq scan_strayPattern (by decide) (by decide) (by decide), hanchored,
    Regex.ofString_of_parse_ok parse_stray]
  exact ⟨_, rfl, rfl⟩

/-- The name is not among those of the groups, and a match reports no capture at all. -/
theorem captureNames_ne_groupNames : ∃ p, compilePath strayPattern = .ok (.pattern p) ∧
    p.captureNames = ["a>x)(?P<b"] ∧ p.captureNames ≠ p.regex.groupNames ∧
    ∃ captures, p.captures? "/xxfoo" = some captures ∧ captures.map Prod.fst ≠ p.captureNames := by
  obtain ⟨p, hp, hnode⟩ := compilePath_strayPattern
  obtain ⟨hnames, hgroups, hmatch⟩ :=
    CompiledPattern.captureNames_eq_groupNames_iff hp scan_strayPattern
  have hbracket :
      ¬ ∀ q ∈ Template.placeholders [.char '/', .char 'x', .placeholder strayPlaceholder],
      '>' ∉ q.name := by decide
  have hsome : (p.captures? "/xxfoo").isSome = true := by
    rw [CompiledPattern.captures?, Option.isSome_map, Regex.search, hnode]
    decide +kernel
  obtain ⟨captures, hcaptures⟩ := Option.isSome_iff_exists.1 hsome
  exact ⟨p, hp, hnames.trans (by decide), fun h => hbracket (hgroups.1 h), captures, hcaptures,
    fun h => hbracket ((hmatch _ _ hcaptures).1 h)⟩

end PathRouter
