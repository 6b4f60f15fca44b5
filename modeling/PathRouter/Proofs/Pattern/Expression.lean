import PathRouter.Proofs.Pattern.Filling
import PathRouter.Proofs.Regex.Reading

/-!
# The expression of a pattern

A pattern is compiled by way of text: its regular expression is written down and read again.  Here
the two halves are joined for templates in general.

* `Template.expression_eq`, `Template.of_expression_eq_ok` — what is written down, and when;
* `State.reads_group` — the group of a placeholder is read as a capture group around the tree of
  its assertion (`Assertion.node`), if the name can be that of a group and is not in use;
* `Template.parse_source` — the expression of a well-named template is read as `Template.node`,
  unless it is too large.
-/

namespace PathRouter

open Regex

/-! ## The tree of an assertion -/

namespace Assertion

/-- The characters of the texts of an assertion, from the second one on if the first one is
special. -/
def letters : Assertion → CharSet
  | segment => .compl (.single '/')
  | alpha => .unionAll [.range 'a' 'z', .range 'A' 'Z']
  | alphaNumeric => .unionAll [.range 'a' 'z', .range 'A' 'Z', .range '0' '9']
  | hex => .unionAll [.range 'a' 'f', .range 'A' 'Z', .range '0' '9']
  | digits => .range '0' '9'
  | catchAll => .compl (.single '\n')

/-- What the fragment of an assertion is read as. -/
def node : Assertion → Node
  | hex => .rep 6 (some 6) true (.set hex.letters)
  | catchAll => .seq (.set (.compl .white)) (.rep 0 none true (.set catchAll.letters))
  | a => .rep 1 none true (.set a.letters)

/-- How deep the fragment of an assertion is nested. -/
def depth : Assertion → Nat
  | alpha | alphaNumeric | hex => 3
  | segment | digits | catchAll => 2

theorem depth_le (a : Assertion) : a.depth ≤ 3 := by cases a <;> decide

end Assertion

namespace Placeholder

/-- The assertion of a placeholder.  An unknown key, which no compiled pattern has, counts as
none. -/
def assertion (p : Placeholder) : Assertion :=
  p.assertion?.getD .segment

theorem assertion_eq {p : Placeholder} {a : Assertion} (h : p.assertion? = some a) :
    p.assertion = a := by
  rw [assertion, h, Option.getD_some]

/-- The capture group of a placeholder, as number `index`. -/
def node (p : Placeholder) (index : Nat) : Node :=
  .capture index (some (String.ofList p.name)) p.assertion.node

end Placeholder

/-! ## What is written down -/

namespace Template

/-- The expression of a template between its anchors. -/
def source (t : Template) : List Char :=
  t.flatMap fun
    | .char c => quote [c]
    | .placeholder p => p.group p.assertion

@[simp] theorem source_nil : source [] = [] := rfl

@[simp] theorem source_char (c : Char) (t : Template) :
    source (.char c :: t) = quote [c] ++ source t := rfl

@[simp] theorem source_placeholder (p : Placeholder) (t : Template) :
    source (.placeholder p :: t) = p.group p.assertion ++ source t := rfl

@[simp] theorem placeholders_nil : placeholders [] = [] := rfl

@[simp] theorem placeholders_char (c : Char) (t : Template) :
    placeholders (.char c :: t) = placeholders t := rfl

@[simp] theorem placeholders_placeholder (p : Placeholder) (t : Template) :
    placeholders (.placeholder p :: t) = p :: placeholders t := rfl

/-- An expression is written down if all keys are known and no name is repeated. -/
theorem expression_eq {pattern : String} {t : Template} {seen : List (List Char)}
    (hknown : ∀ p ∈ t.placeholders, p.assertion?.isSome = true)
    (hseen : ∀ p ∈ t.placeholders, p.name ∉ seen)
    (hnodup : (t.placeholders.map Placeholder.name).Nodup) :
    expression pattern seen t = .ok t.source := by
  induction t generalizing seen with
  | nil => rfl
  | cons s t ih =>
      cases s with
      | char c =>
          rw [expression, ih hknown hseen hnodup]
          rfl
      | placeholder p =>
          simp only [placeholders_placeholder, List.forall_mem_cons] at hknown hseen
          rw [placeholders_placeholder, List.map_cons, List.nodup_cons] at hnodup
          obtain ⟨a, ha⟩ := Option.isSome_iff_exists.1 hknown.1
          have hrest : ∀ q ∈ placeholders t, q.name ∉ p.name :: seen := by
            intro q hq
            rw [List.mem_cons, not_or]
            exact ⟨fun e => hnodup.1 (e ▸ List.mem_map_of_mem hq), hseen.2 q hq⟩
          have hcont : seen.contains p.name = false := by simpa using hseen.1
          rw [expression, source_placeholder, Placeholder.assertion_eq ha]
          simp only [ha, hcont, Bool.false_eq_true, if_false, ih hknown.2 hrest hnodup.2]
          rfl

/-- If an expression with a literal character in front is written down, then so is the rest of
it. -/
theorem exists_of_expression_char {pattern : String} {c : Char} {t : Template}
    {seen : List (List Char)} {e : List Char}
    (h : expression pattern seen (.char c :: t) = .ok e) :
    ∃ e', expression pattern seen t = .ok e' ∧ e = quote [c] ++ e' := by
  rw [expression] at h
  cases ht : expression pattern seen t with
  | error err => rw [ht] at h; cases h
  | ok e' =>
      rw [ht] at h
      cases h
      exact ⟨e', rfl, rfl⟩

/-- If an expression with a placeholder in front is written down, then its key is known, its name
is new, and the rest is written down, too. -/
theorem exists_of_expression_placeholder {pattern : String} {p : Placeholder} {t : Template}
    {seen : List (List Char)} {e : List Char}
    (h : expression pattern seen (.placeholder p :: t) = .ok e) :
    ∃ a e', p.assertion? = some a ∧ p.name ∉ seen ∧
      expression pattern (p.name :: seen) t = .ok e' ∧ e = p.group a ++ e' := by
  rw [expression] at h
  cases ha : p.assertion? with
  | none => simp only [ha] at h; cases h
  | some a =>
      by_cases hp : seen.contains p.name = true
      · simp only [ha, hp, if_true] at h
        cases h
      · cases ht : expression pattern (p.name :: seen) t with
        | error err => simp only [ha, hp, ht] at h; cases h
        | ok e' =>
            simp only [ha, hp, ht] at h
            cases h
            exact ⟨a, e', rfl, by simpa using hp, rfl, rfl⟩

/-- If an expression is written down, then it is that of the template, all keys are known and no
name is repeated. -/
theorem of_expression_eq_ok {pattern : String} {t : Template} {seen : List (List Char)}
    {e : List Char} (h : expression pattern seen t = .ok e) :
    e = t.source ∧ (∀ p ∈ t.placeholders, p.assertion?.isSome = true) ∧
      (∀ p ∈ t.placeholders, p.name ∉ seen) ∧ (t.placeholders.map Placeholder.name).Nodup := by
  induction t generalizing seen e with
  | nil =>
      cases h
      simp
  | cons s t ih =>
      cases s with
      | char c =>
          obtain ⟨e', ht, rfl⟩ := exists_of_expression_char h
          obtain ⟨rfl, hrest⟩ := ih ht
          exact ⟨rfl, hrest⟩
      | placeholder p =>
          obtain ⟨a, e', ha, hp, ht, rfl⟩ := exists_of_expression_placeholder h
          obtain ⟨rfl, hknown, hseen, hnodup⟩ := ih ht
          simp only [List.mem_cons, not_or] at hseen
          simp only [placeholders_placeholder, List.forall_mem_cons, List.map_cons,
            List.nodup_cons]
          refine ⟨by rw [source_placeholder, Placeholder.assertion_eq ha],
            ⟨by rw [ha]; rfl, hknown⟩, ⟨hp, fun q hq => (hseen q hq).2⟩, fun hm => ?_, hnodup⟩
          obtain ⟨q, hq, e⟩ := List.mem_map.1 hm
          exact (hseen q hq).1 e

end Template

/-- The group of a placeholder, character by character up to its name. -/
theorem Placeholder.group_eq (p : Placeholder) (a : Assertion) :
    p.group a = '(' :: '?' :: 'P' :: '<' :: (p.name ++ '>' :: (a.fragment.toList ++ [')'])) := by
  have hassoc :
      ∀ w x y z : List Char, w ++ x ++ '>' :: y ++ z = w ++ (x ++ '>' :: (y ++ z)) := by simp
  exact hassoc "(?P<".toList p.name a.fragment.toList [')']

/-! ## What is read -/

/-- Six copies.  The number has no white space around it, but the reader looks for some. -/
theorem Regex.readBounds_six (rest : List Char) :
    readBounds {} ('6' :: '\x7D' :: rest) = .ok (6, some 6, rest) := by
  have hsix : Unicode.isWhite '6' = false := by
    rw [Unicode.isWhite, Unicode.RangeTable.covers_eq_any_toList]
    decide +kernel
  have hclose : Unicode.isWhite '\x7D' = false := by
    rw [Unicode.isWhite, Unicode.RangeTable.covers_eq_any_toList]
    decide +kernel
  have hdigits : readDigits {} ('6' :: '\x7D' :: rest).length ('6' :: '\x7D' :: rest)
      = (['6'], '\x7D' :: rest) := rfl
  have hcount : readCount {} ('6' :: '\x7D' :: rest) = (.ok 6, '\x7D' :: rest) := by
    simp only [readCount, List.dropWhile_cons, hsix, hdigits, hclose, Bool.false_eq_true, if_false]
    rfl
  rw [readBounds, Flags.skip_of_not_freeSpacing rfl]
  simp only [hcount]
  rfl

namespace Regex.State

/-- At the end of a group, a character and the text after it repeat the last piece. -/
def Repeats (c : Char) (v : List Char) (least : Nat) (most : Option Nat) : Prop :=
  ∀ st : State, st.flags = {} → ∀ p : Piece, p.isSetting = false → ∀ items rest,
    { st with items := p :: items }.step c (v ++ ')' :: rest) =
      .ok ({ st with items := ⟨p.node.repeated least most true, p.depth + 1, false⟩ :: items },
        ')' :: rest)

theorem repeats_plus : Repeats '+' [] 1 none := by
  rintro ⟨frames, branches, items', flags, names, groups⟩ hf ⟨node, depth, setting⟩ hp items rest
  cases hf
  cases hp
  rfl

theorem repeats_six : Repeats '\x7B' ['6', '\x7D'] 6 (some 6) := by
  rintro ⟨frames, branches, items', flags, names, groups⟩ hf ⟨node, depth, setting⟩ hp items rest
  cases hf
  cases hp
  show (readBounds {} ('6' :: '\x7D' :: ')' :: rest) >>= _) = _
  rw [readBounds_six]
  rfl

/-- A bracket and what repeats it, in a group that holds nothing else, up to the end of the
group. -/
theorem reads_repeated_class {st : State} (hf : st.flags = {}) {name : Option String}
    {item : Bracket.Item} {u v : List Char} {c : Char} {least : Nat} {most : Option Nat}
    (hread : ∀ rest, Bracket.read {} (u ++ rest) = .ok (item, rest))
    (hrep : Repeats c v least most) :
    Reads (st.openCapture name) ('[' :: (u ++ c :: (v ++ [')'])))
      { st with
        items := ⟨.capture (st.groups + 1) name ((Node.set item.set).repeated least most true),
          item.depth + 2, false⟩ :: st.items
        names := name.toList ++ st.names
        groups := st.groups + 1 } := by
  obtain ⟨frames, branches, items, flags, names, groups⟩ := st
  subst hf
  have hfree : ({} : Flags).freeSpacing = false := rfl
  refine Reads.step
    (r := { (State.openCapture ⟨frames, branches, items, {}, names, groups⟩ name) with
    items := [{ node := .set item.set, depth := item.depth }] }) hfree (fun rest => ?_) ?_
  · show (Bracket.read {} (u ++ (c :: (v ++ [')']) ++ rest)) >>= _) = _
    rw [hread]
    rfl
  refine Reads.step hfree (fun rest => hrep _ rfl _ rfl _ _) ?_
  exact reads_of_step (u := []) hfree fun rest => rfl

/-- The fragment for anything, in a group that holds nothing else, up to the end of the group. -/
theorem reads_catchAll {st : State} (hf : st.flags = {}) (name : Option String) :
    Reads (st.openCapture name) ['\\', 'S', '.', '*', ')']
      { st with
        items := ⟨.capture (st.groups + 1) name (Assertion.node .catchAll), 3, false⟩ :: st.items
        names := name.toList ++ st.names
        groups := st.groups + 1 } := by
  obtain ⟨frames, branches, items, flags, names, groups⟩ := st
  cases hf
  let inner : List Piece → State := fun pieces =>
    { (State.openCapture ⟨frames, branches, items, {}, names, groups⟩ name) with items := pieces }
  have hfree : ({} : Flags).freeSpacing = false := rfl
  let first : Piece := { node := .set (.compl .white) }
  let later : Piece := { node := .set (.compl (.single '\n')) }
  refine Reads.step (s := inner []) (r := inner [first]) (u := ['S']) (v := ['.', '*', ')'])
    hfree (fun _ => rfl) ?_
  refine Reads.step (r := inner [later, first]) (u := []) (v := ['*', ')']) hfree (fun _ => rfl) ?_
  refine Reads.step (r := inner [⟨.rep 0 none true later.node, 1, false⟩, first]) (u := [])
    (v := [')']) hfree (fun _ => rfl) ?_
  exact reads_of_step (u := []) hfree fun _ => rfl

/-- The group of a placeholder is read as a capture group around the tree of its assertion. -/
theorem reads_group {st : State} (hf : st.flags = {}) (p : Placeholder) (a : Assertion)
    (hname : isGroupName p.name = true) (hnew : String.ofList p.name ∉ st.names) :
    Reads st (p.group a)
      { st with
        items :=
          ⟨.capture (st.groups + 1) (some (String.ofList p.name)) a.node, a.depth + 1, false⟩
          :: st.items
        names := String.ofList p.name :: st.names
        groups := st.groups + 1 } := by
  have hassoc : ∀ x y z : List Char, x ++ '>' :: y ++ z = (x ++ ['>']) ++ (y ++ z) := by simp
  have hsplit : p.group a = ("(?P<".toList ++ p.name ++ ['>']) ++ (a.fragment.toList ++ [')']) :=
    hassoc _ _ _
  rw [hsplit]
  refine (reads_open hf hname hnew).append ?_
  cases a with
  | segment =>
      exact reads_repeated_class (u := ['^', '/', ']']) hf (fun rest => rfl) repeats_plus
  | alpha =>
      exact reads_repeated_class (u := ['a', '-', 'z', 'A', '-', 'Z', ']']) hf (fun rest => rfl)
        repeats_plus
  | alphaNumeric =>
      exact reads_repeated_class (u := ['a', '-', 'z', 'A', '-', 'Z', '0', '-', '9', ']']) hf
        (fun rest => rfl) repeats_plus
  | digits =>
      exact reads_repeated_class (u := ['0', '-', '9', ']']) hf (fun rest => rfl) repeats_plus
  | hex =>
      exact reads_repeated_class (u := ['a', '-', 'f', 'A', '-', 'Z', '0', '-', '9', ']']) hf
        (fun rest => rfl) repeats_six
  | catchAll => exact reads_catchAll hf _

/-- The reader comes to the name of a placeholder, whatever the name is. -/
theorem exists_openNamed_of_reached {st : State} (hf : st.flags = {}) {p : Placeholder}
    {a : Assertion} {rest : List Char} {n : Nat} {st' : State}
    (hn : (p.group a ++ rest).length ≤ n) (h : st.reached n (p.group a ++ rest) = .ok st') :
    ∃ r m, st.openNamed (p.name ++ '>' :: (a.fragment.toList ++ ([')'] ++ rest))) = .ok r ∧
      r.1.reached m r.2 = .ok st' := by
  rw [p.group_eq] at hn h
  obtain ⟨n, rfl⟩ : ∃ k, n = k + 1 := ⟨n - 1, by simp at hn; omega⟩
  have hfree : st.flags.freeSpacing = false := by rw [hf]
  simp only [List.cons_append, List.append_assoc, reached,
    Flags.skip_of_not_freeSpacing hfree] at h
  obtain ⟨r, hstep, h⟩ := exists_of_bind_eq_ok h
  refine ⟨r, n, ?_, h⟩
  rw [← hstep]
  show _ = st.openAny _
  rw [openAny, Flags.skip_of_not_freeSpacing hfree]
  rfl

end Regex.State

namespace Template

/-! ## Templates -/

/-- The pieces that a template is read as, after `index` capture groups. -/
def pieces : (index : Nat) → Template → List Piece
  | _, [] => []
  | index, .char c :: t => Piece.ofChar c :: pieces index t
  | index, .placeholder p :: t =>
    ⟨p.node (index + 1), p.assertion.depth + 1, false⟩ :: pieces (index + 1) t

/-- The expression of a template is read piece by piece. -/
theorem reads_source {t : Template} {s : Regex.State} (hf : s.flags = {})
    (hnames : ∀ p ∈ t.placeholders, isGroupName p.name = true)
    (hnew : ∀ p ∈ t.placeholders, String.ofList p.name ∉ s.names)
    (hnodup : (t.placeholders.map Placeholder.name).Nodup) :
    ∃ names groups, s.Reads t.source
      { s with items := (pieces s.groups t).reverse ++ s.items, names, groups } := by
  induction t generalizing s with
  | nil => exact ⟨s.names, s.groups, State.reads_nil s⟩
  | cons x t ih =>
      cases x with
      | char c =>
          obtain ⟨names, groups, h⟩ :=
            ih (s := { s with items := Piece.ofChar c :: s.items }) hf hnames hnew hnodup
          refine ⟨names, groups, ?_⟩
          have := (State.reads_quote_char hf c).append h
          simpa [pieces] using this
      | placeholder p =>
          simp only [placeholders_placeholder, List.forall_mem_cons] at hnames hnew
          rw [placeholders_placeholder, List.map_cons, List.nodup_cons] at hnodup
          have hgroup := State.reads_group hf p p.assertion hnames.1 hnew.1
          have hrest : ∀ q ∈ placeholders t,
              String.ofList q.name ∉ String.ofList p.name :: s.names := by
            intro q hq
            rw [List.mem_cons, not_or]
            refine ⟨fun e => hnodup.1 ?_, hnew.2 q hq⟩
            have hname : q.name = p.name := by simpa using congrArg String.toList e
            exact hname ▸ List.mem_map_of_mem hq
          obtain ⟨names, groups, h⟩ := ih (s := { s with
            items := ⟨p.node (s.groups + 1), p.assertion.depth + 1, false⟩ :: s.items
            names := String.ofList p.name :: s.names
            groups := s.groups + 1 }) hf hnames.2 hrest hnodup.2
          refine ⟨names, groups, ?_⟩
          have := hgroup.append h
          simpa [pieces] using this

/-- The trees of the pieces of a template, after `index` capture groups. -/
def nodes (index : Nat) (t : Template) : List Node :=
  (pieces index t).map Piece.node

@[simp] theorem nodes_nil (index : Nat) : nodes index [] = [] := rfl

@[simp] theorem nodes_char (index : Nat) (c : Char) (t : Template) :
    nodes index (.char c :: t) = .set (.single c) :: nodes index t := rfl

@[simp] theorem nodes_placeholder (index : Nat) (p : Placeholder) (t : Template) :
    nodes index (.placeholder p :: t) = p.node (index + 1) :: nodes (index + 1) t := rfl

/-- The tree of the expression of a template. -/
def node (t : Template) : Node :=
  .ofParts (.anchor .textStart :: (nodes 0 t ++ [.anchor .textEnd]))

theorem depth_le_of_mem_pieces {t : Template} {index : Nat} {p : Piece} (h : p ∈ pieces index t) :
    p.depth ≤ 4 := by
  induction t generalizing index with
  | nil => simp [pieces] at h
  | cons x t ih =>
      cases x with
      | char c =>
          rcases List.mem_cons.1 h with rfl | h
          · exact Nat.zero_le 4
          · exact ih h
      | placeholder q =>
          rcases List.mem_cons.1 h with rfl | h
          · exact Nat.succ_le_succ (Assertion.depth_le _)
          · exact ih h

/-- The trees of the pieces are no sequences themselves. -/
theorem flatMap_parts_nodes (index : Nat) (t : Template) :
    (nodes index t).flatMap Node.parts = nodes index t := by
  induction t generalizing index with
  | nil => rfl
  | cons x t ih =>
      cases x with
      | char c => rw [nodes_char, List.flatMap_cons, ih]; rfl
      | placeholder p => rw [nodes_placeholder, List.flatMap_cons, ih]; rfl

end Template

theorem Regex.Piece.maxDepth_le {pieces : List Piece} {bound : Nat}
    (h : ∀ p ∈ pieces, p.depth ≤ bound) : maxDepth pieces ≤ bound := by
  induction pieces with
  | nil => exact Nat.zero_le bound
  | cons p ps ih =>
      rw [List.forall_mem_cons] at h
      exact Nat.max_le.2 ⟨h.1, ih h.2⟩

theorem Regex.Piece.concat_cons (p : Piece) {ps : List Piece} (h : ps ≠ []) :
    concat (p :: ps) =
      { node := .concat ((p :: ps).map Piece.node), depth := maxDepth (p :: ps) + 1 } := by
  cases ps with
  | nil => exact absurd rfl h
  | cons q qs => rfl

namespace Template

/-- The expression of a well-named template is read piece by piece, between the anchors. -/
theorem reads_anchored {t : Template} (ht : t.WellNamed) : ∃ names groups,
    State.Reads {} ('^' :: t.source ++ ['$'])
      { items := { node := .anchor .textEnd } ::
        ((pieces 0 t).reverse ++ [{ node := .anchor .textStart }])
        names, groups } := by
  let start : Piece := { node := .anchor .textStart }
  obtain ⟨names, groups, hsource⟩ :=
    reads_source (s := { ({} : Regex.State) with items := [start] })
    rfl ht.isGroupName (by simp) ht.nodup
  have hstart : State.Reads {} ['^'] { items := [start] } :=
    State.reads_of_step (u := []) rfl fun _ => rfl
  refine ⟨names, groups, (hstart.append hsource).append ?_⟩
  exact State.reads_of_step (u := []) rfl fun _ => rfl

/-- The expression of a well-named template is read as the tree of the template. -/
theorem parse_source {t : Template} (ht : t.WellNamed) :
    Node.parse ('^' :: t.source ++ ['$']) =
      if maxFootprint < t.node.footprint then .error .tooLarge else .ok t.node := by
  let start : Piece := { node := .anchor .textStart }
  let stop : Piece := { node := .anchor .textEnd }
  obtain ⟨names, groups, hreads⟩ := reads_anchored ht
  have hrev : (stop :: ((pieces 0 t).reverse ++ [start])).reverse
      = start :: (pieces 0 t ++ [stop]) := by simp
  have hdepth : Piece.maxDepth (start :: (pieces 0 t ++ [stop])) ≤ 4 := by
    apply Piece.maxDepth_le
    intro p hp
    simp only [List.mem_cons, List.mem_append, List.not_mem_nil, or_false] at hp
    rcases hp with rfl | hp | rfl
    · exact Nat.zero_le 4
    · exact depth_le_of_mem_pieces hp
    · exact Nat.zero_le 4
  have hnode : Node.concat ((start :: (pieces 0 t ++ [stop])).map Piece.node) = t.node := by
    rw [List.map_cons, List.map_append, Node.concat, List.flatMap_cons, List.flatMap_append]
    rw [show (pieces 0 t).map Piece.node = nodes 0 t from rfl, flatMap_parts_nodes]
    rfl
  have hrun : State.run ('^' :: t.source ++ ['$']).length {} ('^' :: t.source ++ ['$']) =
      .ok { node := t.node, depth := Piece.maxDepth (start :: (pieces 0 t ++ [stop])) + 1 } := by
    rw [hreads.run_eq]
    show Except.ok (Piece.choice [Piece.concat (List.reverse _)]) = _
    rw [hrev, Piece.concat_cons start (by simp), hnode]
    rfl
  have hshallow : Piece.maxDepth (start :: (pieces 0 t ++ [stop])) + 1 ≤ maxDepth := by
    rw [maxDepth]
    omega
  rw [Node.parse_of_run hrun hshallow]

end Template

end PathRouter
