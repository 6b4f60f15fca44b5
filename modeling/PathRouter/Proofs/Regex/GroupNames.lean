import PathRouter.Proofs.Regex.Soundness
import PathRouter.Proofs.Regex.Stepping

/-!
# The names of capture groups

Names come into an expression in one place, where a named group is opened, and go out of it in one
place, where its text is recorded.

* `Node.exists_of_split?` — what it means to take a common start out of a choice;
* `Node.groupNames_choice_subset`, `Node.groupNames_concat` and their like — the normal form of
  trees does not make up names;
* `Node.isGroupName_of_parse` — the names in an expression that has been read are names that a
  group can have;
* `Node.mem_groupNames_of_search` — a search records nothing under other names.
-/

namespace PathRouter.Regex

namespace Node

/-! ## A common start -/

theorem flatten_words (parts : List Node) : (words parts).flatten = parts := by
  induction parts with
  | nil => rfl
  | cons n ns ih =>
      rw [words, List.foldr_cons, ← words]
      split
      next m word ws heq =>
        rw [heq] at ih
        split
        · rw [← ih]; rfl
        · rw [← ih]; rfl
      next ws _ => rw [List.flatten_cons, ih]; rfl

theorem foldl_min_le {lines : List (List (List Node))} {f : List (List Node) → Nat} {start : Nat} :
    lines.foldl (fun n l => min n (f l)) start ≤ start ∧
      ∀ l ∈ lines, lines.foldl (fun n l => min n (f l)) start ≤ f l := by
  induction lines generalizing start with
  | nil => exact ⟨Nat.le_refl _, fun l hl => absurd hl List.not_mem_nil⟩
  | cons l lines ih =>
      obtain ⟨hstart, hlines⟩ := @ih (min start (f l))
      refine ⟨Nat.le_trans hstart (Nat.min_le_left _ _), List.forall_mem_cons.2 ⟨?_, hlines⟩⟩
      exact Nat.le_trans hstart (Nat.min_le_right _ _)

/-- What is taken out of some sequences: the words that each of them has in common with one of
them. -/
theorem exists_of_split? {nodes start rests : List Node} (h : split? nodes = some (start, rests)) :
    ∃ line count, line ∈ nodes.map (fun n => words n.parts) ∧
      (∀ n ∈ nodes, count ≤ commonStart line (words n.parts)) ∧ start = (line.take count).flatten ∧
      rests = nodes.map fun n => ofParts ((words n.parts).drop count).flatten := by
  unfold split? at h
  dsimp only at h
  split at h
  · cases h
  next line _ hlines =>
    split at h
    · cases h
    · split at h
      · cases h
      · cases h
        refine ⟨line, _, hlines ▸ List.mem_cons_self, ?_, rfl, List.map_map⟩
        intro n hn
        exact foldl_min_le.2 _ (List.mem_map_of_mem hn)

/-! ## Names in normal forms -/

theorem groupNames_ofParts (nodes : List Node) :
    (ofParts nodes).groupNames = nodes.flatMap groupNames := by
  induction nodes with
  | nil => rfl
  | cons n ns ih =>
      cases ns with
      | nil => simp [ofParts]
      | cons m ms =>
          rw [List.flatMap_cons, ← ih]
          rfl

theorem groupNames_parts (n : Node) : n.parts.flatMap groupNames = n.groupNames := by
  induction n with
  | empty => rfl
  | seq l r _ ih => rw [parts, List.flatMap_cons, ih]; rfl
  | _ => simp [parts]

theorem groupNames_concat (nodes : List Node) :
    (concat nodes).groupNames = nodes.flatMap groupNames := by
  rw [concat, groupNames_ofParts, List.flatMap_assoc]
  simp only [groupNames_parts]

theorem groupNames_ofBranches (nodes : List Node) :
    (ofBranches nodes).groupNames = nodes.flatMap groupNames := by
  induction nodes with
  | nil => rfl
  | cons n ns ih =>
      cases ns with
      | nil => simp [ofBranches]
      | cons m ms =>
          rw [List.flatMap_cons, ← ih]
          rfl

theorem groupNames_branches (n : Node) : n.branches.flatMap groupNames = n.groupNames := by
  induction n with
  | alt l r _ ih => rw [branches, List.flatMap_cons, ih]; rfl
  | _ => simp [branches]

theorem groupNames_repeated_subset (body : Node) (least : Nat) (most : Option Nat)
    (greedy : Bool) :
    (repeated body least most greedy).groupNames ⊆ body.groupNames := by
  have hcopies : ∀ bounds : Nat × Option Nat, (if bounds.1 = 0 ∧ bounds.2 = some 0 then empty
      else if bounds.1 = 1 ∧ bounds.2 = some 1 then body
      else rep bounds.1 bounds.2 greedy body).groupNames ⊆ body.groupNames := by
    intro bounds
    split
    · exact List.nil_subset _
    · split
      · exact List.Subset.refl _
      · exact List.Subset.refl _
  exact hcopies _

/-- Nothing is lost or made up when a common start is taken out. -/
theorem groupNames_split?_subset {nodes start rests : List Node}
    (h : split? nodes = some (start, rests)) :
    start.flatMap groupNames ⊆ nodes.flatMap groupNames ∧
      rests.flatMap groupNames ⊆ nodes.flatMap groupNames := by
  -- words of a sequence are parts of it
  have hwords : ∀ (n : Node) (ws : List (List Node)), ws ⊆ words n.parts →
      ws.flatten.flatMap groupNames ⊆ n.groupNames := by
    intro n ws hws s hs
    obtain ⟨m, hm, hs⟩ := List.mem_flatMap.1 hs
    obtain ⟨w, hw, hm⟩ := List.mem_flatten.1 hm
    have hpart : m ∈ n.parts := flatten_words n.parts ▸ List.mem_flatten.2 ⟨w, hws hw, hm⟩
    rw [← groupNames_parts n]
    exact List.mem_flatMap.2 ⟨m, hpart, hs⟩
  obtain ⟨line, count, hline, -, rfl, rfl⟩ := exists_of_split? h
  constructor
  · intro s hs
    obtain ⟨n, hn, rfl⟩ := List.mem_map.1 hline
    exact List.mem_flatMap.2 ⟨n, hn, hwords n _ (List.take_subset _ _) hs⟩
  · intro s hs
    obtain ⟨r, hr, hs⟩ := List.mem_flatMap.1 hs
    obtain ⟨n, hn, rfl⟩ := List.mem_map.1 hr
    rw [groupNames_ofParts] at hs
    exact List.mem_flatMap.2 ⟨n, hn, hwords n _ (List.drop_subset _ _) hs⟩

theorem groupNames_choiceWithin_subset (fuel : Nat) (nodes : List Node) :
    (choiceWithin fuel nodes).groupNames ⊆ nodes.flatMap groupNames := by
  have hbranches : ∀ nodes : List Node,
      (nodes.flatMap branches).flatMap groupNames = nodes.flatMap groupNames := by
    intro nodes
    rw [List.flatMap_assoc]
    simp only [groupNames_branches]
  induction fuel generalizing nodes with
  | zero =>
      rw [choiceWithin, groupNames_ofBranches]
      exact List.Subset.refl _
  | succ fuel ih =>
      rw [choiceWithin, ← hbranches nodes]
      generalize nodes.flatMap branches = nodes
      split
      · rw [groupNames_ofBranches]
        exact List.Subset.refl _
      · split
        · exact List.nil_subset _
        · split
          next start rests hsplit =>
            obtain ⟨hstart, hrests⟩ := groupNames_split?_subset hsplit
            rw [groupNames_concat, List.flatMap_append, List.flatMap_singleton]
            exact List.append_subset.2 ⟨hstart, fun s hs => hrests (ih rests hs)⟩
          · rw [groupNames_ofBranches]
            exact List.Subset.refl _

theorem groupNames_choice_subset (nodes : List Node) :
    (choice nodes).groupNames ⊆ nodes.flatMap groupNames :=
  groupNames_choiceWithin_subset _ nodes

/-! ## Names that have been read -/

/-- All names in a tree can be those of capture groups. -/
def NamesFit (n : Node) : Prop :=
  ∀ s ∈ n.groupNames, isGroupName s.toList = true

theorem NamesFit.of_subset {n : Node} {nodes : List Node} (h : ∀ m ∈ nodes, m.NamesFit)
    (hsub : n.groupNames ⊆ nodes.flatMap groupNames) : n.NamesFit := by
  intro s hs
  obtain ⟨m, hm, hs⟩ := List.mem_flatMap.1 (hsub hs)
  exact h m hm s hs

theorem NamesFit.of_isLeaf {n : Node} (h : n.IsLeaf) : n.NamesFit := by
  cases n <;> first | exact fun s hs => absurd hs List.not_mem_nil | exact absurd h id

end Node

namespace Piece

/-- All names in some pieces can be those of capture groups. -/
def NamesFit (pieces : List Piece) : Prop :=
  ∀ p ∈ pieces, p.node.NamesFit

theorem namesFit_concat {pieces : List Piece} (h : NamesFit pieces) :
    (concat pieces).node.NamesFit := by
  have hnodes : ∀ n ∈ pieces.map Piece.node, n.NamesFit := by
    intro n hn
    obtain ⟨p, hp, rfl⟩ := List.mem_map.1 hn
    exact h p hp
  match pieces with
  | [] => exact .of_isLeaf trivial
  | [p] => exact h p List.mem_cons_self
  | p :: q :: ps =>
      refine .of_subset hnodes ?_
      show (Node.concat _).groupNames ⊆ _
      rw [Node.groupNames_concat]
      exact List.Subset.refl _

theorem namesFit_choice {pieces : List Piece} (h : NamesFit pieces) :
    (choice pieces).node.NamesFit := by
  have hnodes : ∀ n ∈ pieces.map Piece.node, n.NamesFit := by
    intro n hn
    obtain ⟨p, hp, rfl⟩ := List.mem_map.1 hn
    exact h p hp
  match pieces with
  | [] =>
      exact .of_subset hnodes (Node.groupNames_choice_subset (([] : List Piece).map Piece.node))
  | [p] => exact h p List.mem_cons_self
  | p :: q :: ps => exact .of_subset hnodes (Node.groupNames_choice_subset _)

end Piece

namespace State

/-- All names in a state can be those of capture groups. -/
structure NamesFit (st : State) : Prop where
  /-- Those in the current alternative. -/
  items : Piece.NamesFit st.items
  /-- Those in the alternatives before. -/
  branches : Piece.NamesFit st.branches
  /-- Those around the open groups, and their own. -/
  frames : ∀ f ∈ st.frames, Piece.NamesFit f.items ∧ Piece.NamesFit f.branches ∧
    ∀ s ∈ f.capturing.name?, isGroupName s.toList = true

theorem NamesFit.branch {st : State} (h : st.NamesFit) : st.branch.node.NamesFit :=
  Piece.namesFit_concat fun p hp => h.items p (List.mem_reverse.1 hp)

theorem NamesFit.body {st : State} (h : st.NamesFit) : st.body.node.NamesFit := by
  apply Piece.namesFit_choice
  intro p hp
  rcases List.mem_cons.1 (List.mem_reverse.1 hp) with rfl | hp
  · exact h.branch
  · exact h.branches p hp

theorem namesFit_around {c : Capturing} (hc : ∀ s ∈ c.name?, isGroupName s.toList = true)
    {p : Piece} (hp : p.node.NamesFit) : (c.around p).node.NamesFit := by
  cases c with
  | off => exact hp
  | on index name =>
      intro s hs
      rcases List.mem_append.1 hs with hs | hs
      · exact hc s (Option.mem_toList.1 hs)
      · exact hp s hs

/-- No change brings in another name. -/
theorem NamesFit.change {st st' : State} (h : st.NamesFit) (hchange : st.Change st') :
    st'.NamesFit := by
  cases hchange with
  | push node depth isSetting flags leaf =>
      exact ⟨List.forall_mem_cons.2 ⟨.of_isLeaf leaf, h.items⟩, h.branches, h.frames⟩
  | again p items least most greedy last =>
      have hitems := h.items
      rw [last, Piece.NamesFit, List.forall_mem_cons] at hitems
      refine ⟨List.forall_mem_cons.2 ⟨?_, hitems.2⟩, h.branches, h.frames⟩
      intro s hs
      exact hitems.1 s (Node.groupNames_repeated_subset _ _ _ _ hs)
  | opened capturing flags names groups name =>
      refine ⟨fun p hp => absurd hp List.not_mem_nil, fun p hp => absurd hp List.not_mem_nil, ?_⟩
      exact List.forall_mem_cons.2 ⟨⟨h.items, h.branches, name⟩, h.frames⟩
  | closed frame frames last =>
      have hframes := h.frames
      rw [last, List.forall_mem_cons] at hframes
      obtain ⟨⟨hitems, hbranches, hname⟩, hrest⟩ := hframes
      exact ⟨List.forall_mem_cons.2 ⟨namesFit_around hname h.body, hitems⟩, hbranches, hrest⟩
  | next =>
      exact ⟨fun p hp => absurd hp List.not_mem_nil,
        List.forall_mem_cons.2 ⟨h.branch, h.branches⟩, h.frames⟩

theorem NamesFit.changes {st st' : State} (h : st.NamesFit)
    (hchanges : Relation.ReflTransGen Change st st') : st'.NamesFit := by
  induction hchanges with
  | refl => exact h
  | tail _ hchange ih => exact ih.change hchange

theorem namesFit_empty : NamesFit {} :=
  ⟨fun _ h => absurd h List.not_mem_nil, fun _ h => absurd h List.not_mem_nil,
    fun _ h => absurd h List.not_mem_nil⟩

end State

/-- The names in an expression that has been read are names that a group can have. -/
theorem Node.isGroupName_of_parse {cs : List Char} {n : Node} (h : Node.parse cs = .ok n) :
    n.NamesFit := by
  obtain ⟨st, hreached, -, rfl⟩ := Node.exists_reached_of_parse h
  exact (State.namesFit_empty.changes (State.changes_of_reached hreached)).body

/-! ## Names that are recorded -/

namespace Plan

/-- The names under which a plan records texts. -/
def names : Plan → List String
  | done | set _ | anchor _ => []
  | seq l r | fork _ l r => l.names ++ r.names
  | star _ _ body | again _ _ body => body.names
  | record name body => name :: body.names

/-- Nothing is recorded under another name. -/
theorem Leads.found_subset {plan : Plan} {p q : Place} (h : plan.Leads p q) :
    q.found.map Prod.fst ⊆ plan.names ++ p.found.map Prod.fst := by
  induction h with
  | done | anchor _ | stop => exact List.subset_append_right _ _
  | set _ _ => exact List.subset_append_right _ _
  | seq _ _ hl hr =>
      intro s hs
      rcases List.mem_append.1 (hr hs) with hs | hs
      · exact List.mem_append_left _ (List.mem_append_right _ hs)
      · rcases List.mem_append.1 (hl hs) with hs | hs
        · exact List.mem_append_left _ (List.mem_append_left _ hs)
        · exact List.mem_append_right _ hs
  | left _ ih =>
      intro s hs
      rw [names, List.append_assoc]
      rcases List.mem_append.1 (ih hs) with hs | hs
      · exact List.mem_append_left _ hs
      · exact List.mem_append_right _ (List.mem_append_right _ hs)
  | right _ ih =>
      intro s hs
      rw [names, List.append_assoc]
      exact List.mem_append_right _ (ih hs)
  | round _ _ hbody hrest | again _ _ hbody hrest =>
      intro s hs
      rcases List.mem_append.1 (hrest hs) with hs | hs
      · exact List.mem_append_left _ hs
      · exact hbody hs
  | record _ ih =>
      intro s hs
      rcases List.mem_cons.1 hs with rfl | hs
      · exact List.mem_cons_self
      · exact List.mem_cons_of_mem _ (ih hs)

end Plan

namespace Planning

/-- What is planned records texts under some names only. -/
def NamesIn (names : List String) (make : Planning) : Prop :=
  ∀ a, (make a).1.names ⊆ names

variable {names : List String} {l r body : Planning}

theorem NamesIn.seq (hl : NamesIn names l) (hr : NamesIn names r) : NamesIn names (seq l r) :=
  fun a => List.append_subset.2 ⟨hl a, hr _⟩

theorem NamesIn.fork (first : Bool) (hl : NamesIn names l) (hr : NamesIn names r) :
    NamesIn names (fork first l r) := by
  intro a
  cases first with
  | true => exact List.append_subset.2 ⟨hl _, hr _⟩
  | false => exact List.append_subset.2 ⟨hr _, hl _⟩

theorem NamesIn.done : NamesIn names done :=
  fun _ => List.nil_subset _

theorem NamesIn.again (greedy : Bool) (h : NamesIn names body) :
    NamesIn names (again greedy body) :=
  fun a => h (a + 1)

theorem NamesIn.copies (h : NamesIn names body) (count : Nat) :
    NamesIn names (copies body count) := by
  induction count with
  | zero => exact NamesIn.done
  | succ count ih =>
      cases count with
      | zero => exact h
      | succ count => exact h.seq ih

theorem NamesIn.atMost (greedy : Bool) (h : NamesIn names body) (count : Nat) :
    NamesIn names (atMost greedy body count) := by
  induction count with
  | zero => exact NamesIn.done
  | succ count ih =>
      cases count with
      | zero => exact h.fork greedy .done
      | succ count => exact (h.seq ih).fork greedy .done

theorem NamesIn.repeated (least : Nat) (most : Option Nat) (greedy neverEmpty : Bool)
    (h : NamesIn names body) : NamesIn names (repeated least most greedy neverEmpty body) := by
  unfold Planning.repeated
  split
  · exact h.atMost greedy _
  · split
    · exact h.copies _
    · exact (h.copies _).seq (h.atMost greedy _)
  · split
    · exact fun a => h (a + 1)
    · exact (h.again greedy).fork greedy .done
  · exact h.again greedy
  · exact (h.copies _).seq (h.again greedy)

end Planning

/-- The plan of an expression records texts under the names of its groups only. -/
theorem Node.namesIn_planning (n : Node) : Planning.NamesIn n.groupNames n.planning := by
  induction n with
  | empty => exact Planning.NamesIn.done
  | set s => exact fun _ => List.nil_subset _
  | anchor a => exact fun _ => List.nil_subset _
  | seq l r hl hr =>
      exact .seq (fun a => List.Subset.trans (hl a) (List.subset_append_left _ _))
        (fun a => List.Subset.trans (hr a) (List.subset_append_right _ _))
  | alt l r hl hr =>
      exact .fork true (fun a => List.Subset.trans (hl a) (List.subset_append_left _ _))
        (fun a => List.Subset.trans (hr a) (List.subset_append_right _ _))
  | rep least most greedy body ih => exact ih.repeated least most greedy _
  | capture index name body ih =>
      intro a
      cases name with
      | none => exact ih a
      | some name => exact List.cons_subset_cons name (ih a)

/-- A search records nothing under other names than those of the groups. -/
theorem Node.mem_groupNames_of_search {n : Node} {text : List Char} {q : Place}
    (h : n.search text = some q) : q.found.map Prod.fst ⊆ n.groupNames := by
  obtain ⟨i, -, hleads⟩ := Node.leads_of_search h
  have hfound := hleads.found_subset
  rw [Place.nth, List.map_nil, List.append_nil] at hfound
  exact fun s hs => n.namesIn_planning 0 (hfound hs)

end PathRouter.Regex
