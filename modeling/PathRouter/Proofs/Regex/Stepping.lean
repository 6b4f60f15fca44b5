import Mathlib.Logic.Relation
import PathRouter.Proofs.Regex.Reading

/-!
# What a step of the reader can do

Whatever the text is, a step of the reader does one of five things to the state.  `State.Change`
lists them, `State.change_of_step` says that there are no others, and `State.changes_of_reached`
says that the state at the end of a text is reached by such changes.  So what five cases keep is
true of every expression that can be read (`Node.exists_reached_of_parse`).
-/

namespace PathRouter.Regex

/-- The name under which a group records its text. -/
def Capturing.name? : Capturing → Option String
  | .off => none
  | .on _ name => name

/-- A tree without parts, that is, a set, a condition or nothing. -/
def Node.IsLeaf : Node → Prop
  | .empty | .set _ | .anchor _ => True
  | _ => False

namespace State

/-- What a step can do. -/
inductive Change (st : State) : State → Prop
  /-- A piece without parts is added, or the flags are set. -/
  | push (node : Node) (depth : Nat) (isSetting : Bool) (flags : Flags) (leaf : node.IsLeaf) :
      Change st { st with items := ⟨node, depth, isSetting⟩ :: st.items, flags }
  /-- The last piece is repeated. -/
  | again (p : Piece) (items : List Piece) (least : Nat) (most : Option Nat) (greedy : Bool)
      (last : st.items = p :: items) :
      Change st
        { st with items := ⟨p.node.repeated least most greedy, p.depth + 1, false⟩ :: items }
  /-- A group is opened.  Its name can be that of a group. -/
  | opened (capturing : Capturing) (flags : Flags) (names : List String) (groups : Nat)
      (name : ∀ s ∈ capturing.name?, isGroupName s.toList = true) :
      Change st { st.openGroup capturing flags with names, groups }
  /-- The innermost group is closed. -/
  | closed (frame : Frame) (frames : List Frame) (last : st.frames = frame :: frames) :
      Change st { st with
        frames
        branches := frame.branches
        items := frame.capturing.around st.body :: frame.items
        flags := frame.flags }
  /-- The current alternative is ended. -/
  | next : Change st st.nextBranch

/-! ## Names -/

theorem all_of_readName {cs name rest : List Char} (h : readName false cs = .ok (name, rest)) :
    name.all isNameChar = true := by
  induction cs generalizing name with
  | nil => cases h
  | cons c cs ih =>
      rw [readName] at h
      split at h
      · cases h
        rfl
      · simp only [Bool.false_eq_true, if_false] at h
        split at h
        next hc =>
          obtain ⟨r, hrec, h⟩ := exists_of_bind_eq_ok h
          cases h
          rw [List.all_cons, hc, ih hrec]
          rfl
        · cases h

/-- The names that are read are those that a group can have. -/
theorem isGroupName_of_readName {cs name rest : List Char}
    (h : readName true cs = .ok (name, rest)) (hne : name ≠ []) : isGroupName name = true := by
  cases cs with
  | nil => cases h
  | cons c cs =>
      rw [readName] at h
      split at h
      · cases h
        exact absurd rfl hne
      · simp only [if_true] at h
        split at h
        next hc =>
          obtain ⟨r, hrec, h⟩ := exists_of_bind_eq_ok h
          cases h
          rw [isGroupName, hc, all_of_readName hrec]
          rfl
        · cases h

/-! ## Steps -/

variable {st st' : State} {cs rest : List Char}

theorem change_of_openNamed (h : st.openNamed cs = .ok (st', rest)) : st.Change st' := by
  obtain ⟨⟨name, rest'⟩, hname, h⟩ := exists_of_bind_eq_ok h
  dsimp only at h
  split at h
  · cases h
  next hne =>
    split at h
    · cases h
    · cases h
      refine .opened (.on (st.groups + 1) (some (String.ofList name))) st.flags _ _ ?_
      intro s hs
      cases hs
      rw [String.toList_ofList]
      refine isGroupName_of_readName hname ?_
      rintro rfl
      exact hne rfl

/-- A named group is opened as a capture group. -/
theorem eq_openCapture_of_openNamed (h : st.openNamed cs = .ok (st', rest)) :
    ∃ name, st' = st.openCapture name := by
  obtain ⟨⟨name, rest'⟩, -, h⟩ := exists_of_bind_eq_ok h
  dsimp only at h
  split at h
  · cases h
  · split at h
    · cases h
    · cases h
      exact ⟨_, rfl⟩

theorem change_of_openMarked (h : st.openMarked cs = .ok (st', rest)) : st.Change st' := by
  unfold openMarked at h
  split at h
  · cases h
  · cases h
  · cases h
  · cases h
  · exact change_of_openNamed h
  · exact change_of_openNamed h
  · cases h
  · obtain ⟨⟨flags, idle, stop, rest'⟩, -, h⟩ := exists_of_bind_eq_ok h
    dsimp only at h
    split at h
    · cases h
      exact .opened .off flags st.names st.groups (by intro s hs; cases hs)
    · split at h
      · cases h
      · cases h
        exact .push .empty 0 true flags trivial

theorem change_of_openAny (h : st.openAny cs = .ok (st', rest)) : st.Change st' := by
  unfold openAny at h
  split at h
  · exact change_of_openMarked h
  · cases h
    exact .opened (.on (st.groups + 1) none) st.flags _ _ (by intro s hs; cases hs)

theorem change_of_closeGroup (h : st.closeGroup = .ok st') : st.Change st' := by
  unfold closeGroup at h
  split at h
  · cases h
  next frame frames hframes =>
    cases h
    exact .closed frame frames hframes

theorem change_of_repeatLast {least : Nat} {most : Option Nat} {spaced : Bool}
    (h : st.repeatLast least most spaced cs = .ok (st', rest)) : st.Change st' := by
  unfold repeatLast at h
  split at h
  · cases h
  next p items hitems =>
    split at h
    · cases h
    · cases h
      exact .again p items least most _ hitems

theorem change_of_repeatCounted (h : st.repeatCounted cs = .ok (st', rest)) : st.Change st' := by
  unfold repeatCounted at h
  split at h
  · cases h
  · obtain ⟨⟨least, most, cs'⟩, -, h⟩ := exists_of_bind_eq_ok h
    obtain ⟨⟨st'', cs''⟩, hlast, h⟩ := exists_of_bind_eq_ok h
    have hchange := change_of_repeatLast hlast
    cases most with
    | none =>
        cases h
        exact hchange
    | some most =>
        dsimp only at h
        split at h
        · cases h
          exact hchange
        · cases h

theorem change_of_step {c : Char} (h : st.step c cs = .ok (st', rest)) : st.Change st' := by
  unfold step at h
  split at h
  · exact change_of_openAny h
  · obtain ⟨r, hclose, h⟩ := exists_of_bind_eq_ok h
    cases h
    exact change_of_closeGroup hclose
  · cases h
    exact .next
  · obtain ⟨⟨item, rest'⟩, -, h⟩ := exists_of_bind_eq_ok h
    cases h
    exact .push (.set item.set) item.depth false st.flags trivial
  · exact change_of_repeatLast h
  · exact change_of_repeatLast h
  · exact change_of_repeatLast h
  · exact change_of_repeatCounted h
  · obtain ⟨⟨e, rest'⟩, -, h⟩ := exists_of_bind_eq_ok h
    cases h
    refine .push (st.escape e) 0 false st.flags ?_
    cases e <;> trivial
  · cases h
    exact .push st.dot 0 false st.flags trivial
  · cases h
    exact .push (.anchor st.startAnchor) 0 false st.flags trivial
  · cases h
    exact .push (.anchor st.endAnchor) 0 false st.flags trivial
  · cases h
    exact .push (st.literal _) 0 false st.flags trivial

/-! ## Runs -/

/-- The state at the end of a text is reached by changes. -/
theorem changes_of_reached {n : Nat} (h : reached n st cs = .ok st') :
    Relation.ReflTransGen Change st st' := by
  induction n generalizing st cs with
  | zero =>
      cases h
      exact .refl
  | succ n ih =>
      rw [reached] at h
      split at h
      · cases h
        exact .refl
      · obtain ⟨⟨st'', rest⟩, hstep, h⟩ := exists_of_bind_eq_ok h
        exact .head (change_of_step hstep) (ih h)

theorem frames_eq_nil_of_finish {p : Piece} (h : st.finish = .ok p) :
    st.frames = [] ∧ p = st.body := by
  unfold finish at h
  split at h
  next hframes =>
    cases h
    exact ⟨List.isEmpty_iff.1 hframes, rfl⟩
  · cases h

end State

/-- What has been read is what stands in the state at the end of the text. -/
theorem Node.exists_reached_of_parse {cs : List Char} {n : Node} (h : Node.parse cs = .ok n) :
    ∃ st, State.reached cs.length {} cs = .ok st ∧ st.frames = [] ∧ n = st.body.node := by
  obtain ⟨p, hrun, h⟩ := exists_of_bind_eq_ok h
  rw [State.run_eq_reached] at hrun
  obtain ⟨st, hreached, hfinish⟩ := exists_of_bind_eq_ok hrun
  obtain ⟨hframes, rfl⟩ := State.frames_eq_nil_of_finish hfinish
  refine ⟨st, hreached, hframes, ?_⟩
  split at h
  · cases h
  · split at h
    · cases h
    · cases h
      rfl

end PathRouter.Regex
