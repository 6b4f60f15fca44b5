import Mathlib.Data.Finset.Card
import Mathlib.Order.Interval.Finset.Nat
import PathRouter.Proofs.Regex.Spans

/-!
# The marks of a search

The marks of a plan are all different, so that a mark tells at which part of the plan it has been
left.  A search only adds marks to those there are.  A loop has one mark for every position, and
therefore never needs more rounds than there are positions left.

* `Node.fresh_planning` — the marks of a plan are new and all different;
* `Marks.Within`, `Marks.Lasting` — more marks, and what stays true with more of them;
* `Marks.card_free_le`, `Marks.card_free_lt` — how many positions are left, and that they become
  fewer.
-/

namespace PathRouter.Regex

/-! ## The marks of a plan -/

/-- The marks of a plan. -/
def Plan.marks : Plan → List Nat
  | done | set _ | anchor _ => []
  | seq l r => l.marks ++ r.marks
  | fork n l r => n :: (l.marks ++ r.marks)
  | star n _ body | again n _ body => n :: body.marks
  | record _ body => body.marks

namespace Planning

variable {pl l r : Planning}

/-- The marks of the plan are new and all different. -/
structure Fresh (pl : Planning) : Prop where
  /-- The number that comes after the marks. -/
  le : ∀ a, a ≤ (pl a).2
  /-- The marks lie between the numbers. -/
  bounds : ∀ a, ∀ n ∈ (pl a).1.marks, a ≤ n ∧ n < (pl a).2
  /-- No mark occurs twice. -/
  nodup : ∀ a, (pl a).1.marks.Nodup

theorem Fresh.append (hl : Fresh l) (hr : Fresh r) (a : Nat) :
    (∀ n ∈ (l a).1.marks ++ (r (l a).2).1.marks, a ≤ n ∧ n < (r (l a).2).2) ∧
      ((l a).1.marks ++ (r (l a).2).1.marks).Nodup := by
  have hle := hl.le a
  have hle' := hr.le (l a).2
  constructor
  · intro n hn
    rcases List.mem_append.1 hn with hn | hn
    · have := hl.bounds a n hn
      omega
    · have := hr.bounds _ n hn
      omega
  · refine List.nodup_append.2 ⟨hl.nodup a, hr.nodup _, ?_⟩
    intro m hm n hn
    have := hl.bounds a m hm
    have := hr.bounds _ n hn
    omega

theorem Fresh.seq (hl : Fresh l) (hr : Fresh r) : Fresh (l.seq r) where
  le a := Nat.le_trans (hl.le a) (hr.le _)
  bounds a := (hl.append hr a).1
  nodup a := (hl.append hr a).2

theorem Fresh.fork (first : Bool) (hl : Fresh l) (hr : Fresh r) : Fresh (.fork first l r) := by
  have hmarks : ∀ a, (Planning.fork first l r a).1.marks.Perm
      (a :: ((l (a + 1)).1.marks ++ (r (l (a + 1)).2).1.marks)) := by
    intro a
    cases first with
    | true => exact .refl _
    | false => exact .cons a List.perm_append_comm
  refine ⟨fun a => ?_, fun a n hn => ?_, fun a => ?_⟩
  · exact Nat.le_trans (Nat.le_of_succ_le (hl.le (a + 1))) (hr.le _)
  · have hle : a + 1 ≤ (r (l (a + 1)).2).2 := Nat.le_trans (hl.le (a + 1)) (hr.le _)
    rcases List.mem_cons.1 ((hmarks a).mem_iff.1 hn) with rfl | hn
    · exact ⟨Nat.le_refl n, hle⟩
    · have := (hl.append hr (a + 1)).1 n hn
      exact ⟨by omega, this.2⟩
  · refine (hmarks a).nodup_iff.2 (List.nodup_cons.2 ⟨fun hmem => ?_, (hl.append hr (a + 1)).2⟩)
    have := (hl.append hr (a + 1)).1 a hmem
    omega

theorem Fresh.leaf {plan : Plan} (h : plan.marks = []) : Fresh fun a => (plan, a) where
  le := Nat.le_refl
  bounds _ n hn := absurd (h ▸ hn : n ∈ []) List.not_mem_nil
  nodup _ := h ▸ List.nodup_nil

theorem Fresh.done : Fresh Planning.done := leaf rfl

theorem Fresh.copies (h : Fresh pl) (count : Nat) : Fresh (.copies pl count) := by
  induction count with
  | zero => exact .done
  | succ count ih =>
      cases count with
      | zero => exact h
      | succ count => exact h.seq ih

theorem Fresh.atMost (greedy : Bool) (h : Fresh pl) (count : Nat) :
    Fresh (.atMost greedy pl count) := by
  induction count with
  | zero => exact .done
  | succ count ih =>
      cases count with
      | zero => exact h.fork greedy .done
      | succ count => exact (h.seq ih).fork greedy .done

/-- A loop has the mark that comes first. -/
theorem Fresh.loop (h : Fresh pl) (a : Nat) :
    a ≤ (pl (a + 1)).2 ∧ (∀ n ∈ a :: (pl (a + 1)).1.marks, a ≤ n ∧ n < (pl (a + 1)).2) ∧
      (a :: (pl (a + 1)).1.marks).Nodup := by
  have hle := h.le (a + 1)
  refine ⟨Nat.le_of_succ_le hle, fun n hn => ?_, List.nodup_cons.2 ⟨fun hmem => ?_, h.nodup _⟩⟩
  · rcases List.mem_cons.1 hn with rfl | hn
    · exact ⟨Nat.le_refl n, hle⟩
    · have := h.bounds _ n hn
      omega
  · have := h.bounds _ a hmem
    omega

theorem Fresh.star (greedy : Bool) (h : Fresh pl) : Fresh (.star greedy pl) :=
  ⟨fun a => (h.loop a).1, fun a => (h.loop a).2.1, fun a => (h.loop a).2.2⟩

theorem Fresh.again (greedy : Bool) (h : Fresh pl) : Fresh (.again greedy pl) :=
  ⟨fun a => (h.loop a).1, fun a => (h.loop a).2.1, fun a => (h.loop a).2.2⟩

theorem Fresh.record (name : Option String) (h : Fresh pl) : Fresh (.record name pl) := by
  cases name with
  | none => exact h
  | some name => exact ⟨h.le, h.bounds, h.nodup⟩

theorem Fresh.repeated (least : Nat) (most : Option Nat) (greedy neverEmpty : Bool)
    (h : Fresh pl) :
    Fresh (.repeated least most greedy neverEmpty pl) := by
  unfold Planning.repeated
  split
  · exact h.atMost greedy _
  · split
    · exact h.copies _
    · exact (h.copies _).seq (h.atMost greedy _)
  · split
    · exact h.star greedy
    · exact (h.again greedy).fork greedy .done
  · exact h.again greedy
  · exact (h.copies _).seq (h.again greedy)

end Planning

theorem Node.fresh_planning (n : Node) : n.planning.Fresh := by
  induction n with
  | empty => exact .done
  | set s => exact .leaf rfl
  | anchor a => exact .leaf rfl
  | seq l r hl hr => exact hl.seq hr
  | alt l r hl hr => exact hl.fork true hr
  | rep least most greedy body h => exact h.repeated least most greedy _
  | capture index name body h => exact h.record name

/-! ## Marks -/

namespace Marks

/-- All marks of one search are among those of another. -/
def Within (m m' : Marks) : Prop :=
  ∀ x, m.contains x = true → m'.contains x = true

theorem Within.refl (m : Marks) : Within m m := fun _ h => h

theorem Within.trans {m m' m'' : Marks} (h : Within m m') (h' : Within m' m'') : Within m m'' :=
  fun x hx => h' x (h x hx)

theorem within_insert (m : Marks) (x : Nat × Nat) : Within m (m.insert x) :=
  fun y hy => (contains_insert_iff m x y).2 (Or.inr hy)

/-- What is said about marks and a position stays true when more marks are left. -/
def Lasting (K : Marks → Nat → Prop) : Prop :=
  ∀ m m' i, Within m m' → K m i → K m' i

/-- A position is marked with a number. -/
def Marked (n : Nat) (m : Marks) (i : Nat) : Prop :=
  m.contains (n, i) = true

theorem lasting_marked (n : Nat) : Lasting (Marked n) :=
  fun _ _ i hm h => hm (n, i) h

end Marks

/-! ## Positions that are left -/

/-- The positions from `low` on that are not marked with a number. -/
def Marks.free (text : List Char) (n low : Nat) (m : Marks) : Finset Nat :=
  (Finset.Icc low text.length).filter fun j => m.contains (n, j) = false

theorem Marks.mem_free {text : List Char} {n low i : Nat} {m : Marks} :
    i ∈ free text n low m ↔ (low ≤ i ∧ i ≤ text.length) ∧ m.contains (n, i) = false := by
  rw [free, Finset.mem_filter, Finset.mem_Icc]

theorem Marks.card_free_le {text : List Char} {n i : Nat} {p : Place} (hp : p.At text i)
    (hi : i ≤ text.length) (m : Marks) : (m.free text n i).card ≤ p.rest.length + 1 := by
  have hle := Finset.card_filter_le (Finset.Icc i text.length) fun j => m.contains (n, j) = false
  rw [Nat.card_Icc] at hle
  rw [hp.rest, List.length_drop, Marks.free]
  omega

/-- With a new mark at a position there are fewer positions left from there on. -/
theorem Marks.card_free_lt {text : List Char} {n low i : Nat} {base m : Marks} (hlow : low ≤ i)
    (hi : i ≤ text.length) (hbase : base.Within m) (hmarked : ¬ m.contains (n, i) = true) :
    (free text n i (m.insert (n, i))).card < (base.free text n low).card := by
  have hwithin : base.Within (m.insert (n, i)) := hbase.trans (within_insert m _)
  refine Finset.card_lt_card (Finset.ssubset_iff_of_subset (fun j hj => ?_) |>.2 ⟨i, ?_, ?_⟩)
  · rw [mem_free] at hj ⊢
    refine ⟨⟨by omega, hj.1.2⟩, ?_⟩
    rw [← Bool.not_eq_true]
    exact fun hj' => Bool.false_ne_true (hj.2.symm.trans (hwithin _ hj'))
  · rw [mem_free, ← Bool.not_eq_true]
    exact ⟨⟨hlow, hi⟩, fun hi' => hmarked (hbase _ hi')⟩
  · rw [mem_free, (contains_insert_iff m _ _).2 (Or.inl rfl)]
    exact fun hfalse => Bool.noConfusion hfalse.2

end PathRouter.Regex
