import Mathlib.Algebra.Ring.Nat
import PathRouter.Proofs.Pattern.Expression
import PathRouter.Proofs.Regex.Runs

/-!
# The size of a pattern

The memory that the expression of a pattern takes is the sum of what its pieces take, so it is
bounded by the length of the pattern, whatever stands in it.

* `Template.cost_node` — the sum;
* `Template.footprint_node_le` — at most 1000 bytes for a character, and a bit for what is around
  them;
* `Template.footprint_node_le_maxFootprint` — so short patterns are never too large.
-/

namespace PathRouter

open Regex Costs

theorem Regex.Node.cost_ofParts (c : Costs) {nodes : List Node} (h : nodes ≠ []) :
    (Node.ofParts nodes).cost c = (nodes.map (Node.cost c)).sum := by
  induction nodes with
  | nil => exact absurd rfl h
  | cons n ns ih =>
      cases ns with
      | nil => simp [Node.ofParts]
      | cons m ms =>
          have := ih (by simp)
          rw [List.map_cons, List.sum_cons, ← this]
          rfl

/-- The memory that a piece of a pattern takes. -/
def Segment.cost (c : Costs) : Segment → Nat
  | .char d => c.set (.single d)
  | .placeholder p => p.assertion.node.cost c + c.capture

namespace Template

theorem cost_nodes (c : Costs) (index : Nat) (t : Template) :
    ((nodes index t).map (Node.cost c)).sum = (t.map (Segment.cost c)).sum := by
  induction t generalizing index with
  | nil => rfl
  | cons s t ih => cases s <;> simp [ih, Placeholder.node, Node.cost, Segment.cost]

/-- The memory that a pattern takes is that of its pieces and of its two anchors. -/
theorem cost_node (c : Costs) (t : Template) :
    t.node.cost c = (t.map (Segment.cost c)).sum + 2 * state := by
  rw [node, Node.cost_ofParts c (by simp), List.map_cons, List.map_append, List.sum_cons,
    List.sum_append, cost_nodes]
  simp only [Node.cost, List.map_cons, List.map_nil, List.sum_cons, List.sum_nil]
  omega

end Template

/-! ## Bounds -/

theorem Regex.CharSet.single?_single (c : Char) : (single c).single? = some c := by
  simp [single, single?, runs, Runs.code_rank]

theorem Regex.Costs.char_le (c : Char) : Costs.char c ≤ 1000 := by
  have := c.utf8Size_le_four
  rw [Costs.char, state]
  omega

/-- An assertion without a key takes less than any other. -/
theorem Assertion.cost_segment_le :
    segment.node.cost forwards + forwards.capture ≤ 2000 ∧
      segment.node.cost backwards + backwards.capture ≤ 2000 := by
  decide +kernel

theorem Assertion.cost_le (a : Assertion) :
    a.node.cost forwards + forwards.capture ≤ 3000 ∧
      a.node.cost backwards + backwards.capture ≤ 3000 := by
  cases a <;> decide +kernel

namespace Template

theorem cost_segment_le (s : Segment) :
    s.cost forwards ≤ 1000 * (text [s]).length ∧ s.cost backwards ≤ 1000 * (text [s]).length := by
  cases s with
  | char c =>
      have hset : setForwards (.single c) = Costs.char c ∧ setBackwards (.single c) =
          Costs.char c := by
        simp only [setForwards, setBackwards, CharSet.single?_single, and_self]
      show setForwards _ ≤ 1000 ∧ setBackwards _ ≤ 1000
      rw [hset.1, hset.2]
      exact ⟨Costs.char_le c, Costs.char_le c⟩
  | placeholder p =>
      obtain ⟨name, key⟩ := p
      cases key with
      | none =>
          have hlen : 2 ≤ (text [.placeholder ⟨name, none⟩]).length := by
            simp [text, Placeholder.text]
          have := Assertion.cost_segment_le
          simp only [Segment.cost, Placeholder.assertion, Placeholder.assertion?, Option.getD_some]
          omega
      | some key =>
          have hlen : 3 ≤ (text [.placeholder ⟨name, some key⟩]).length := by
            simp [text, Placeholder.text]
            omega
          have := Assertion.cost_le (Placeholder.assertion ⟨name, some key⟩)
          simp only [Segment.cost]
          omega

theorem sum_cost_le (t : Template) :
    (t.map (Segment.cost forwards)).sum ≤ 1000 * t.text.length ∧
      (t.map (Segment.cost backwards)).sum ≤ 1000 * t.text.length := by
  induction t with
  | nil => exact ⟨Nat.zero_le _, Nat.zero_le _⟩
  | cons s t ih =>
      have htext : text (s :: t) = text [s] ++ text t := by simp [text]
      have := cost_segment_le s
      rw [htext, List.length_append, List.map_cons, List.map_cons, List.sum_cons, List.sum_cons]
      omega

/-- The memory that a pattern takes is bounded by its length. -/
theorem footprint_node_le (t : Template) : t.node.footprint ≤ 1000 * t.text.length + 300 := by
  have := sum_cost_le t
  have hends : ∀ anchored, 2 * state + (start anchored + forwards.ends) ≤ 300 ∧
      2 * state + (start anchored + backwards.ends) ≤ 300 := by decide
  have hforwards := (hends t.node.startsAnchored).1
  have hbackwards := (hends t.node.endsAnchored).2
  rw [Node.footprint, cost_node, cost_node]
  omega

/-- Patterns of at most ten thousand characters are not too large. -/
theorem footprint_node_le_maxFootprint {t : Template} (h : t.text.length ≤ 10000) :
    t.node.footprint ≤ maxFootprint := by
  have := footprint_node_le t
  rw [maxFootprint]
  omega

end Template

end PathRouter
