import PathRouter.Regex.Node
import PathRouter.Regex.Utf8

/-!
# The size of compiled expressions

An expression takes part in a search as a graph of states that read one byte each or none. Copies
are written out, so `(a{1000}){1000}` has a million states, and an expression may be short and
still too large to be used. `Node.footprint` is the memory that its graph takes, in bytes; a search
needs the graph in either direction, and the larger one counts. Before the expression stands a loop
over all bytes, so that a search can start anywhere, unless the expression itself says where it
starts. A choice between some thousands of plain texts, which can be searched for without a graph,
is measured like any other expression.
-/

namespace PathRouter.Regex

/-- What the parts of a graph take, in bytes. -/
structure Costs where
  /-- A set of characters. -/
  set : CharSet → Nat
  /-- The two ends of a capture group. -/
  capture : Nat
  /-- The ends of the whole expression, and the final state. -/
  ends : Nat

namespace Costs

/-- A state. -/
def state : Nat := 32

/-- A way out of a state, if states with several ways out are counted. -/
def branch : Nat := 4

/-- A transition of a state that tells bytes apart. -/
def transition : Nat := 8

/-- A state with two ways out. -/
def fork : Nat := state + 2 * branch

/-- One character. -/
def char (c : Char) : Nat :=
  c.utf8Size * state

/-- A set of ASCII characters, as one state with a transition for each of its runs, and its end. -/
def asciiSet (r : Runs) : Nat :=
  2 * state + transition * r.length

/-- Whether all members are ASCII characters. -/
def isAscii (r : Runs) : Bool :=
  r.all fun run => run.2 < 0x80

/-- A set in the graph that reads forwards. -/
def setForwards (s : CharSet) : Nat :=
  match s.single? with
  | some c => char c
  | none =>
    let r := s.runs
    if isAscii r then asciiSet r
    else
      state + (Utf8.nodeWidths r.byteRows).foldr (fun width n => state + transition * width + n) 0

/-- A set in the graph that reads backwards. -/
def setBackwards (s : CharSet) : Nat :=
  match s.single? with
  | some c => char c
  | none =>
    let r := s.runs
    if isAscii r then asciiSet r
    else
      let rows := r.byteRows
      2 * state + branch * rows.length + state * Utf8.startCount 4 rows

/-- What a search starts with: a loop over all bytes, or one state if the expression is anchored
where the search starts. -/
def start (anchored : Bool) : Nat :=
  if anchored then state else fork + 2 * state + transition

/-- The graph that reads forwards, in which capture groups have states. -/
def forwards : Costs := ⟨setForwards, 2 * state, 3 * state⟩

/-- The graph that reads backwards. -/
def backwards : Costs := ⟨setBackwards, 0, state⟩

end Costs

namespace Node

open Costs

/-- Whether an expression is a choice. -/
def isChoice : Node → Bool
  | alt _ _ => true
  | _ => false

/-- Whether matches can only start at the start of the text, as far as it shows in the
expression. -/
def startsAnchored : Node → Bool
  | empty | set _ => false
  | anchor a => a == .textStart
  | seq l r => l.startsAnchored || (l.emptyOnly && r.startsAnchored)
  | alt l r => l.startsAnchored && r.startsAnchored
  | rep least _ _ body => least != 0 && body.startsAnchored
  | capture _ _ body => body.startsAnchored

/-- Whether matches can only end at the end of the text, as far as it shows in the expression. -/
def endsAnchored : Node → Bool
  | empty | set _ => false
  | anchor a => a == .textEnd
  | seq l r => r.endsAnchored || (r.emptyOnly && l.endsAnchored)
  | alt l r => l.endsAnchored && r.endsAnchored
  | rep least _ _ body => least != 0 && body.endsAnchored
  | capture _ _ body => body.endsAnchored

/-- The memory that the graph of an expression takes. A choice has one state before all its
branches, and one after them. -/
def cost (c : Costs) : Node → Nat
  | empty | anchor _ => state
  | set s => c.set s
  | seq l r => l.cost c + r.cost c
  | alt l r => l.cost c + r.cost c + (if r.isChoice then branch else 2 * (branch + state))
  | rep least most _ body =>
    let one := body.cost c
    match most, least with
    | some most, least =>
      if least = most then one * least
      else one * most + fork * (most - least) + (if least = 0 ∧ 1 < most then 2 * state else state)
    | none, 0 => if body.minLength.getD 0 = 0 then one + 2 * fork + state else one + fork
    | none, least + 1 => one * (least + 1) + fork
  | capture _ _ body => body.cost c + c.capture

/-- The memory that an expression needs for a search. Read backwards, it starts where it ends. -/
def footprint (n : Node) : Nat :=
  max (n.cost forwards + (start n.startsAnchored + forwards.ends))
    (n.cost backwards + (start n.endsAnchored + backwards.ends))

end Node

end PathRouter.Regex
