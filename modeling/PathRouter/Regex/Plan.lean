import PathRouter.Regex.Node

/-!
# Plans of a search

A `Plan` is an expression made ready for a search: copies are written out one after the other, and
every place where a search can go on in two ways has a number of its own, its *mark*. `Node.plan`
makes it.

There are two kinds of loops. In `star` the search decides at the head of the loop whether to enter
it; in `again` it has been through the body once and decides whether to go through it again. If the
body can match the empty text, `x*` is a choice between nothing and `again`, since a head would
come up twice at one place.
-/

namespace PathRouter.Regex

/-- An expression made ready for a search. -/
inductive Plan where
  /-- The empty text. -/
  | done
  /-- One character of a set. -/
  | set (s : CharSet)
  /-- No text, where a condition holds. -/
  | anchor (a : Anchor)
  /-- One plan after the other. -/
  | seq (l r : Plan)
  /-- Either plan, the left one preferred. -/
  | fork (mark : Nat) (l r : Plan)
  /-- Any number of rounds. -/
  | star (mark : Nat) (greedy : Bool) (body : Plan)
  /-- At least one round. -/
  | again (mark : Nat) (greedy : Bool) (body : Plan)
  /-- A plan whose text is recorded under a name. -/
  | record (name : String) (body : Plan)
deriving DecidableEq, Repr

/-- Makes a plan with the marks from a number on, and gives the number after them. -/
abbrev Planning := Nat → Plan × Nat

namespace Planning

/-- One plan after the other. -/
def seq (l r : Planning) : Planning := fun n =>
  let (l, n) := l n
  let (r, n) := r n
  (.seq l r, n)

/-- Either plan, the first one preferred if `first` holds. -/
def fork (first : Bool) (l r : Planning) : Planning := fun n =>
  let (l, m) := l (n + 1)
  let (r, m) := r m
  (if first then .fork n l r else .fork n r l, m)

/-- Nothing. -/
def done : Planning := fun n => (.done, n)

/-- Exactly `count` copies. -/
def copies (body : Planning) : (count : Nat) → Planning
  | 0 => done
  | 1 => body
  | count + 2 => seq body (copies body (count + 1))

/-- At most `count` copies. -/
def atMost (greedy : Bool) (body : Planning) : (count : Nat) → Planning
  | 0 => done
  | 1 => fork greedy body done
  | count + 2 => fork greedy (seq body (atMost greedy body (count + 1))) done

/-- Any number of rounds through a body that matches no empty text. -/
def star (greedy : Bool) (body : Planning) : Planning := fun n =>
  let (body, m) := body (n + 1)
  (.star n greedy body, m)

/-- At least one round. -/
def again (greedy : Bool) (body : Planning) : Planning := fun n =>
  let (body, m) := body (n + 1)
  (.again n greedy body, m)

/-- A part that records its text if it has a name. -/
def record (name : Option String) (body : Planning) : Planning := fun n =>
  match name with
  | none => body n
  | some name =>
    let (body, n) := body n
    (.record name body, n)

/-- Copies, at least `least` and at most `most`. -/
def repeated (least : Nat) (most : Option Nat) (greedy : Bool) (neverEmpty : Bool)
    (body : Planning) : Planning :=
  match most, least with
  | some most, 0 => atMost greedy body most
  | some most, least =>
    if least = most then copies body least
    else seq (copies body least) (atMost greedy body (most - least))
  | none, 0 =>
    if neverEmpty then star greedy body else fork greedy (again greedy body) done
  | none, 1 => again greedy body
  | none, least + 2 => seq (copies body (least + 1)) (again greedy body)

end Planning

namespace Node

/-- The way to make a plan of an expression. -/
def planning : Node → Planning
  | empty => .done
  | set s => fun n => (.set s, n)
  | anchor a => fun n => (.anchor a, n)
  | seq l r => l.planning.seq r.planning
  | alt l r => .fork true l.planning r.planning
  | rep least most greedy body =>
    .repeated least most greedy (body.minLength.any (0 < ·)) body.planning
  | capture _ name body => .record name body.planning

/-- The plan of an expression. -/
def plan (n : Node) : Plan :=
  (n.planning 0).1

end Node

end PathRouter.Regex
