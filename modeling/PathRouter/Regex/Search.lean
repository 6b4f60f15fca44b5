import PathRouter.Regex.Plan
import Std.Data.TreeSet

/-!
# Searching

Matching follows preference: of the ways in which an expression can match at a place, the first in
order of preference that lets the rest of the search succeed is taken. `Plan.run` is written with
the rest of the search as a function, so that a failure of the rest makes it try the next way.

A search leaves a mark wherever it has two ways to go on, and never takes up a marked place again.
Nothing is lost by that: whatever could be found from there has been tried, or is being tried. So
loops whose body matches the empty text come to an end, and the number of steps is bounded by the
length of the text times the size of the expression.
-/

namespace PathRouter.Regex

/-- A place in a text, and what has been recorded on the way to it. -/
structure Place where
  /-- The number of characters before the place. -/
  position : Nat
  /-- The character just before the place. -/
  before : Option Char
  /-- The text after the place. -/
  rest : List Char
  /-- The texts recorded under names, newest first. -/
  found : List (String × String)
deriving DecidableEq, Repr

namespace Place

/-- The start of a text. -/
def start (text : List Char) : Place :=
  { position := 0, before := none, rest := text, found := [] }

/-- The place after a character. -/
def after (p : Place) (c : Char) (rest : List Char) : Place :=
  { p with position := p.position + 1, before := some c, rest }

/-- The text from `p` to a later place. -/
def textTo (p q : Place) : List Char :=
  p.rest.take (q.position - p.position)

/-- Records the text since `p` under a name. -/
def record (q p : Place) (name : String) : Place :=
  { q with found := (name, String.ofList (p.textTo q)) :: q.found }

end Place

/-- Whether an optional character is a word character. -/
def isWord? (c : Option Char) : Bool :=
  c.any Unicode.isWord

/-- Whether a condition holds at a place. -/
def Anchor.holds (a : Anchor) (p : Place) : Bool :=
  let before := isWord? p.before
  let after := isWord? p.rest.head?
  match a with
  | .textStart => p.before.isNone
  | .textEnd => p.rest.isEmpty
  | .lineStart => p.before.all (· == '\n')
  | .lineEnd => p.rest.head?.all (· == '\n')
  | .lineStartAny =>
    p.before.all fun c => c == '\n' || c == '\r' && p.rest.head? != some '\n'
  | .lineEndAny =>
    p.rest.head?.all fun c => c == '\r' || c == '\n' && p.before != some '\r'
  | .wordEdge => before != after
  | .notWordEdge => before == after
  | .wordStart => !before && after
  | .wordEnd => before && !after
  | .wordStartHalf => !before
  | .wordEndHalf => !after

/-- The marks a search has left: the number of a mark in the plan, and a position in the text. -/
abbrev Marks := Std.TreeSet (Nat × Nat) (compareLex (compareOn Prod.fst) (compareOn Prod.snd))

/-- A search from a place on. It is given the marks so far, and gives those afterwards. -/
abbrev Search (α : Type) := Marks → Option α × Marks

namespace Search

variable {α : Type}

/-- The first search, and the second one if that fails. -/
def orElse (a b : Search α) : Search α := fun marks =>
  match a marks with
  | (some result, marks) => (some result, marks)
  | (none, marks) => b marks

/-- Leaves a mark, and goes on in one of two ways. The first one comes first if `first` holds. If
there is such a mark already, nothing new can be found. -/
def mark (key : Nat × Nat) (first : Bool) (a b : Search α) : Search α := fun marks =>
  if marks.contains key then (none, marks)
  else (if first then orElse a b else orElse b a) (marks.insert key)

end Search

/-- A way of matching: given the rest of the search and a place, the search. -/
abbrev Way (α : Type) := (Place → Search α) → Place → Search α

/-- Further rounds from the head of a loop, as many as possible if `greedy` holds. There is at most
one for every position. -/
def Way.rounds {α : Type} (number : Nat) (greedy : Bool) (body : Way α) : (fuel : Nat) → Way α
  | 0, _, _, marks => (none, marks)
  | fuel + 1, k, p, marks =>
    Search.mark (number, p.position) greedy
      (fun marks => body (rounds number greedy body fuel k) p marks) (fun marks => k p marks) marks

/-- Matches a plan at a place and goes on with the rest of the search. -/
def Plan.run {α : Type} : Plan → Way α
  | .done, k, p, marks => k p marks
  | .set s, k, p, marks =>
    match p.rest with
    | [] => (none, marks)
    | c :: rest => if s.contains c then k (p.after c rest) marks else (none, marks)
  | .anchor a, k, p, marks => if a.holds p then k p marks else (none, marks)
  | .seq l r, k, p, marks => l.run (r.run k) p marks
  | .fork number l r, k, p, marks =>
    Search.mark (number, p.position) true (fun marks => l.run k p marks)
      (fun marks => r.run k p marks) marks
  | .star number greedy body, k, p, marks =>
    Way.rounds number greedy body.run (p.rest.length + 1) k p marks
  | .again number greedy body, k, p, marks =>
    body.run (Way.rounds number greedy body.run (p.rest.length + 1) k) p marks
  | .record name body, k, p, marks => body.run (fun q => k (q.record p name)) p marks

/-- The first place in the text at which the expression matches decides; its preferred match is the
result. -/
def Plan.searchFrom (plan : Plan) (position : Nat) (before : Option Char) (text : List Char) :
    Search Place := fun marks =>
  match plan.run (fun q marks => (some q, marks))
    { position, before, rest := text, found := [] } marks with
  | (some q, marks) => (some q, marks)
  | (none, marks) =>
    match text with
    | [] => (none, marks)
    | c :: rest => plan.searchFrom (position + 1) (some c) rest marks

/-- Searches a text for an expression. -/
def Node.search (n : Node) (text : List Char) : Option Place :=
  (n.plan.searchFrom 0 none text ∅).1

end PathRouter.Regex
