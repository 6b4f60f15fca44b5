import PathRouter.Regex.Runs

/-!
# Regular expressions as trees

A `Node` is an expression as it has been understood. Everything that depends on the flags in force
where a piece was written (case, line mode, greed) is already decided in the tree, so that matching
needs no flags.

Trees are built with `Node.concat`, `Node.choice` and `Node.repeated`, which bring them into a
normal form: sequences and choices are not nested in themselves, a choice between single characters
is a set, and what all branches of a choice start with is taken out of it. The last rule is more
than tidiness, because it decides between matches: in `.*a|.*b` the first branch is preferred, in
`.*[ab]` the longest match.
-/

namespace PathRouter.Regex

/-- A condition on the place between two characters. -/
inductive Anchor where
  /-- The start of the text. -/
  | textStart
  /-- The end of the text. -/
  | textEnd
  /-- The start of a line. Lines end with a line feed. -/
  | lineStart
  /-- The end of a line. -/
  | lineEnd
  /-- The start of a line, where a carriage return may end a line, too. -/
  | lineStartAny
  /-- The end of such a line. -/
  | lineEndAny
  /-- A word character on exactly one side. -/
  | wordEdge
  /-- Word characters on both sides, or on neither. -/
  | notWordEdge
  /-- No word character before and one after. -/
  | wordStart
  /-- A word character before and none after. -/
  | wordEnd
  /-- No word character before. -/
  | wordStartHalf
  /-- No word character after. -/
  | wordEndHalf
deriving DecidableEq, Repr

/-- A regular expression. -/
inductive Node where
  /-- The empty text. -/
  | empty
  /-- One character of a set. -/
  | set (s : CharSet)
  /-- No text, where a condition holds. -/
  | anchor (a : Anchor)
  /-- One expression after the other. -/
  | seq (l r : Node)
  /-- Either expression, the left one preferred. -/
  | alt (l r : Node)
  /-- At least `least` and at most `most` copies, as many as possible if `greedy` and as few as
  possible otherwise. -/
  | rep (least : Nat) (most : Option Nat) (greedy : Bool) (body : Node)
  /-- The capture group that opens as number `index`, and the name under which its text is
  recorded. -/
  | capture (index : Nat) (name : Option String) (body : Node)
deriving DecidableEq, Repr

namespace Node

/-- The names of the capture groups, in the order in which they open. -/
def groupNames : Node → List String
  | empty | set _ | anchor _ => []
  | seq l r | alt l r => l.groupNames ++ r.groupNames
  | rep _ _ _ body => body.groupNames
  | capture _ name body => name.toList ++ body.groupNames

/-- Whether two expressions are the same, whatever way their sets are written. -/
def same : Node → Node → Bool
  | empty, empty => true
  | set s, set t => s.same t
  | anchor a, anchor b => a == b
  | seq l r, seq l' r' | alt l r, alt l' r' => l.same l' && r.same r'
  | rep least most greedy body, rep least' most' greedy' body' =>
    least == least' && most == most' && greedy == greedy' && body.same body'
  | capture index _ body, capture index' _ body' => index == index' && body.same body'
  | _, _ => false

/-! ## Measures -/

/-- Whether the empty text is the only one that can match. -/
def emptyOnly : Node → Bool
  | empty | anchor _ => true
  | set _ => false
  | seq l r | alt l r => l.emptyOnly && r.emptyOnly
  | rep _ most _ body => most.isSome && body.emptyOnly
  | capture _ _ body => body.emptyOnly

/-- The length of the shortest text that can match, as far as it shows in the expression. There is
none if a part matches no text at all. -/
def minLength : Node → Option Nat
  | empty | anchor _ => some 0
  | set s => if s.runs.isEmpty then none else some 1
  | seq l r =>
    match l.minLength, r.minLength with
    | some m, some n => some (m + n)
    | _, _ => none
  | alt l r =>
    match l.minLength, r.minLength with
    | some m, some n => some (min m n)
    | _, _ => none
  | rep least _ _ body => body.minLength.map (· * least)
  | capture _ _ body => body.minLength

/-- The number of pieces of an expression. -/
def size : Node → Nat
  | empty | set _ | anchor _ => 1
  | seq l r | alt l r => l.size + r.size + 1
  | rep _ _ _ body | capture _ _ body => body.size + 1

/-! ## Sequences -/

/-- The parts of a sequence. -/
def parts : Node → List Node
  | empty => []
  | seq l r => l :: r.parts
  | n => [n]

/-- The sequence of some parts. -/
def ofParts : List Node → Node
  | [] => empty
  | [n] => n
  | n :: ns => seq n (ofParts ns)

/-- The expressions one after the other. -/
def concat (nodes : List Node) : Node :=
  ofParts (nodes.flatMap parts)

/-! ## Repetitions -/

/-- Copies of an expression. More than one copy of an empty text is like one. -/
def repeated (body : Node) (least : Nat) (most : Option Nat) (greedy : Bool) : Node :=
  let (least, most) :=
    if body.emptyOnly then (min least 1, some (min (most.getD 1) 1)) else (least, most)
  if least = 0 ∧ most = some 0 then empty
  else if least = 1 ∧ most = some 1 then body
  else rep least most greedy body

/-! ## Choices -/

/-- The branches of a choice. -/
def branches : Node → List Node
  | alt l r => l :: r.branches
  | n => [n]

/-- The choice between some branches. -/
def ofBranches : List Node → Node
  | [] => set .none
  | [n] => n
  | n :: ns => alt n (ofBranches ns)

/-- The set of an expression that is one. -/
def set? : Node → Option CharSet
  | set s => some s
  | _ => none

/-- Whether an expression is a character. -/
def isChar (n : Node) : Bool :=
  n.set?.any fun s => s.single?.isSome

/-- The set that a choice between characters, or between proper sets, amounts to. -/
def mergeSets? (nodes : List Node) : Option CharSet :=
  if nodes.all isChar || nodes.all fun n => n.set?.isSome && !n.isChar then
    some (.unionAll (nodes.filterMap set?))
  else none

/-- The parts of a sequence, with characters that follow each other taken together as one word. -/
def words (parts : List Node) : List (List Node) :=
  parts.foldr (fun n words =>
    match words with
    | (m :: word) :: words =>
      if n.isChar && m.isChar then (n :: m :: word) :: words else [n] :: (m :: word) :: words
    | words => [n] :: words) []

/-- Whether two words are the same. -/
def sameWord : List Node → List Node → Bool
  | [], [] => true
  | n :: ns, m :: ms => n.same m && sameWord ns ms
  | _, _ => false

/-- The number of words that two sequences have in common at their start. -/
def commonStart : List (List Node) → List (List Node) → Nat
  | v :: vs, w :: ws => if sameWord v w then commonStart vs ws + 1 else 0
  | _, _ => 0

/-- What sequences of at least two words start with, and what remains of each of them. -/
def split? (nodes : List Node) : Option (List Node × List Node) :=
  let lines := nodes.map fun n => words n.parts
  match lines with
  | [] => none
  | line :: _ =>
    if lines.any fun l => l.length < 2 then none
    else
      let n := lines.foldl (fun n l => min n (commonStart line l)) line.length
      if n = 0 then none
      else some ((line.take n).flatten, lines.map fun l => ofParts (l.drop n).flatten)

/-- A choice between expressions, earlier ones preferred. `fuel` bounds the number of times that a
common start is taken out. -/
def choiceWithin : (fuel : Nat) → List Node → Node
  | 0, nodes => ofBranches nodes
  | fuel + 1, nodes =>
    let nodes := nodes.flatMap branches
    if nodes.length < 2 then ofBranches nodes
    else
      match mergeSets? nodes with
      | some s => set s
      | none =>
        match split? nodes with
        | some (start, rests) => concat (start ++ [choiceWithin fuel rests])
        | none => ofBranches nodes

/-- A choice between expressions, earlier ones preferred. -/
def choice (nodes : List Node) : Node :=
  choiceWithin (nodes.foldr (fun n fuel => n.size + fuel) 1) nodes

end Node

end PathRouter.Regex
