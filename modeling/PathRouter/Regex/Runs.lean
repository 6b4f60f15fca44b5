import PathRouter.Regex.CharSet

/-!
# The runs of a set of characters

A set of characters is also the list of its maximal runs of neighbours, in increasing order. Two
sets have the same members exactly if they have the same runs, however they are written, so `[ab]`
and `[ba]` can be told to be one set. Characters are counted here without the gap that the code
points of UTF-16 surrogates leave: the numbers of neighbours differ by one.
-/

namespace PathRouter.Regex

/-- Runs of neighbours, from first to last, in increasing order and with gaps between them. -/
abbrev Runs := List (Nat × Nat)

namespace Runs

/-- The number of a code point among the characters. -/
def rank (code : Nat) : Nat :=
  if code < 0xD800 then code else code - 0x800

/-- The code point of the character with a number. -/
def code (rank : Nat) : Nat :=
  if rank < 0xD800 then rank else rank + 0x800

/-- The number of the last character. -/
def last : Nat := rank 0x10FFFF

/-- Adds a run. -/
def insert (first last : Nat) : Runs → Runs
  | [] => [(first, last)]
  | (a, b) :: rest =>
    if last + 1 < a then (first, last) :: (a, b) :: rest
    else if b + 1 < first then (a, b) :: insert first last rest
    else insert (min first a) (max last b) rest

/-- The members of either. -/
def union (r s : Runs) : Runs :=
  r.foldr (fun run s => s.insert run.1 run.2) s

/-- The characters from `start` on that are in no run. -/
def gapsFrom (start : Nat) : Runs → Runs
  | [] => if start ≤ last then [(start, last)] else []
  | (a, b) :: rest =>
    if start < a then (start, a - 1) :: gapsFrom (b + 1) rest else gapsFrom (b + 1) rest

/-- The characters that are no members. -/
def compl (r : Runs) : Runs :=
  r.gapsFrom 0

/-- The members of both. -/
def inter (r s : Runs) : Runs :=
  (r.compl.union s.compl).compl

/-- Whether the character with a number is a member. -/
def contains (r : Runs) (n : Nat) : Bool :=
  r.any fun run => run.1 ≤ n && n ≤ run.2

/-- The runs of a table of code points. -/
def ofTable (table : Unicode.RangeTable) : Runs :=
  table.toList.map fun run => (rank run.1, rank run.2)

/-- The number of members. -/
def size (r : Runs) : Nat :=
  r.foldr (fun run n => run.2 + 1 - run.1 + n) 0

/-- The members, by their numbers. -/
def members (r : Runs) : List Nat :=
  r.flatMap fun run => (List.range (run.2 + 1 - run.1)).map (run.1 + ·)

/-- The characters equal up to case to the one with a number. -/
def variants (n : Nat) : List Nat :=
  (Unicode.caseVariants (Char.ofNat (code n))).map fun c => rank c.toNat

/-- The characters equal up to case to a member. Of a small set all members are visited, of a large
one all characters that have a case. -/
def fold (r : Runs) : Runs :=
  if r.size ≤ 256 then (r.members.flatMap variants).foldr (fun n s => s.insert n n) r
  else (Unicode.cased.filter fun n => (variants (rank n)).any r.contains).foldr
    (fun n s => s.insert (rank n) (rank n)) r

end Runs

namespace CharSet

/-- The runs of a set. -/
def runs : CharSet → Runs
  | none => []
  | range low high =>
    if low ≤ high then [(Runs.rank low.toNat, Runs.rank high.toNat)] else []
  | decimal => .ofTable Unicode.decimalRuns
  | word => .ofTable Unicode.wordRuns
  | white => .ofTable Unicode.whiteRuns
  | compl s => s.runs.compl
  | union s t => s.runs.union t.runs
  | inter s t => s.runs.inter t.runs
  | folded s => s.runs.fold

/-- The member of a set that has only one. -/
def single? (s : CharSet) : Option Char :=
  match s.runs with
  | [(a, b)] => if a = b then some (Char.ofNat (Runs.code a)) else Option.none
  | _ => Option.none

/-- Whether two sets have the same members. -/
def same (s t : CharSet) : Bool :=
  s.runs == t.runs

end CharSet

end PathRouter.Regex
