import PathRouter.Unicode.Blank
import PathRouter.Unicode.Casing
import PathRouter.Unicode.Word

/-!
# Sets of characters

The sets a regular expression can name: single characters and ranges, decimal digits, word
characters and white space, and whatever complement, union, intersection and case folding make of
them. A set is a tree; `CharSet.contains` decides membership, one equation per constructor.
-/

namespace PathRouter.Regex

/-- A set of characters, as an expression. -/
inductive CharSet where
  /-- No character. -/
  | none
  /-- The characters from `low` to `high`, both included. -/
  | range (low high : Char)
  /-- The decimal digits of every script. -/
  | decimal
  /-- The characters of words. -/
  | word
  /-- White space. -/
  | white
  /-- The characters outside a set. -/
  | compl (s : CharSet)
  /-- The characters of either set. -/
  | union (s t : CharSet)
  /-- The characters of both sets. -/
  | inter (s t : CharSet)
  /-- The characters equal up to case to a member. -/
  | folded (s : CharSet)
deriving DecidableEq, Repr

namespace CharSet

/-- Membership. -/
def contains : CharSet → Char → Bool
  | none, _ => false
  | range low high, c => low ≤ c && c ≤ high
  | decimal, c => Unicode.isDecimal c
  | word, c => Unicode.isWord c
  | white, c => Unicode.isWhite c
  | compl s, c => !s.contains c
  | union s t, c => s.contains c || t.contains c
  | inter s t, c => s.contains c && t.contains c
  | folded s, c => (Unicode.caseVariants c).any s.contains

/-- The set with one member. -/
def single (c : Char) : CharSet :=
  range c c

/-- The union of a list of sets. -/
def unionAll (sets : List CharSet) : CharSet :=
  sets.foldr union none

/-- The members of `s` outside `t`. -/
def diff (s t : CharSet) : CharSet :=
  inter s (compl t)

/-- The members of exactly one of the two sets. -/
def symmDiff (s t : CharSet) : CharSet :=
  union (diff s t) (diff t s)

/-- The complement if `negated` holds, and the set itself otherwise. -/
def negateIf (negated : Bool) (s : CharSet) : CharSet :=
  if negated then compl s else s

/-- The set closed under case if `ignoreCase` holds, and the set itself otherwise. -/
def foldIf (ignoreCase : Bool) (s : CharSet) : CharSet :=
  if ignoreCase then folded s else s

theorem contains_single {c d : Char} : (single c).contains d = decide (d = c) := by
  simp only [single, contains]
  by_cases h : d = c
  · subst h; simp
  · simp only [h, decide_false, Bool.and_eq_false_iff, decide_eq_false_iff_not]
    by_cases hle : c ≤ d
    · exact Or.inr fun hge => h (Char.le_antisymm hge hle)
    · exact Or.inl hle

theorem contains_unionAll {sets : List CharSet} {c : Char} :
    (unionAll sets).contains c = sets.any (·.contains c) := by
  induction sets with
  | nil => rfl
  | cons s sets ih => simp [unionAll, contains, ← ih]

/-- The named ASCII classes that may stand in brackets. -/
def ascii? : String → Option CharSet
  | "alnum" => some (unionAll [range '0' '9', range 'A' 'Z', range 'a' 'z'])
  | "alpha" => some (unionAll [range 'A' 'Z', range 'a' 'z'])
  | "ascii" => some (range '\x00' '\x7F')
  | "blank" => some (unionAll [single '\t', single ' '])
  | "cntrl" => some (unionAll [range '\x00' '\x1F', single '\x7F'])
  | "digit" => some (range '0' '9')
  | "graph" => some (range '!' '~')
  | "lower" => some (range 'a' 'z')
  | "print" => some (range ' ' '~')
  | "punct" => some (unionAll [range '!' '/', range ':' '@', range '[' '\x60', range '\x7B' '~'])
  | "space" => some (unionAll [range '\t' '\r', single ' '])
  | "upper" => some (range 'A' 'Z')
  | "word" => some (unionAll [range '0' '9', range 'A' 'Z', single '_', range 'a' 'z'])
  | "xdigit" => some (unionAll [range '0' '9', range 'A' 'F', range 'a' 'f'])
  | _ => Option.none

end CharSet

end PathRouter.Regex
