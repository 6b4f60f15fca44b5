import PathRouter.Regex.Runs

/-!
# Byte sequences of sets of characters

In UTF-8 a character is a sequence of one to four bytes. The sequences of a run of characters are
those of a few rows of byte intervals: a row stands for all sequences whose bytes lie in its
intervals, one by one. `Runs.byteRows` lists the rows of a set in increasing order.

The rows of a set form a tree, in which rows that start alike share their start. `startCount`
counts the intervals in it. If parts of the tree that look alike are shared, too, a graph is left,
and `nodeWidths` has its nodes.
-/

namespace PathRouter.Regex

/-- An interval of bytes. -/
abbrev ByteInterval := Nat × Nat

namespace Utf8

/-- The rows of `count` continuation bytes that write the numbers from `low` to `high` to the base
64. -/
def continuations : (count : Nat) → (low high : Nat) → List (List ByteInterval)
  | 0, _, _ => [[]]
  | count + 1, low, high =>
    let unit := 1 <<< (6 * count)
    let a := low / unit
    let b := high / unit
    if a = b then
      (continuations count (low % unit) (high % unit)).map ((0x80 + a, 0x80 + a) :: ·)
    else
      let a' := if low % unit = 0 then a else a + 1
      let b' := if high % unit = unit - 1 then b else b - 1
      (if a' = a then [] else
        (continuations count (low % unit) (unit - 1)).map ((0x80 + a, 0x80 + a) :: ·))
      ++ (if a' ≤ b' then [(0x80 + a', 0x80 + b') :: List.replicate count (0x80, 0xBF)] else [])
      ++ (if b' = b then [] else
        (continuations count 0 (high % unit)).map ((0x80 + b, 0x80 + b) :: ·))

/-- Moves the first interval of a row. -/
def shiftLead (lead : Nat) : List ByteInterval → List ByteInterval
  | [] => []
  | (a, b) :: rest => (a - 0x80 + lead, b - 0x80 + lead) :: rest

/-- The rows of the characters of one length whose code points lie between two bounds. `lead` is
the smallest first byte, and there are `count` bytes after it. -/
def rowsOfLength (lead count : Nat) (least most low high : Nat) : List (List ByteInterval) :=
  let low := max low least
  let high := min high most
  if low ≤ high then (continuations (count + 1) low high).map (shiftLead lead) else []

/-- The rows of the characters with code points between two bounds. -/
def rows (low high : Nat) : List (List ByteInterval) :=
  rowsOfLength 0 0 0 0x7F low high
    ++ rowsOfLength 0xC0 1 0x80 0x7FF low high
    ++ rowsOfLength 0xE0 2 0x800 0xD7FF low high
    ++ rowsOfLength 0xE0 2 0xE000 0xFFFF low high
    ++ rowsOfLength 0xF0 3 0x10000 0x10FFFF low high

end Utf8

/-- The rows of byte intervals of a set. -/
def Runs.byteRows (r : Runs) : List (List ByteInterval) :=
  r.flatMap fun run => Utf8.rows (Runs.code run.1) (Runs.code run.2)

namespace Utf8

/-- Takes rows that follow each other and start with one interval together. -/
def groups (rows : List (List ByteInterval)) : List (ByteInterval × List (List ByteInterval)) :=
  rows.foldr (fun row groups =>
    match row, groups with
    | [], groups => groups
    | i :: rest, (j, rests) :: groups =>
      if i = j then (j, rest :: rests) :: groups else (i, [rest]) :: (j, rests) :: groups
    | i :: rest, [] => [(i, [rest])]) []

/-- The number of intervals in the tree of some rows of at most `length` bytes. -/
def startCount : (length : Nat) → List (List ByteInterval) → Nat
  | 0, _ => 0
  | length + 1, rows => (groups rows).foldr (fun g n => startCount length g.2 + 1 + n) 0

/-- A text that is the same for trees that look alike, and different for others. -/
def shape : (length : Nat) → List (List ByteInterval) → List Nat
  | 0, _ => []
  | length + 1, rows =>
    (groups rows).flatMap fun g => g.1.1 :: g.1.2 :: shape length g.2 ++ [0x100]

/-- The inner nodes of a tree, as their shapes and their numbers of intervals. -/
def nodes : (length : Nat) → List (List ByteInterval) → List (List Nat × Nat)
  | 0, _ => []
  | length + 1, rows =>
    let gs := groups rows
    if gs.isEmpty then []
    else (shape (length + 1) rows, gs.length) :: gs.flatMap fun g => nodes length g.2

/-- The numbers of intervals at the nodes of the graph of some rows. -/
def nodeWidths (rows : List (List ByteInterval)) : List Nat :=
  (nodes 4 rows).eraseDups.map Prod.snd

end Utf8

end PathRouter.Regex
