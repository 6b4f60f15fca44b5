import PathRouter.Regex.Escape

/-!
# Bracketed sets

The reader of `[...]`: characters, ranges, escapes, named ASCII classes, nested brackets, and the
operators `&&`, `--` and `~~` between unions. Open brackets and pending operators are kept on a
stack, so the reader is one pass over the text. With every set it counts how deep brackets, unions
and operators are nested in its text.
-/

namespace PathRouter.Regex.Bracket

/-- An operator between two unions. -/
inductive Op where
  /-- Intersection, `&&`. -/
  | inter
  /-- Difference, `--`. -/
  | diff
  /-- Symmetric difference, `~~`. -/
  | symmDiff
deriving DecidableEq, Repr

/-- A set, and how deep its text is nested. -/
structure Item where
  /-- The set. -/
  set : CharSet
  /-- The depth of the text. -/
  depth : Nat := 0
deriving DecidableEq, Repr

/-- A character, as an item. -/
def Item.single (c : Char) : Item :=
  { set := .single c }

/-- The union of some items, as one item. -/
def Item.union : List Item → Item
  | [] => { set := .none }
  | [item] => item
  | items =>
    { set := .unionAll (items.map Item.set), depth := ((items.map Item.depth).foldr max 0) + 1 }

/-- What is suspended while an inner part is read. -/
inductive Frame where
  /-- An open bracket: the items read before it, newest first, and whether it is negated. -/
  | bracket (outer : List Item) (negated : Bool)
  /-- An operator with its left operand. -/
  | operator (op : Op) (left : Item)
deriving DecidableEq, Repr

/-- The state of the reader: suspended parts, innermost first, and the items of the current union,
newest first. -/
structure State where
  /-- The suspended parts. -/
  frames : List Frame
  /-- The items read so far. -/
  items : List Item
deriving DecidableEq, Repr

/-- The result of an operator. -/
def Op.apply : Op → CharSet → CharSet → CharSet
  | inter, s, t => .inter s t
  | diff, s, t => .diff s t
  | symmDiff, s, t => .symmDiff s t

/-- The union of the items of the current union, after any pending operator. -/
def State.operand (ignoreCase : Bool) (st : State) : Item × List Frame :=
  let right := Item.union st.items.reverse
  match st.frames with
  | .operator op left :: frames =>
    ({ set := op.apply (left.set.foldIf ignoreCase) (right.set.foldIf ignoreCase)
       depth := max left.depth right.depth + 1 }, frames)
  | frames => (right, frames)

/-- Reads the hyphens at the start of a bracket. -/
def openHyphens (f : Flags) : Nat → List Item → List Char → List Item × List Char
  | fuel + 1, items, '-' :: cs => openHyphens f fuel (Item.single '-' :: items) (f.skip cs)
  | _, items, cs => (items, cs)

/-- Reads the start of a bracket after the opening character: a negation sign, then hyphens, then a
closing bracket that stands for itself because it comes first. -/
def start (f : Flags) (frames : List Frame) (outer : List Item) (cs : List Char) :
    Except Error (State × List Char) :=
  let cs := f.skip cs
  let (negated, cs) :=
    match cs with
    | '^' :: rest => (true, f.skip rest)
    | cs => (false, cs)
  let (items, cs) := openHyphens f cs.length [] cs
  let (items, cs) :=
    match items, cs with
    | [], ']' :: rest => ([Item.single ']'], f.skip rest)
    | items, cs => (items, cs)
  if cs.isEmpty then .error .classUnclosed
  else .ok ({ frames := .bracket outer negated :: frames, items }, cs)

/-- Reads a named class after `[:`, and gives nothing if the text is no named class. -/
def named? (ignoreCase : Bool) (cs : List Char) : Option (CharSet × List Char) :=
  let (negated, cs) :=
    match cs with
    | '^' :: rest => (true, rest)
    | cs => (false, cs)
  match cs.dropWhile (· != ':') with
  | ':' :: ']' :: rest =>
    (CharSet.ascii? (String.ofList (cs.takeWhile (· != ':')))).map
      fun s => ((s.foldIf ignoreCase).negateIf negated, rest)
  | _ => none

/-- Reads one character or escape of a bracket. -/
def item (f : Flags) : List Char → Except Error (Escape × List Char)
  | [] => .error .classUnclosed
  | '\\' :: cs => Escape.read f cs
  | c :: cs => .ok (.char c, cs)

/-- An item that stands alone. -/
def alone : Escape → Except Error CharSet
  | .char c => .ok (.single c)
  | .set s => .ok s
  | .anchor _ => .error .classEscape

/-- A range between two items. -/
def between : Escape → Escape → Except Error CharSet
  | .char low, .char high =>
      if low ≤ high then .ok (.range low high) else .error .classRangeReversed
  | _, _ => .error .classRangeEnd

/-- Whether what follows a hyphen makes it stand for itself. -/
def endsRange (f : Flags) (cs : List Char) : Bool :=
  match f.skip cs with
  | ']' :: _ | '-' :: _ => true
  | _ => false

/-- Reads an item, or a range of two items with a hyphen between them. -/
def range (f : Flags) (cs : List Char) : Except Error (CharSet × List Char) := do
  let (first, cs) ← item f cs
  match f.skip cs with
  | [] => .error .classUnclosed
  | '-' :: rest =>
    if endsRange f rest then return (← alone first, '-' :: rest)
    else
      let rest := f.skip rest
      if rest.isEmpty then .error .classUnclosed
      else
        let (last, rest) ← item f rest
        return (← between first last, rest)
  | rest => return (← alone first, rest)

/-- The result of one step. -/
inductive Step where
  /-- The outermost bracket has been closed. -/
  | done (item : Item) (rest : List Char)
  /-- There is more to read. -/
  | more (st : State) (rest : List Char)

/-- Closes the current union and makes it the left operand of an operator. -/
def State.operate (st : State) (ignoreCase : Bool) (op : Op) : State :=
  let (left, frames) := st.operand ignoreCase
  { frames := .operator op left :: frames, items := [] }

/-- Closes the innermost bracket. -/
def State.close (st : State) (ignoreCase : Bool) (rest : List Char) : Step :=
  match st.operand ignoreCase with
  | (item, .bracket outer negated :: frames) =>
    let item : Item :=
      { set := (item.set.foldIf ignoreCase).negateIf negated, depth := item.depth + 1 }
    if frames.isEmpty then .done item rest
    else .more { frames, items := item :: outer } rest
  | (item, _) => .done item rest

/-- Reads one piece of a bracket. -/
def step (f : Flags) (st : State) (cs : List Char) : Except Error Step :=
  match cs with
  | [] => .error .classUnclosed
  | '[' :: ':' :: rest =>
    match named? f.ignoreCase rest with
    | some (s, rest) => .ok (.more { st with items := { set := s } :: st.items } rest)
    | none => do
      let (st, rest) ← start f st.frames st.items (':' :: rest)
      return .more st rest
  | '[' :: rest => do
    let (st, rest) ← start f st.frames st.items rest
    return .more st rest
  | ']' :: rest => .ok (st.close f.ignoreCase rest)
  | '&' :: '&' :: rest => .ok (.more (st.operate f.ignoreCase .inter) rest)
  | '-' :: '-' :: rest => .ok (.more (st.operate f.ignoreCase .diff) rest)
  | '~' :: '~' :: rest => .ok (.more (st.operate f.ignoreCase .symmDiff) rest)
  | cs => do
    let (s, rest) ← range f cs
    return .more { st with items := { set := s } :: st.items } rest

/-- Reads a bracket to its end, in at most as many steps as there are characters. -/
def loop (f : Flags) : Nat → State → List Char → Except Error (Item × List Char)
  | 0, _, _ => .error .classUnclosed
  | fuel + 1, st, cs => do
    match ← step f st (f.skip cs) with
    | .done item rest => return (item, rest)
    | .more st rest => loop f fuel st rest

/-- Reads a bracketed set after its opening bracket. -/
def read (f : Flags) (cs : List Char) : Except Error (Item × List Char) := do
  let (st, rest) ← start f [] [] cs
  loop f (rest.length + 1) st rest

end PathRouter.Regex.Bracket
