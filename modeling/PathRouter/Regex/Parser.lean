import PathRouter.Regex.Bracket
import PathRouter.Regex.Footprint
import PathRouter.Unicode.Letter

/-!
# Reading regular expressions

The reader is one pass over the text with a stack of open groups: `State.step` reads one piece and
`Node.parse` repeats it. The first fault in text order is the one reported; a group left open is a
fault of the end of the text. The limits on depth and size are checked when all has been read.
-/

namespace PathRouter.Regex

/-- The characters that can start the name of a capture group. -/
def isNameStart (c : Char) : Bool :=
  c == '_' || Unicode.isAlphabetic c

/-- The characters that can follow in the name of a capture group. -/
def isNameChar (c : Char) : Bool :=
  c == '_' || c == '.' || c == '[' || c == ']' || Unicode.isAlphanumeric c

/-- The names a capture group can have. -/
def isGroupName : List Char → Bool
  | [] => false
  | c :: cs => isNameStart c && cs.all isNameChar

/-- A piece of an expression that has been read. -/
structure Piece where
  /-- The expression. -/
  node : Node
  /-- How deep groups, brackets and operators are nested in its text. -/
  depth : Nat := 0
  /-- Whether it only sets flags: such a piece cannot be repeated. -/
  isSetting : Bool := false
deriving DecidableEq, Repr

/-- The depth of the deepest of some pieces. -/
def Piece.maxDepth (pieces : List Piece) : Nat :=
  (pieces.map Piece.depth).foldr max 0

/-- Pieces one after the other, as one piece. -/
def Piece.concat : List Piece → Piece
  | [] => { node := .empty }
  | [p] => { node := p.node, depth := p.depth }
  | ps => { node := .concat (ps.map Piece.node), depth := maxDepth ps + 1 }

/-- The choice between some pieces, as one piece. -/
def Piece.choice : List Piece → Piece
  | [p] => p
  | ps => { node := .choice (ps.map Piece.node), depth := maxDepth ps + 1 }

/-- What a group does beside holding together. -/
inductive Capturing where
  /-- Nothing. -/
  | off
  /-- It records its text, under a name if it has one. -/
  | on (index : Nat) (name : Option String)
deriving DecidableEq, Repr

/-- The piece of a group around another piece. -/
def Capturing.around (c : Capturing) (p : Piece) : Piece :=
  match c with
  | .off => { node := p.node, depth := p.depth + 1 }
  | .on index name => { node := .capture index name p.node, depth := p.depth + 1 }

/-- An open group: what had been read of the surrounding expression. -/
structure Frame where
  /-- The finished alternatives around the group, newest first. -/
  branches : List Piece
  /-- The pieces before the group, newest first. -/
  items : List Piece
  /-- The flags in force around the group. -/
  flags : Flags
  /-- What the group does with its text. -/
  capturing : Capturing
deriving DecidableEq, Repr

/-- The state of the reader. -/
structure State where
  /-- The open groups, innermost first. -/
  frames : List Frame := []
  /-- The finished alternatives of the current group, newest first. -/
  branches : List Piece := []
  /-- The pieces of the current alternative, newest first. -/
  items : List Piece := []
  /-- The flags in force. -/
  flags : Flags := {}
  /-- The group names in use. -/
  names : List String := []
  /-- The number of capture groups so far. -/
  groups : Nat := 0
deriving DecidableEq, Repr

/-- Reads a group name up to its closing bracket. -/
def readName (first : Bool) : List Char → Except Error (List Char × List Char)
  | [] => .error .nameUnclosed
  | c :: cs =>
    if c == '>' then .ok ([], cs)
    else if (if first then isNameStart c else isNameChar c) then do
      let (name, rest) ← readName false cs
      return (c :: name, rest)
    else .error .nameInvalid

/-- Reads the digits of a number. -/
def readDigits (f : Flags) : Nat → List Char → List Char × List Char
  | fuel + 1, c :: cs =>
    if c.isDigit then
      let (digits, rest) := readDigits f fuel (f.skip cs)
      (c :: digits, rest)
    else ([], c :: cs)
  | _, cs => ([], cs)

/-- The number of copies a repetition may ask for. -/
def maxCount : Nat := 4294967295

/-- Reads a number of copies, with white space around it. The inner result is the fault of the
number itself, which is reported only where the number is needed. -/
def readCount (f : Flags) (cs : List Char) : Except Error Nat × List Char :=
  let cs := cs.dropWhile Unicode.isWhite
  let (digits, rest) := readDigits f cs.length cs
  let rest := rest.dropWhile Unicode.isWhite
  let value := digits.foldl (fun n d => 10 * n + (d.toNat - '0'.toNat)) 0
  if digits.isEmpty then (.error .repetitionNumber, rest)
  else if maxCount < value then (.error .numberTooLarge, rest)
  else (.ok value, rest)

/-- Reads the bounds of a counted repetition after its opening brace, up to the closing brace. -/
def readBounds (f : Flags) (cs : List Char) : Except Error (Nat × Option Nat × List Char) := do
  let cs := f.skip cs
  if cs.isEmpty then .error .repetitionUnclosed else
  let (least, cs) := readCount f cs
  match cs with
  | [] => .error .repetitionUnclosed
  | ',' :: cs =>
    match f.skip cs with
    | [] => .error .repetitionUnclosed
    | '\x7D' :: cs => return (← least, none, cs)
    | cs =>
      let least ← least
      let (most, cs) := readCount f cs
      let most ← most
      match cs with
      | '\x7D' :: cs => return (least, some most, cs)
      | _ => .error .repetitionUnclosed
  | c :: cs =>
    let least ← least
    if c == '\x7D' then return (least, some least, cs) else .error .repetitionUnclosed

namespace State

/-- Adds a piece to the current alternative. -/
def push (st : State) (n : Node) (depth : Nat) : State :=
  { st with items := { node := n, depth } :: st.items }

/-- The current alternative as one piece. -/
def branch (st : State) : Piece :=
  .concat st.items.reverse

/-- All alternatives of the current group as one piece. -/
def body (st : State) : Piece :=
  .choice (st.branch :: st.branches).reverse

/-- The piece for one character as it stands. -/
def literal (st : State) (c : Char) : Node :=
  .set ((CharSet.single c).foldIf st.flags.ignoreCase)

/-- The piece for an escape. -/
def escape (st : State) : Escape → Node
  | .char c => st.literal c
  | .set s => .set s
  | .anchor a => .anchor a

/-- The piece for a dot. -/
def dot (st : State) : Node :=
  .set (if st.flags.dotAll then .compl .none
    else if st.flags.returnEndsLine then .compl (.union (.single '\r') (.single '\n'))
    else .compl (.single '\n'))

/-- The condition for the start of the text or a line. -/
def startAnchor (st : State) : Anchor :=
  if !st.flags.multiLine then .textStart
  else if st.flags.returnEndsLine then .lineStartAny
  else .lineStart

/-- The condition for the end of the text or a line. -/
def endAnchor (st : State) : Anchor :=
  if !st.flags.multiLine then .textEnd
  else if st.flags.returnEndsLine then .lineEndAny
  else .lineEnd

/-- Repeats the last piece. A question mark after the operator turns its greed around. -/
def repeatLast (st : State) (least : Nat) (most : Option Nat) (spaced : Bool) (cs : List Char) :
    Except Error (State × List Char) :=
  match st.items with
  | [] => .error .repetitionMissing
  | p :: items =>
    if p.isSetting then .error .repetitionMissing
    else
      let (marked, cs) :=
        match if spaced then st.flags.skip cs else cs with
        | '?' :: rest => (true, rest)
        | rest => (false, rest)
      let node := p.node.repeated least most (marked == st.flags.swapGreed)
      .ok ({ st with items := { node, depth := p.depth + 1 } :: items }, cs)

/-- Reads a counted repetition after its opening brace. -/
def repeatCounted (st : State) (cs : List Char) : Except Error (State × List Char) := do
  if st.items.head?.all Piece.isSetting then .error .repetitionMissing else
  let (least, most, cs) ← readBounds st.flags cs
  let (st, cs) ← st.repeatLast least most true cs
  match most with
  | some most => if least ≤ most then return (st, cs) else .error .repetitionReversed
  | none => return (st, cs)

/-- Opens a group. -/
def openGroup (st : State) (capturing : Capturing) (inner : Flags) : State :=
  { st with
    frames :=
  { branches := st.branches, items := st.items, flags := st.flags, capturing } :: st.frames
    branches := []
    items := []
    flags := inner }

/-- Opens a capture group. -/
def openCapture (st : State) (name : Option String) : State :=
  { st.openGroup (.on (st.groups + 1) name) st.flags with
    names := name.toList ++ st.names
    groups := st.groups + 1 }

/-- Opens a named group after the start of its name. -/
def openNamed (st : State) (cs : List Char) : Except Error (State × List Char) := do
  let (name, rest) ← readName true cs
  let name := String.ofList name
  if name.isEmpty then .error .nameEmpty
  else if st.names.contains name then .error .nameDuplicate
  else return (st.openCapture (some name), rest)

/-- Reads what follows an opening parenthesis and a question mark. -/
def openMarked (st : State) (cs : List Char) : Except Error (State × List Char) :=
  match cs with
  | '=' :: _ | '!' :: _ | '<' :: '=' :: _ | '<' :: '!' :: _ => .error .lookAround
  | 'P' :: '<' :: cs | '<' :: cs => st.openNamed cs
  | [] => .error .groupUnclosed
  | cs => do
    let (flags, idle, stop, rest) ← st.flags.read [] false false cs
    if stop == ':' then return (st.openGroup .off flags, rest)
    else if idle then .error .repetitionMissing
    else return ({ st with flags, items := { node := .empty, isSetting := true } :: st.items },
      rest)

/-- Reads what follows an opening parenthesis. -/
def openAny (st : State) (cs : List Char) : Except Error (State × List Char) :=
  match st.flags.skip cs with
  | '?' :: rest => st.openMarked rest
  | rest => .ok (st.openCapture none, rest)

/-- Closes the innermost group. -/
def closeGroup (st : State) : Except Error State :=
  match st.frames with
  | [] => .error .groupUnopened
  | frame :: frames =>
    .ok { st with
      frames
      branches := frame.branches
      items := frame.capturing.around st.body :: frame.items
      flags := frame.flags }

/-- Ends the current alternative. -/
def nextBranch (st : State) : State :=
  { st with branches := st.branch :: st.branches, items := [] }

/-- Reads one piece of an expression, whose first character is given. -/
def step (st : State) (c : Char) (cs : List Char) : Except Error (State × List Char) :=
  match c with
  | '(' => st.openAny cs
  | ')' => do return (← st.closeGroup, cs)
  | '|' => .ok (st.nextBranch, cs)
  | '[' => do
    let (item, rest) ← Bracket.read st.flags cs
    return (st.push (.set item.set) item.depth, rest)
  | '?' => st.repeatLast 0 (some 1) false cs
  | '*' => st.repeatLast 0 none false cs
  | '+' => st.repeatLast 1 none false cs
  | '\x7B' => st.repeatCounted cs
  | '\\' => do
    let (e, rest) ← Escape.read st.flags cs
    return (st.push (st.escape e) 0, rest)
  | '.' => .ok (st.push st.dot 0, cs)
  | '^' => .ok (st.push (.anchor st.startAnchor) 0, cs)
  | '$' => .ok (st.push (.anchor st.endAnchor) 0, cs)
  | c => .ok (st.push (st.literal c) 0, cs)

/-- The expression read, if no group is left open. -/
def finish (st : State) : Except Error Piece :=
  if st.frames.isEmpty then .ok st.body else .error .groupUnclosed

/-- Reads pieces to the end of the text, in at most as many steps as there are characters. -/
def run : Nat → State → List Char → Except Error Piece
  | 0, st, _ => st.finish
  | fuel + 1, st, cs =>
    match st.flags.skip cs with
    | [] => st.finish
    | c :: cs => do
      let (st, cs) ← st.step c cs
      run fuel st cs

end State

/-- Reads a regular expression. -/
def Node.parse (cs : List Char) : Except Error Node := do
  let p ← State.run cs.length {} cs
  if maxDepth < p.depth then .error .tooDeep
  else if maxFootprint < p.node.footprint then .error .tooLarge
  else return p.node

end PathRouter.Regex
