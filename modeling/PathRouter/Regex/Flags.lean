import PathRouter.Regex.Error
import PathRouter.Unicode.Blank

/-!
# Flags

The flags in force at a place of an expression, and the reader of flag lists such as `i`, `is-x`.
Free spacing (the flag `x`) also makes the reader of expressions skip white space and comments;
every such place goes through `Flags.skip`, which does nothing while the flag is off.
-/

namespace PathRouter.Regex

/-- The flags in force. -/
structure Flags where
  /-- Letters match in either case. -/
  ignoreCase : Bool := false
  /-- The line anchors hold at every line, not only at the ends of the text. -/
  multiLine : Bool := false
  /-- The dot matches a line feed too. -/
  dotAll : Bool := false
  /-- A carriage return ends a line, too, and together with a line feed it is one end of line. -/
  returnEndsLine : Bool := false
  /-- Repetitions are lazy unless marked, and greedy if marked. -/
  swapGreed : Bool := false
  /-- White space and comments in the expression mean nothing. -/
  freeSpacing : Bool := false
deriving DecidableEq, Repr

/-- The name of a flag. -/
inductive Flag where
  /-- `i` -/
  | ignoreCase
  /-- `m` -/
  | multiLine
  /-- `s` -/
  | dotAll
  /-- `U` -/
  | swapGreed
  /-- `u`, which is read but makes no difference -/
  | unicode
  /-- `R` -/
  | returnEndsLine
  /-- `x` -/
  | freeSpacing
deriving DecidableEq, Repr

/-- The flag a letter stands for. -/
def Flag.ofChar? : Char → Option Flag
  | 'i' => some .ignoreCase
  | 'm' => some .multiLine
  | 's' => some .dotAll
  | 'U' => some .swapGreed
  | 'u' => some .unicode
  | 'R' => some .returnEndsLine
  | 'x' => some .freeSpacing
  | _ => none

namespace Flags

/-- The flags with one of them switched. The flag `u` is always on: where the engine switches it
off, its classes are those of ASCII, and expressions that could match half a character are
refused. -/
def switch (f : Flags) (flag : Flag) (on : Bool) : Flags :=
  match flag with
  | .ignoreCase => { f with ignoreCase := on }
  | .multiLine => { f with multiLine := on }
  | .dotAll => { f with dotAll := on }
  | .swapGreed => { f with swapGreed := on }
  | .freeSpacing => { f with freeSpacing := on }
  | .returnEndsLine => { f with returnEndsLine := on }
  | .unicode => f

/-- Drops white space, and comments up to the end of their line. -/
def dropSpace (inComment : Bool) : List Char → List Char
  | [] => []
  | c :: cs =>
    if inComment then dropSpace (c != '\n') cs
    else if Unicode.isWhite c then dropSpace false cs
    else if c == '#' then dropSpace true cs
    else c :: cs

/-- Skips what means nothing at this place. -/
def skip (f : Flags) (cs : List Char) : List Char :=
  if f.freeSpacing then dropSpace false cs else cs

@[simp] theorem skip_of_not_freeSpacing {f : Flags} {cs : List Char} (h : f.freeSpacing = false) :
    f.skip cs = cs := by
  simp [skip, h]

/-- Reads a list of flags and what ends it, a colon or a closing parenthesis. `seen` holds the
flags already read, `negated` whether the negation sign has been read and `dangling` whether it
came last. -/
def read (f : Flags) (seen : List Flag) (negated dangling : Bool) :
    List Char → Except Error (Flags × Bool × Char × List Char)
  | [] => .error .flagUnfinished
  | c :: cs =>
    if c == ':' || c == ')' then
      if dangling then .error .flagNegationDangling
      else .ok (f, seen.isEmpty && !negated, c, cs)
    else if c == '-' then
      if negated then .error .flagNegationRepeated
      else read f seen true true cs
    else
      match Flag.ofChar? c with
      | none => .error .flagUnknown
      | some flag =>
        if seen.contains flag then .error .flagDuplicate
        else read (f.switch flag !negated) (flag :: seen) negated false cs

end Flags

end PathRouter.Regex
