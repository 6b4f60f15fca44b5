import PathRouter.Unicode.Ranges

/-!
# White space

The property *White_Space*, 25 characters. It is the class behind `\s`, the characters that
trimming removes, and the separators of words on an input line.
-/

namespace PathRouter.Unicode

/-- Runs of the property *White_Space*. -/
def whiteRuns : RangeTable := #[
  (0x9, 0xd), (0x20, 0x20), (0x85, 0x85), (0xa0, 0xa0), (0x1680, 0x1680), (0x2000, 0x200a),
  (0x2028, 0x2029), (0x202f, 0x202f), (0x205f, 0x205f), (0x3000, 0x3000)]

/-- The property *White_Space*. -/
def isWhite (c : Char) : Bool :=
  whiteRuns.covers c

/-- A text is blank when it holds white space only; the empty text is blank. -/
def isBlank (s : String) : Bool :=
  s.toList.all isWhite

end PathRouter.Unicode
