/-!
# What can be wrong with the text of a regular expression

One constructor per fault. `Error.message` holds the wording. The last two faults are limits: they
are reported only for a text without any other fault.
-/

namespace PathRouter.Regex

/-- A fault in the text of a regular expression. -/
inductive Error where
  /-- A group is still open at the end. -/
  | groupUnclosed
  /-- A parenthesis closes no group. -/
  | groupUnopened
  /-- A group name does not end. -/
  | nameUnclosed
  /-- A group name holds a character that names cannot hold. -/
  | nameInvalid
  /-- A group name is empty. -/
  | nameEmpty
  /-- A group name is taken. -/
  | nameDuplicate
  /-- A bracketed set does not end. -/
  | classUnclosed
  /-- A range runs downwards. -/
  | classRangeReversed
  /-- An end of a range is no single character. -/
  | classRangeEnd
  /-- A condition on a place stands in a bracketed set. -/
  | classEscape
  /-- Nothing stands before a repetition operator. -/
  | repetitionMissing
  /-- The braces of a repetition do not end. -/
  | repetitionUnclosed
  /-- The braces of a repetition hold no number. -/
  | repetitionNumber
  /-- A repetition asks for more copies than it allows. -/
  | repetitionReversed
  /-- A number is too large. -/
  | numberTooLarge
  /-- A backslash stands before a character with which it has no meaning. -/
  | escapeUnknown
  /-- An escape is cut off by the end. -/
  | escapeUnfinished
  /-- A character code holds something other than a hexadecimal digit. -/
  | hexDigit
  /-- A character code has no digits. -/
  | hexEmpty
  /-- A character code names no character. -/
  | hexRange
  /-- Back references are not part of the language. -/
  | backreference
  /-- Looking around is not part of the language. -/
  | lookAround
  /-- A flag is not known. -/
  | flagUnknown
  /-- A flag is given twice. -/
  | flagDuplicate
  /-- The flags are negated twice. -/
  | flagNegationRepeated
  /-- A negation has no flag after it. -/
  | flagNegationDangling
  /-- The flags do not end. -/
  | flagUnfinished
  /-- A named word boundary does not end. -/
  | boundaryUnclosed
  /-- The name of a word boundary is not known. -/
  | boundaryUnknown
  /-- A brace after a word boundary is cut off by the end. -/
  | boundaryUnfinished
  /-- A character property is not known. -/
  | propertyUnknown
  /-- Groups, brackets and operators are nested too deep. -/
  | tooDeep
  /-- The expression is too large for a search. -/
  | tooLarge
deriving DecidableEq, Repr

/-- How deep an expression may be nested. -/
def maxDepth : Nat := 250

/-- The memory that an expression may take, in bytes. -/
def maxFootprint : Nat := 10485760

/-- The wording of a fault. -/
def Error.message : Error → String
  | groupUnclosed => "unclosed group"
  | groupUnopened => "unopened group"
  | nameUnclosed => "unclosed capture group name"
  | nameInvalid => "invalid capture group character"
  | nameEmpty => "empty capture group name"
  | nameDuplicate => "duplicate capture group name"
  | classUnclosed => "unclosed character class"
  | classRangeReversed => "invalid character class range, the start must be <= the end"
  | classRangeEnd => "invalid range boundary, must be a literal"
  | classEscape => "invalid escape sequence found in character class"
  | repetitionMissing => "repetition operator missing expression"
  | repetitionUnclosed => "unclosed counted repetition"
  | repetitionNumber => "repetition quantifier expects a valid decimal"
  | repetitionReversed => "invalid repetition count range, the start must be <= the end"
  | numberTooLarge => "decimal literal invalid"
  | escapeUnknown => "unrecognized escape sequence"
  | escapeUnfinished => "incomplete escape sequence, reached end of pattern prematurely"
  | hexDigit => "invalid hexadecimal digit"
  | hexEmpty => "hexadecimal literal empty"
  | hexRange => "hexadecimal literal is not a Unicode scalar value"
  | backreference => "backreferences are not supported"
  | lookAround => "look-around, including look-ahead and look-behind, is not supported"
  | flagUnknown => "unrecognized flag"
  | flagDuplicate => "duplicate flag"
  | flagNegationRepeated => "flag negation operator repeated"
  | flagNegationDangling => "dangling flag negation operator"
  | flagUnfinished => "expected flag but got end of regex"
  | boundaryUnclosed =>
    "special word boundary assertion is either unclosed or contains an invalid character"
  | boundaryUnknown =>
    "unrecognized special word boundary assertion, valid choices are: " ++
      "start, end, start-half or end-half"
  | boundaryUnfinished =>
    "found either the beginning of a special word boundary or a bounded repetition on a " ++
      "\\b with an opening brace, but no closing brace"
  | propertyUnknown => "Unicode property not found"
  | tooDeep =>
    "exceed the maximum number of nested parentheses/brackets (" ++ toString maxDepth ++ ")"
  | tooLarge => "Compiled regex exceeds size limit of " ++ toString maxFootprint ++ " bytes."

end PathRouter.Regex
