import PathRouter.Pattern.Template
import PathRouter.Regex.Basic
import PathRouter.Text.Quoted

/-!
# Compiling patterns

A pattern without placeholders is compared as it stands. Any other pattern becomes an anchored
regular expression with one named group per placeholder: literal text is quoted, and each
placeholder turns into a group of its name around the fragment of its assertion.
-/

namespace PathRouter

/-- Why a pattern does not compile. -/
inductive PatternError where
  /-- The key of a placeholder names no assertion. -/
  | unknownAssertion (pattern key : String)
  /-- Two placeholders have one name. -/
  | duplicateCapture (pattern name : String)
  /-- The regular expression made of the pattern is not well formed. -/
  | invalid (pattern : String) (cause : Regex.Error)
deriving DecidableEq, Repr

/-- The wording of an error. Of the report on an expression that is not well formed, in which the
engine also shows the expression and marks the place, this has the last line, which names the
fault. -/
def PatternError.message : PatternError → String
  | unknownAssertion pattern key =>
      "Unknown assertion '" ++ key ++ "' in route pattern '" ++ pattern ++ "'"
  | duplicateCapture pattern name =>
      "Duplicate capture '" ++ name ++ "' in route pattern '" ++ pattern ++ "'"
  | invalid pattern cause => "Invalid route pattern '" ++ pattern ++ "': " ++ cause.message

/-- The texts recorded by a match, each under the name of its placeholder. -/
abbrev Captures := List (String × String)

/-- A regular expression and the names of the groups to report. -/
structure CompiledPattern where
  /-- The regular expression. -/
  regex : Regex
  /-- The names to report, in order. -/
  captureNames : List String
deriving DecidableEq

namespace CompiledPattern

/-- Compiles a regular expression given as text. -/
def ofParts (regex : String) (captureNames : List String) :
    Except Regex.Error CompiledPattern := do
  return { regex := ← Regex.ofString regex, captureNames }

/-- Whether a path matches. -/
def isMatch (p : CompiledPattern) (path : String) : Bool :=
  p.regex.isMatch path

/-- The captures of a match. A name without a group, or whose group took no part, is left out. -/
def captures? (p : CompiledPattern) (path : String) : Option Captures :=
  (p.regex.search path).map fun found =>
    p.captureNames.filterMap fun name => (found.found.lookup name).map fun text => (name, text)

/-- The form for diagnostics. -/
def diagnostic (p : CompiledPattern) : String :=
  "CompiledPattern \x7B regex: " ++ Text.quoted p.regex.source ++ ", captures: "
    ++ Text.quotedList p.captureNames ++ " \x7D"

end CompiledPattern

/-- How a route recognises paths. -/
inductive CompiledPath where
  /-- By equality with its own path. -/
  | literal
  /-- By a regular expression. -/
  | pattern (p : CompiledPattern)
deriving DecidableEq

namespace CompiledPath

/-- Whether paths are compared by equality. -/
def isLiteral : CompiledPath → Bool
  | literal => true
  | pattern _ => false

end CompiledPath

namespace Placeholder

/-- The assertion of a placeholder, if its key is known. -/
def assertion? (p : Placeholder) : Option Assertion :=
  match p.key with
  | none => some .segment
  | some key => Assertion.ofKey? (String.ofList key)

/-- The group of a placeholder in the regular expression. The name goes in as it is written. -/
def group (p : Placeholder) (a : Assertion) : List Char :=
  "(?P<".toList ++ p.name ++ '>' :: a.fragment.toList ++ [')']

end Placeholder

/-- The regular expression between the anchors, piece by piece. `seen` holds the names of the
placeholders before; an unknown key is reported before a repeated name. -/
def Template.expression (pattern : String) (seen : List (List Char)) :
    Template → Except PatternError (List Char)
  | [] => .ok []
  | .char c :: t => do return Regex.quote [c] ++ (← expression pattern seen t)
  | .placeholder p :: t =>
    match p.assertion? with
    | none => .error (.unknownAssertion pattern (String.ofList (p.key.getD [])))
    | some a =>
      if seen.contains p.name then .error (.duplicateCapture pattern (String.ofList p.name))
      else do return p.group a ++ (← expression pattern (p.name :: seen) t)

/-- Compiles a pattern. -/
def compilePath (pattern : String) : Except PatternError CompiledPath :=
  let template := Template.scan pattern.toList
  if template.placeholders.isEmpty then .ok .literal
  else do
    let expression ← template.expression pattern []
    match Regex.ofString (String.ofList ('^' :: expression ++ ['$'])) with
    | .error cause => .error (.invalid pattern cause)
    | .ok regex =>
      return .pattern { regex, captureNames := template.placeholders.map (String.ofList ·.name) }

end PathRouter
