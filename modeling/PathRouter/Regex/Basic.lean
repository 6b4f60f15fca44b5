import PathRouter.Regex.Parser
import PathRouter.Regex.Search

/-!
# Regular expressions

A `Regex` is a text together with the expression it was read as. The text decides the expression,
so two of them are equal as soon as their texts are.
-/

namespace PathRouter

/-- A regular expression with the text it was read from. -/
structure Regex where
  /-- The text. -/
  source : String
  /-- The expression. -/
  node : Regex.Node
  /-- The expression is what the text reads as. -/
  parse_source : Regex.Node.parse source.toList = .ok node

namespace Regex

/-- Reads a regular expression. -/
def ofString (source : String) : Except Error Regex :=
  match h : Node.parse source.toList with
  | .ok node => .ok { source, node, parse_source := h }
  | .error e => .error e

@[ext] theorem ext {r s : Regex} (h : r.source = s.source) : r = s := by
  obtain ⟨source, m, hm⟩ := r
  obtain ⟨source', n, hn⟩ := s
  obtain rfl : source = source' := h
  obtain rfl : m = n := Except.ok.inj (hm.symm.trans hn)
  rfl

instance : DecidableEq Regex := fun r s =>
  if h : r.source = s.source then isTrue (ext h) else isFalse fun e => h (congrArg source e)

theorem ofString_source (r : Regex) : ofString r.source = .ok r := by
  unfold ofString
  split
  · next node h => exact congrArg Except.ok (ext rfl)
  · next e h => exact absurd (h.symm.trans r.parse_source) (by simp)

/-- Searches a text. -/
def search (r : Regex) (text : String) : Option Place :=
  r.node.search text.toList

/-- Whether some part of a text matches. -/
def isMatch (r : Regex) (text : String) : Bool :=
  (r.search text).isSome

/-- The names of the capture groups, in the order in which they open. -/
def groupNames (r : Regex) : List String :=
  r.node.groupNames

end Regex

end PathRouter
