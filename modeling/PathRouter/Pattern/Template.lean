import PathRouter.Pattern.Assertion

/-!
# Placeholders in a pattern

A pattern is literal text with placeholders, a name in braces or a name and a key with a colon
between them. `Template.scan` splits a pattern into single literal characters and placeholders,
from left to right, and takes a placeholder wherever the text allows one. No character is lost:
`Template.text` gives the pattern back.
-/

namespace PathRouter

/-- A placeholder: its name, and the key of its assertion if it has one. -/
structure Placeholder where
  /-- The name, not empty and without colons and closing braces. -/
  name : List Char
  /-- The key, not empty and without closing braces. -/
  key : Option (List Char)
deriving DecidableEq, Repr

namespace Placeholder

/-- The written form. -/
def text (p : Placeholder) : List Char :=
  '\x7B' :: p.name ++ (match p.key with
    | none => []
    | some key => ':' :: key) ++ ['\x7D']

/-- The characters of a name. -/
def isNameChar (c : Char) : Bool :=
  c != ':' && c != '\x7D'

/-- The characters of a key. -/
def isKeyChar (c : Char) : Bool :=
  c != '\x7D'

/-- Reads a placeholder after its opening brace. -/
def read? (cs : List Char) : Option (Placeholder × List Char) :=
  let name := cs.takeWhile isNameChar
  if name.isEmpty then none
  else
    match cs.dropWhile isNameChar with
    | '\x7D' :: rest => some ({ name, key := none }, rest)
    | ':' :: cs =>
      let key := cs.takeWhile isKeyChar
      if key.isEmpty then none
      else
        match cs.dropWhile isKeyChar with
        | '\x7D' :: rest => some ({ name, key := some key }, rest)
        | _ => none
    | _ => none

/-- A placeholder takes at least one character off the text. -/
theorem length_lt_of_read? {cs rest : List Char} {p : Placeholder}
    (h : read? cs = some (p, rest)) :
    rest.length < cs.length := by
  have hname := (List.dropWhile_suffix isNameChar (l := cs)).length_le
  simp only [read?] at h
  split at h
  · simp at h
  · split at h
    · next heq =>
      obtain ⟨-, rfl⟩ := by simpa using h
      rw [heq, List.length_cons] at hname
      omega
    · next cs' heq =>
      have hkey := (List.dropWhile_suffix isKeyChar (l := cs')).length_le
      split at h
      · simp at h
      · split at h
        · next heq' =>
          obtain ⟨-, rfl⟩ := by simpa using h
          rw [heq, List.length_cons] at hname
          rw [heq', List.length_cons] at hkey
          omega
        · simp at h
    · simp at h

end Placeholder

/-- A piece of a pattern. -/
inductive Segment where
  /-- A character that stands for itself. -/
  | char (c : Char)
  /-- A placeholder. -/
  | placeholder (p : Placeholder)
deriving DecidableEq, Repr

/-- A pattern in pieces. -/
abbrev Template := List Segment

namespace Template

/-- The written form. -/
def text (t : Template) : List Char :=
  t.flatMap fun
    | .char c => [c]
    | .placeholder p => p.text

/-- The placeholders, from left to right. -/
def placeholders (t : Template) : List Placeholder :=
  t.filterMap fun
    | .char _ => none
    | .placeholder p => some p

/-- Splits a pattern into pieces. -/
def scan (cs : List Char) : Template :=
  match cs with
  | [] => []
  | c :: cs =>
    if c == '\x7B' then
      match h : Placeholder.read? cs with
      | some (p, rest) =>
        have := Placeholder.length_lt_of_read? h
        .placeholder p :: scan rest
      | none => .char c :: scan cs
    else .char c :: scan cs
termination_by cs.length

end Template

/-- Whether a pattern has a placeholder. -/
def hasPlaceholder (pattern : String) : Bool :=
  !(Template.scan pattern.toList).placeholders.isEmpty

end PathRouter
