import PathRouter.Json.Basic
import PathRouter.Text.Quoted
import PathRouter.Decimal.Shortest

/-!
# What can be wrong with a JSON text

A text may break the grammar, end too early, or be well formed and not hold what is asked for. Only
the last case has a message, whose wording is in `DecodeError.message`.
-/

namespace PathRouter.Json

/-- What a message says about a value. -/
inductive Shape where
  /-- `null` -/
  | null
  /-- A truth value. -/
  | boolean (b : Bool)
  /-- An integer. -/
  | integer (n : Int)
  /-- Another number, with its text. -/
  | floating (text : String)
  /-- A string. -/
  | string (s : String)
  /-- An array. -/
  | sequence
  /-- An object. -/
  | map
deriving DecidableEq, Repr

namespace Shape

/-- The wording. -/
def text : Shape → String
  | null => "null"
  | boolean b => "boolean `" ++ (if b then "true" else "false") ++ "`"
  | integer n => "integer `" ++ String.ofList (Decimal.ofInt n) ++ "`"
  | floating t => "floating point `" ++ t ++ "`"
  | string s => "string " ++ Text.quoted s
  | sequence => "sequence"
  | map => "map"

/-- The shape of a value. `floatText` gives the text of a number from its bits. -/
def ofJson (floatText : UInt64 → List Char) : Json → Shape
  | .null => null
  | .bool b => boolean b
  | .int n => integer n
  | .float bits => floating (String.ofList (floatText bits))
  | .str s => string s
  | .arr _ => sequence
  | .obj _ => map

end Shape

/-- What a message asks for. -/
inductive Wanted where
  /-- A string. -/
  | string
  /-- A list. -/
  | sequence
  /-- A record with a name. -/
  | record (name : String)
deriving DecidableEq, Repr

/-- The wording. -/
def Wanted.text : Wanted → String
  | string => "a string"
  | sequence => "a sequence"
  | record name => "struct " ++ name

/-- Why a well formed value is not what is asked for. -/
inductive DecodeError where
  /-- A record lacks a field that has no default. -/
  | missingField (key : String)
  /-- A record has a field twice. -/
  | duplicateField (key : String)
  /-- A value of another kind stands in the place. -/
  | mismatch (found : Shape) (wanted : Wanted)
  /-- A record that is written as a list ends before a field that has no default. -/
  | tooShort (length : Nat) (name : String) (fields : Nat)
  /-- A record that is written as a list goes on after its last field. -/
  | tooLong (length : Nat)
  /-- The value has the right form and is refused for a reason of its own. -/
  | rejected (reason : String)
deriving DecidableEq, Repr

/-- The wording. -/
def DecodeError.message : DecodeError → String
  | missingField key => "missing field `" ++ key ++ "`"
  | duplicateField key => "duplicate field `" ++ key ++ "`"
  | mismatch found wanted => "invalid type: " ++ found.text ++ ", expected " ++ wanted.text
  | tooShort length name fields =>
    "invalid length " ++ toString length ++ ", expected struct " ++ name ++ " with "
      ++ toString fields ++ (if fields = 1 then " element" else " elements")
  | tooLong length => "invalid length " ++ toString length ++ ", expected fewer elements in array"
  | rejected reason => reason

/-- Why a text is not read. -/
inductive ReadError where
  /-- It breaks the grammar. -/
  | malformed
  /-- It ends too early. -/
  | unfinished
  /-- There is something to read from, but reading fails. -/
  | unreadable
  /-- It is well formed so far, and does not hold what is asked for. -/
  | data (e : DecodeError)
deriving DecidableEq, Repr

end PathRouter.Json
