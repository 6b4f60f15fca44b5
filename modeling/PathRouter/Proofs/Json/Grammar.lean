import PathRouter.Json.Printer
import PathRouter.Json.Reader

/-!
# The grammar of JSON texts

Which texts are JSON, and which values they stand for, said without reading them.  A text has many
freedoms that make no difference: white space between the parts, the order of the members of an
object, and the written form of every character of a string.

* `StringText` — the texts of a string, with any mixture of written forms; `AnyStringText` — the
  texts of all strings, among them those with half a pair of UTF-16 units, which stand for no
  string;
* `ItemsText`, `MembersText` — the inside of arrays and objects, for any texts of elements, keys
  and values;
* `ValueText` — the texts of a value without numbers in double precision; `AnyText` — the texts of
  all values, with numbers of any size and nested to any depth.
-/

namespace PathRouter.Json

variable {α : Type}

/-! ## White space -/

/-- Whether a text is white space. -/
def allBlank (b : List Char) : Bool :=
  b.all isBlank

/-- What stands in front of an element or a member: white space, and a comma unless it is the first
one. -/
inductive Separates : Bool → List Char → Prop where
  /-- In front of the first one. -/
  | first {b : List Char} (hb : allBlank b = true) : Separates true b
  /-- In front of the others. -/
  | next {b b' : List Char} (hb : allBlank b = true) (hb' : allBlank b' = true) :
    Separates false (b ++ ',' :: b')

/-- A colon between a key and its value, with white space around it. -/
inductive IsColon : List Char → Prop where
  /-- White space, a colon, and white space. -/
  | mk {b b' : List Char} (hb : allBlank b = true) (hb' : allBlank b' = true) :
    IsColon (b ++ ':' :: b')

/-! ## Strings -/

/-- A hexadecimal digit and its value. -/
inductive HexDigit : Char → Nat → Prop where
  /-- A digit, or a small letter. -/
  | lower {n : Nat} (hn : n < 16) : HexDigit n.digitChar n
  /-- A digit, or a capital letter. -/
  | upper {n : Nat} (hn : n < 16) : HexDigit n.digitChar.toUpper n

/-- Four hexadecimal digits and the UTF-16 unit they stand for. -/
inductive CodeText : List Char → Nat → Prop where
  /-- The digits with the highest value come first. -/
  | mk {a b c d : Char} {i j k l : Nat} (ha : HexDigit a i) (hb : HexDigit b j) (hc : HexDigit c k)
    (hd : HexDigit d l) : CodeText [a, b, c, d] (16 * (16 * (16 * i + j) + k) + l)

/-- The letters that stand for a character after a backslash, and these characters. -/
def shortForms : List (Char × Char) :=
  [('"', '"'), ('\\', '\\'), ('/', '/'), ('b', '\x08'), ('f', '\x0c'), ('n', '\n'), ('r', '\r'),
    ('t', '\t')]

/-- Whether a character may stand for itself in a string. -/
def isPlain (c : Char) : Bool :=
  c ≠ '"' && c ≠ '\\' && 32 ≤ c.toNat

/-- The written forms of a character in a string. -/
inductive CharText : List Char → Char → Prop where
  /-- The character itself. -/
  | plain {c : Char} (hc : isPlain c = true) : CharText [c] c
  /-- A backslash and a letter. -/
  | short {letter c : Char} (h : (letter, c) ∈ shortForms) : CharText ['\\', letter] c
  /-- Its code. -/
  | code {digits : List Char} {c : Char} (h : CodeText digits c.toNat) :
    CharText ('\\' :: 'u' :: digits) c
  /-- A pair of codes. -/
  | pair {lead trail : List Char} {i j : Nat} {c : Char} (hlead : CodeText lead (0xD800 + i))
    (hi : i < 1024)
    (htrail : CodeText trail (0xDC00 + j)) (hj : j < 1024)
      (hc : c.toNat = 0x10000 + i * 1024 + j) :
    CharText ('\\' :: 'u' :: lead ++ '\\' :: 'u' :: trail) c

/-- The written forms of some characters, one after the other. -/
inductive CharsText : List Char → List Char → Prop where
  /-- There are no characters. -/
  | nil : CharsText [] []
  /-- A character, and more characters. -/
  | cons {text tail : List Char} {c : Char} {cs : List Char} (hc : CharText text c)
    (hcs : CharsText tail cs) :
    CharsText (text ++ tail) (c :: cs)

/-- The texts of a string. -/
inductive StringText : List Char → String → Prop where
  /-- Its characters in quotation marks. -/
  | mk {text : List Char} {s : String} (h : CharsText text s.toList) :
    StringText ('"' :: text ++ ['"']) s

/-- What may stand between quotation marks, whether it stands for a string or not. -/
inductive AnyCharsText : List Char → Prop where
  /-- Nothing. -/
  | nil : AnyCharsText []
  /-- A character, and more. -/
  | plain {c : Char} {tail : List Char} (hc : isPlain c = true) (htail : AnyCharsText tail) :
    AnyCharsText (c :: tail)
  /-- A backslash and a letter, and more. -/
  | short {letter c : Char} {tail : List Char} (h : (letter, c) ∈ shortForms)
    (htail : AnyCharsText tail) :
    AnyCharsText ('\\' :: letter :: tail)
  /-- The code of any unit, and more. -/
  | code {digits : List Char} {n : Nat} {tail : List Char} (h : CodeText digits n)
    (htail : AnyCharsText tail) :
    AnyCharsText ('\\' :: 'u' :: digits ++ tail)

/-- What is written like a string. -/
inductive AnyStringText : List Char → Prop where
  /-- Anything in quotation marks. -/
  | mk {text : List Char} (h : AnyCharsText text) : AnyStringText ('"' :: text ++ ['"'])

/-! ## Numbers -/

/-- Whether a text is a row of digits. -/
def areDigits (digits : List Char) : Bool :=
  !digits.isEmpty && digits.all Char.isDigit

/-- The integer part of a number. -/
inductive WholeText : List Char → Prop where
  /-- A zero. -/
  | zero : WholeText ['0']
  /-- Digits, the first of which is no zero. -/
  | digits {c : Char} {cs : List Char} (hc : c ≠ '0') (h : areDigits (c :: cs) = true) :
    WholeText (c :: cs)

/-- The fraction of a number, which may be missing. -/
inductive FractionText : List Char → Prop where
  /-- No fraction. -/
  | missing : FractionText []
  /-- A point and digits. -/
  | mk {digits : List Char} (h : areDigits digits = true) : FractionText ('.' :: digits)

/-- The exponent of a number, which may be missing. -/
inductive ExponentText : List Char → Prop where
  /-- No exponent. -/
  | missing : ExponentText []
  /-- A letter, a sign if there is one, and digits. -/
  | mk {letter : Char} {sign digits : List Char} (hletter : letter ∈ ['e', 'E'])
    (hsign : sign ∈ [[], ['+'], ['-']]) (h : areDigits digits = true) :
      ExponentText (letter :: sign ++ digits)

/-- The texts of numbers. -/
inductive NumberText : List Char → Prop where
  /-- A sign if there is one, the integer part, and a fraction and an exponent if there are
  such. -/
  | mk {sign whole fraction exponent : List Char} (hsign : sign ∈ [[], ['-']])
    (hwhole : WholeText whole)
    (hfraction : FractionText fraction) (hexponent : ExponentText exponent) :
    NumberText (sign ++ (whole ++ (fraction ++ exponent)))

/-! ## Arrays and objects -/

/-- The elements of an array that are still to come, and its closing bracket. -/
inductive ItemsText (item : List Char → α → Prop) : Bool → List Char → List α → Prop where
  /-- There are no more elements. -/
  | close {first : Bool} {b : List Char} (hb : allBlank b = true) :
    ItemsText item first (b ++ [']']) []
  /-- An element comes next. -/
  | item {first : Bool} {separator text tail : List Char} {a : α} {as : List α}
    (hseparator : Separates first separator) (htext : item text a)
    (htail : ItemsText item false tail as) :
      ItemsText item first (separator ++ (text ++ tail)) (a :: as)

/-- The members of an object that are still to come, and its closing brace. -/
inductive MembersText (key : List Char → String → Prop) (value : List Char → α → Prop) :
    Bool → List Char → List (String × α) → Prop where
  /-- There are no more members. -/
  | close {first : Bool} {b : List Char} (hb : allBlank b = true) :
    MembersText key value first (b ++ ['\x7D']) []
  /-- A member comes next. -/
  | member {first : Bool} {separator keyText colon text tail : List Char} {k : String} {a : α}
    {ms : List (String × α)} (hseparator : Separates first separator) (hkey : key keyText k)
    (hcolon : IsColon colon) (htext : value text a) (htail : MembersText key value false tail ms) :
    MembersText key value first (separator ++ (keyText ++ (colon ++ (text ++ tail))))
      ((k, a) :: ms)

/-- The texts of an array. -/
inductive ArrayText (item : List Char → α → Prop) : List Char → List α → Prop where
  /-- The elements in brackets. -/
  | mk {text : List Char} {as : List α} (h : ItemsText item true text as) :
    ArrayText item ('[' :: text) as

/-! ## Values -/

/-- The texts of a value. The members of an object may stand in any order. -/
inductive ValueText : List Char → Json → Prop where
  /-- `null` -/
  | null : ValueText ['n', 'u', 'l', 'l'] null
  /-- `true` -/
  | bool_true : ValueText ['t', 'r', 'u', 'e'] (bool true)
  /-- `false` -/
  | bool_false : ValueText ['f', 'a', 'l', 's', 'e'] (bool false)
  /-- The digits of an integer. -/
  | int (n : Int) : ValueText (Decimal.ofInt n) (int n)
  /-- A string. -/
  | str {text : List Char} {s : String} (h : StringText text s) : ValueText text (str s)
  /-- An array. -/
  | arr {text : List Char} {items : List Json} (h : ItemsText ValueText true text items) :
    ValueText ('[' :: text) (arr items)
  /-- An object. -/
  | obj {text : List Char} {ms members : List (String × Json)}
    (h : MembersText StringText ValueText true text ms)
    (horder : ms.Perm members) : ValueText ('\x7B' :: text) (obj members)

/-- The texts of all values. -/
inductive AnyText : List Char → Prop where
  /-- `null`, `true` and `false` -/
  | word {word : String} (h : word ∈ ["null", "true", "false"]) : AnyText word.toList
  /-- A number. -/
  | number {text : List Char} (h : NumberText text) : AnyText text
  /-- A string. -/
  | string {text : List Char} (h : AnyStringText text) : AnyText text
  /-- An array. -/
  | array {text : List Char} {items : List Unit} (h : ItemsText (fun text _ =>
      AnyText text) true text items) :
    AnyText ('[' :: text)
  /-- An object. -/
  | object {text : List Char} {ms : List (String × Unit)}
    (h :
      MembersText (fun text _ => AnyStringText text) (fun text _ => AnyText text) true text ms) :
    AnyText ('\x7B' :: text)

end PathRouter.Json
