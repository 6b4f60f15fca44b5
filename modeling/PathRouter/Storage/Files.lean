/-!
# Files

A store of files and directories, as the program sees them from its working directory. A file is
text in UTF-8, or it holds bytes that belong to no character as well. Paths are read relative to
the working directory or to the root; these two and the directories above the working directory
always exist.
-/

namespace PathRouter

/-- What a file holds. -/
inductive Content where
  /-- Text. -/
  | text (s : String)
  /-- Characters and, as `none`, bytes that belong to no character. There is at least one such
  byte. -/
  | broken (units : List (Option Char))
deriving DecidableEq, Repr

namespace Content

/-- The characters that bytes stand for, from a position on. A byte that starts none of them is
stray. -/
def decode (bytes : ByteArray) : (fuel : Nat) → (position : Nat) → List (Option Char)
  | 0, _ => []
  | fuel + 1, position =>
    if bytes.size ≤ position then []
    else
      match bytes.utf8DecodeChar? position with
      | none => none :: decode bytes fuel (position + 1)
      | some c => some c :: decode bytes fuel (position + c.utf8Size)

/-- What a file with given bytes holds. -/
def ofBytes (bytes : List UInt8) : Content :=
  let units := decode ⟨bytes.toArray⟩ bytes.length 0
  match units.mapM id with
  | some cs => text (String.ofList cs)
  | none => broken units

/-- A character that does not occur, to stand for stray bytes. It is of the private ones, if these
are not all in use. -/
def freshMark (units : List (Option Char)) : Char :=
  (((List.range (units.length + 1)).map fun n => Char.ofNat (0xE000 + n)).find? fun c =>
    !units.contains (some c)).getD '\uE000'

/-- The characters of a file, with one that stands for stray bytes if there are any. -/
def marked : Content → List Char × Option Char
  | text s => (s.toList, none)
  | broken units =>
    let mark := freshMark units
    (units.map fun u => u.getD mark, some mark)

end Content

/-- A file or a directory. -/
inductive Entry where
  /-- A file. -/
  | file (content : Content)
  /-- A directory. -/
  | directory
deriving DecidableEq, Repr

/-- Why a file cannot be used. -/
inductive FileError where
  /-- There is no such file or directory. -/
  | missing
  /-- A file stands where a directory is needed. -/
  | notDirectory
  /-- A directory stands where a file is needed. -/
  | isDirectory
  /-- The file is not text. -/
  | notText
deriving DecidableEq, Repr

/-- The wording. -/
def FileError.message : FileError → String
  | missing => "No such file or directory (os error 2)"
  | notDirectory => "Not a directory (os error 20)"
  | isDirectory => "Is a directory (os error 21)"
  | notText => "stream did not contain valid UTF-8"

/-- A place in the store: the names of the directories on the way to it, and its own name. The way
starts at the working directory, which has no names, or at the root, whose name is a slash. -/
abbrev Location := List String

/-- Whether a place is the root, the working directory, or one of the directories above it. -/
def Location.isBase (l : Location) : Bool :=
  l == ["/"] || l.all (· == "..")

/-- A store of files and directories. -/
structure Files where
  /-- The entries, each place at most once. -/
  entries : List (Location × Entry) := []
deriving DecidableEq, Repr

namespace Files

/-- What is at a place. -/
def at? (f : Files) (l : Location) : Option Entry :=
  if Location.isBase l then some .directory else f.entries.lookup l

/-- Puts an entry at a place. -/
def set (f : Files) (l : Location) (e : Entry) : Files :=
  ⟨(l, e) :: f.entries.filter (·.1 ≠ l)⟩

theorem lookup_filter_ne {l m : Location} (h : m ≠ l) (es : List (Location × Entry)) :
    (es.filter (·.1 ≠ l)).lookup m = es.lookup m := by
  induction es with
  | nil => rfl
  | cons p es ih =>
    obtain ⟨k, v⟩ := p
    by_cases hk : k = l
    · have hmk : (m == k) = false := by rw [hk]; exact beq_false_of_ne h
      rw [List.filter_cons_of_neg (by simpa using hk), ih]
      rw [List.lookup_cons, hmk]
    · rw [List.filter_cons_of_pos (by simpa using hk)]
      rw [List.lookup_cons, List.lookup_cons, ih]

theorem at?_set {f : Files} {l m : Location} {e : Entry} (h : Location.isBase l = false) :
    (f.set l e).at? m = if m = l then some e else f.at? m := by
  by_cases hm : m = l
  · subst hm
    simp [at?, set, h]
  · have hml : (m == l) = false := beq_false_of_ne hm
    have key := lookup_filter_ne hm f.entries
    simp only [at?, set, hm, if_false, List.lookup_cons, hml, key]

/-- Goes on from a place to the place that a part of a path names there. -/
def descend (f : Files) (l : Location) (name : String) : Except FileError Location :=
  match f.at? l with
  | none => .error .missing
  | some (.file _) => .error .notDirectory
  | some .directory =>
    if name = "" ∨ name = "." then .ok l
    else if name = ".." then
      if l = ["/"] then .ok l else if Location.isBase l then .ok (l ++ [".."]) else .ok l.dropLast
    else .ok (l ++ [name])

/-- The parts of a path between its slashes. -/
def parts (path : String) : List String :=
  (path.toList.splitOn '/').map String.ofList

/-- The place where the way along a path starts. -/
def start (path : String) : Location :=
  if path.toList.head? = some '/' then ["/"] else []

/-- The place that a path names. The directories on the way must exist. There are no links, and it
is not known where below the root the working directory is: a path from the root and a path from
the working directory never name the same place. -/
def locate (f : Files) (path : String) : Except FileError Location :=
  if path.isEmpty then .error .missing else (parts path).foldlM f.descend (start path)

/-- What a path names. -/
def find (f : Files) (path : String) : Except FileError Entry :=
  match f.locate path with
  | .error e => .error e
  | .ok l =>
    match f.at? l with
    | none => .error .missing
    | some e => .ok e

/-- Whether a path names a file. -/
def isFile (f : Files) (path : String) : Bool :=
  match f.find path with
  | .ok (.file _) => true
  | _ => false

/-- The text of a file. -/
def readText (f : Files) (path : String) : Except FileError String :=
  match f.find path with
  | .error e => .error e
  | .ok .directory => .error .isDirectory
  | .ok (.file (.broken _)) => .error .notText
  | .ok (.file (.text s)) => .ok s

/-- A path without the slashes at its end. -/
def withoutSlashes (path : String) : String :=
  String.ofList (path.toList.reverse.dropWhile (· == '/')).reverse

/-- Writes a file, which is made if it does not exist. A path with a slash at its end names a
directory, whether there is one or not. -/
def write (f : Files) (path : String) (content : Content) : Except FileError Files :=
  if path.toList.getLast? = some '/' then
    if withoutSlashes path = "" then .error .isDirectory
    else
      match f.locate (withoutSlashes path) with
      | .error e => .error e
      | .ok _ => .error .isDirectory
  else
    match f.locate path with
    | .error e => .error e
    | .ok l =>
      match f.at? l with
      | some .directory => .error .isDirectory
      | _ => .ok (f.set l (.file content))

/-- Opens a file for writing. It is made if it does not exist, and what it held is gone. -/
def create (f : Files) (path : String) : Except FileError Files :=
  f.write path (.text "")

/-- Makes directories at a place and on the way to it where there is nothing. -/
def makeWay (f : Files) (l : Location) : List String → Files
  | [] => f
  | name :: names =>
    let l := l ++ [name]
    makeWay (if (f.at? l).isSome then f else f.set l .directory) l names

/-- Makes a directory, and those on the way to it. -/
def makeDirectory (f : Files) (path : String) : Files :=
  f.makeWay (start path) ((parts path).filter fun n => n ≠ "" ∧ n ≠ ".")

/-- The files with their places. -/
def contents (f : Files) : List (Location × Content) :=
  f.entries.filterMap fun
    | (l, .file c) => some (l, c)
    | (_, .directory) => none

end Files

end PathRouter
