/-!
# Command lines

Options have a long name, which may carry its value after an equality sign, and most of them a
short one, which may be followed by its value at once. An option may be given once. What stands
behind two dashes is never an option.
-/

namespace PathRouter

/-- An option. -/
structure OptionName where
  /-- The long name. -/
  long : String
  /-- The short name, if there is one. -/
  short : Option Char := none
  /-- Whether a value belongs to it. -/
  hasValue : Bool := true
deriving DecidableEq, Repr

/-- What an argument stands for. -/
inductive Argument where
  /-- An option, with the value in the same argument if there is one. -/
  | option (name : OptionName) (attached : Option String)
  /-- Two dashes. -/
  | endOfOptions
  /-- A plain argument. -/
  | plain (text : String)
  /-- An option that does not exist. -/
  | unknown
deriving DecidableEq, Repr

namespace Argument

/-- The value after the short name of an option. -/
def attachedShort (rest : List Char) : Option String :=
  match rest with
  | [] => none
  | '=' :: rest => some (String.ofList rest)
  | rest => some (String.ofList rest)

/-- The value after the long name of an option. -/
def attachedLong (rest : List Char) : Option String :=
  match rest with
  | [] => none
  | _ :: value => some (String.ofList value)

/-- What an argument stands for. -/
def read (options : List OptionName) (arg : String) : Argument :=
  match arg.toList with
  | ['-', '-'] => endOfOptions
  | '-' :: '-' :: cs =>
    let name := String.ofList (cs.takeWhile (· != '='))
    match options.find? fun o => o.long == name with
    | none => unknown
    | some o => option o (attachedLong (cs.dropWhile (· != '=')))
  | '-' :: c :: cs =>
    match options.find? fun o => o.short == some c with
    | none => unknown
    | some o => option o (attachedShort cs)
  | _ => plain arg

end Argument

/-- Options with their values and plain arguments, in the order given. -/
structure Arguments where
  /-- The options by their long names. -/
  values : List (String × String) := []
  /-- The plain arguments. -/
  plain : List String := []
deriving DecidableEq, Repr

namespace Arguments

/-- The value of an option. -/
def value? (a : Arguments) (long : String) : Option String :=
  a.values.lookup long

/-- Adds an option, unless it was given before. -/
def addOption (a : Arguments) (name : OptionName) (value : String) : Option Arguments :=
  if (a.value? name.long).isSome then none
  else some { a with values := a.values ++ [(name.long, value)] }

/-- Whether an argument can be the value of the option before it. -/
def isValue (arg : String) : Bool :=
  match arg.toList with
  | '-' :: _ :: _ => false
  | _ => true

/-- Reads all arguments. -/
def read (options : List OptionName) : Arguments → List String → Option Arguments
  | a, [] => some a
  | a, arg :: args =>
    match Argument.read options arg with
    | .unknown => none
    | .endOfOptions => some { a with plain := a.plain ++ args }
    | .plain text => read options { a with plain := a.plain ++ [text] } args
    | .option name attached =>
      match name.hasValue, attached, args with
      | true, some value, args =>
        (a.addOption name value).bind fun a => read options a args
      | true, none, value :: args =>
        if isValue value then (a.addOption name value).bind fun a => read options a args else none
      | false, none, args => (a.addOption name "").bind fun a => read options a args
      | _, _, _ => none

theorem read_of_unknown {options : List OptionName} {a : Arguments} {arg : String}
    {args : List String} (h : Argument.read options arg = .unknown) :
    read options a (arg :: args) = none := by
  rw [read, h]

/-- Reads options up to the first plain argument, which is given with what follows it. -/
def readLeading (options : List OptionName) :
    Arguments → List String → Option (Arguments × String × List String)
  | _, [] => none
  | a, arg :: args =>
    match Argument.read options arg with
    | .unknown | .endOfOptions => none
    | .plain text => some (a, text, args)
    | .option name attached =>
      match name.hasValue, attached, args with
      | true, some value, args =>
        (a.addOption name value).bind fun a => readLeading options a args
      | true, none, value :: args =>
        if isValue value then (a.addOption name value).bind fun a => readLeading options a args
        else none
      | false, none, args => (a.addOption name "").bind fun a => readLeading options a args
      | _, _, _ => none

/-! ## Reading one argument more -/

variable {options : List OptionName} {a : Arguments} {arg value : String} {args : List String}
  {name : OptionName}

theorem read_of_endOfOptions (h : Argument.read options arg = .endOfOptions) :
    read options a (arg :: args) = some { a with plain := a.plain ++ args } := by
  rw [read, h]

theorem read_of_plain {text : String} (h : Argument.read options arg = .plain text) :
    read options a (arg :: args) = read options { a with plain := a.plain ++ [text] } args := by
  rw [read, h]

/-- An option with its value in the same argument. -/
theorem read_of_attached (h : Argument.read options arg = .option name (some value))
    (hname : name.hasValue = true) :
    read options a (arg :: args) = (a.addOption name value).bind fun a => read options a args := by
  rw [read, h]
  simp only [hname]

/-- An option with its value in the argument after it. -/
theorem read_of_separate (h : Argument.read options arg = .option name none)
    (hname : name.hasValue = true) :
    read options a (arg :: value :: args) = if isValue value = true then
      (a.addOption name value).bind fun a => read options a args else none := by
  rw [read, h]
  simp only [hname]

/-- An option that has no value. -/
theorem read_of_flag (h : Argument.read options arg = .option name none)
    (hname : name.hasValue = false) :
    read options a (arg :: args) = (a.addOption name "").bind fun a => read options a args := by
  rw [read, h]
  simp only [hname]

theorem read_of_surplus (h : Argument.read options arg = .option name (some value))
    (hname : name.hasValue = false) : read options a (arg :: args) = none := by
  rw [read, h]
  simp only [hname]

end Arguments

end PathRouter
