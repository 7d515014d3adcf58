/-!
# Arguments

Arguments of a command line are options and positional arguments. A long option starts with two
dashes and may carry its value behind an equals sign; short options are single letters behind one
dash, and several may stand together, the last of them with its value right behind it. An option
that needs a value and carries none takes the next argument, whatever that is. Two dashes alone end
the options.

Main definitions:

- `Arguments.read?`: the options and positional arguments of a list.
-/
namespace CodeGraph

/-- An option that a command knows. -/
structure OptionForm where
  name : String
  letter : Option Char := none
  takesValue : Bool := false
  deriving DecidableEq, Repr

/-- The arguments of a command, taken apart. Values stand in the order in which they were given. -/
structure Arguments where
  flags : List String := []
  values : List (String × String) := []
  positional : List String := []
  deriving DecidableEq, Repr

namespace Arguments

/-- Whether a flag was given. -/
def has (a : Arguments) (flag : String) : Bool := a.flags.contains flag

/-- The value of an option; the last one counts. -/
def value? (a : Arguments) (name : String) : Option String :=
  (a.values.reverse.find? fun v => v.1 == name).map Prod.snd

/-- Note a flag. -/
def addFlag (a : Arguments) (flag : String) : Arguments := { a with flags := a.flags ++ [flag] }

/-- Note the value of an option. -/
def addValue (a : Arguments) (name value : String) : Arguments :=
  { a with values := a.values ++ [(name, value)] }

/-- What an option on the command line says: the arguments with it, and the option whose value is
the next argument, if there is one. -/
abbrev Reading := Arguments × Option String

/-- A long option without its dashes. -/
def readLong? (forms : List OptionForm) (a : Arguments) (cs : List Char) : Option Reading := do
  let name := String.ofList (cs.takeWhile (· != '='))
  let form ← forms.find? fun f => f.name == name
  match cs.dropWhile (· != '='), form.takesValue with
  | _ :: value, true => return (a.addValue name (String.ofList value), none)
  | _ :: _, false => none
  | [], true => return (a, some name)
  | [], false => return (a.addFlag name, none)

/-- Short options without their dash. -/
def readShort? (forms : List OptionForm) (a : Arguments) : List Char → Option Reading
  | [] => some (a, none)
  | c :: cs => do
    let form ← forms.find? fun f => f.letter == some c
    match cs, form.takesValue with
    | [], true => return (a, some form.name)
    | value, true => return (a.addValue form.name (String.ofList value), none)
    | _, false => readShort? forms (a.addFlag form.name) cs

/-- The options that a single argument holds; none when it is a positional one. -/
def readOption? (forms : List OptionForm) (a : Arguments) (arg : String) :
    Option (Option Reading) :=
  match arg.toList with
  | '-' :: '-' :: cs => some (readLong? forms a cs)
  | '-' :: c :: cs => some (readShort? forms a (c :: cs))
  | _ => none

/-- Read a list of arguments. The flag tells whether options may follow positional arguments. -/
def readFrom? (forms : List OptionForm) (mixed : Bool) (a : Arguments) :
    List String → Option Arguments
  | [] => some a
  | arg :: rest =>
    if arg = "--" then some { a with positional := a.positional ++ rest }
    else match readOption? forms a arg with
      | none =>
        if mixed then readFrom? forms mixed { a with positional := a.positional ++ [arg] } rest
        else some { a with positional := a.positional ++ arg :: rest }
      | some none => none
      | some (some (b, none)) => readFrom? forms mixed b rest
      | some (some (b, some name)) =>
        match rest with
        | [] => none
        | value :: rest => readFrom? forms mixed (b.addValue name value) rest

/-- The options and positional arguments of a list. -/
def read? (forms : List OptionForm) (mixed : Bool) (args : List String) : Option Arguments :=
  readFrom? forms mixed {} args

end Arguments

end CodeGraph
