import GridMachine.Text.Split

/-!
Options on a command line. An option has a long name and perhaps a letter; its value is attached to
it (`--name=value`, `-nvalue`, `-n=value`) or is the argument after it, which must not look like an
option. Arguments are read from the left, and the first that cannot be read ends the reading.
-/

namespace GridMachine.Cli

structure OptionSpec where
  name : String
  letter : Option Char := none
  /-- Whether the option may be given more than once. -/
  isRepeatable : Bool := false
  /-- The values that the option can have. -/
  accepts : String → Bool := fun _ => true

/-- Why the reading of arguments ends early. -/
inductive Stop where
  | usage
  /-- The version is asked for. -/
  | version
deriving DecidableEq

/-- What an argument looks like. -/
inductive Argument where
  | plain (text : String)
  /-- The mark after which no argument is an option. -/
  | separator
  | long (name : String) (attached : Option String)
  | short (letter : Char) (attached : Option String)

/-- What an argument looks like, given its characters. -/
def Argument.ofChars : List Char → Argument
  | ['-', '-'] => .separator
  | '-' :: '-' :: cs =>
      match Text.splitFirst? '=' cs with
      | some (name, value) => .long (.ofList name) (some (.ofList value))
      | none => .long (.ofList cs) none
  | '-' :: letter :: [] => .short letter none
  | '-' :: letter :: '=' :: cs => .short letter (some (.ofList cs))
  | '-' :: letter :: cs => .short letter (some (.ofList cs))
  | cs => .plain (.ofList cs)

def Argument.ofText (text : String) : Argument := .ofChars text.toList

/-- Whether an argument can be the value of the option before it. -/
def isValue (text : String) : Bool :=
  match Argument.ofText text with
  | .plain _ => true
  | _ => false

/-- The values of options by their long names, in the order in which they were given. -/
abbrev OptionValues := List (String × String)

namespace OptionValues

/-- The values of an option in order. -/
def all (values : OptionValues) (name : String) : List String :=
  (values.filter (·.1 = name)).map Prod.snd

/-- The value of an option that is given once. -/
def get? (values : OptionValues) (name : String) : Option String := values.lookup name

/-- The values with one more. -/
def add (values : OptionValues) (spec : OptionSpec) (value : String) : Except Stop OptionValues :=
  if !spec.accepts value then .error .usage
  else if !spec.isRepeatable && values.any (·.1 = spec.name) then .error .usage
  else .ok (values ++ [(spec.name, value)])

end OptionValues

/-- The options that a command knows. -/
structure OptionTable where
  specs : List OptionSpec
  /-- Whether it can be asked for the version. -/
  hasVersion : Bool := false

namespace OptionTable

/-- The option that an argument names, with the value attached to it. -/
def find (table : OptionTable) : Argument → Except Stop (OptionSpec × Option String)
  | .long name attached =>
      if table.hasVersion && name = "version" && attached.isNone then .error .version
      else
        match table.specs.find? (·.name = name) with
        | some spec => .ok (spec, attached)
        | none => .error .usage
  | .short letter attached =>
      if table.hasVersion && letter = 'V' then .error .version
      else
        match table.specs.find? (·.letter = some letter) with
        | some spec => .ok (spec, attached)
        | none => .error .usage
  | _ => .error .usage

/-- The options with which the arguments begin, and the arguments after them. -/
def read (table : OptionTable) (values : OptionValues) :
    List String → Except Stop (OptionValues × List String)
  | [] => .ok (values, [])
  | argument :: arguments =>
      match Argument.ofText argument with
      | .plain _ | .separator => .ok (values, argument :: arguments)
      | option => do
          match ← table.find option with
          | (spec, some value) => table.read (← values.add spec value) arguments
          | (spec, none) =>
              match arguments with
              | [] => throw .usage
              | value :: arguments =>
                  if isValue value then table.read (← values.add spec value) arguments
                  else throw .usage

end OptionTable

end GridMachine.Cli
