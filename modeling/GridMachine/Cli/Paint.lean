/-!
Colours of texts on a terminal. A coloured text is closed by a reset; where the text itself holds a
reset, the colour is taken up again after it, so that a coloured text may be put into another.
-/

namespace GridMachine.Cli

inductive Colour where
  | red
  | green
  | yellow
  | cyan
deriving DecidableEq

/-- The code of a colour. -/
def Colour.code : Colour → List Char
  | .red => ['3', '1']
  | .green => ['3', '2']
  | .yellow => ['3', '3']
  | .cyan => ['3', '6']

/-- What switches a colour on. -/
def Colour.start (colour : Colour) : List Char := ['\x1b', '['] ++ colour.code ++ ['m']

/-- What switches all colours off. -/
def reset : List Char := ['\x1b', '[', '0', 'm']

/-- The text with `code` after every reset in it. -/
def resume (code : List Char) : List Char → List Char
  | '\x1b' :: '[' :: '0' :: 'm' :: cs => reset ++ code ++ resume code cs
  | c :: cs => c :: resume code cs
  | [] => []

/-- The text in a colour. -/
def Colour.apply (colour : Colour) (text : String) : String :=
  .ofList (colour.start ++ resume colour.start text.toList ++ reset)

/-- The text in a colour, if colours are in use. -/
def paint (isColoured : Bool) (colour : Colour) (text : String) : String :=
  if isColoured then colour.apply text else text

/-- Whether colours are in use, given the values of the variables that ask for them and that forbid
them, and whether the output is a terminal. Any value but a zero asks. -/
def usesColour (forced forbidden wanted : Option String) (isTerminal : Bool) : Bool :=
  forced.any (· ≠ "0") || (forbidden.isNone && isTerminal && wanted ≠ some "0")

end GridMachine.Cli
