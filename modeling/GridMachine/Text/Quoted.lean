import GridMachine.Text.Hex
import GridMachine.Text.Split
import GridMachine.Text.Unprintable

/-!
Texts as they are shown in diagnostics: between double quotes, with the quote, the backslash and
the unprintable characters escaped.
-/

namespace GridMachine.Text

/-- One character of a quoted text. -/
def quoteChar (c : Char) : List Char :=
  match c with
  | '\x22' => ['\\', '\x22']
  | '\\' => ['\\', '\\']
  | '\n' => ['\\', 'n']
  | '\r' => ['\\', 'r']
  | '\t' => ['\\', 't']
  | '\x00' => ['\\', '0']
  | c => if isUnprintable c then ['\\', 'u', '\x7b'] ++ hexDigits c.toNat ++ ['\x7d'] else [c]

/-- The text between quotes, escaped. -/
def quoted (s : String) : String :=
  .ofList (['\x22'] ++ s.toList.flatMap quoteChar ++ ['\x22'])

/-- Quoted texts between brackets, separated by a comma. -/
def quotedList (texts : List String) : String :=
  "[" ++ joinWith ", " (texts.map quoted) ++ "]"

end GridMachine.Text
