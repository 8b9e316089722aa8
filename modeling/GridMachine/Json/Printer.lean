import GridMachine.Json.Basic
import GridMachine.Text.Hex

/-!
JSON values written without blanks. In a text only the quote, the backslash and the characters
below the space are escaped.
-/

namespace GridMachine.Json

/-- Four hexadecimal digits. -/
def fourHexDigits (n : Nat) : List Char :=
  let digits := Text.hexDigits n
  List.replicate (4 - digits.length) '0' ++ digits

def escapeChar (c : Char) : List Char :=
  match c with
  | '\x22' => ['\\', '\x22']
  | '\\' => ['\\', '\\']
  | '\x08' => ['\\', 'b']
  | '\x0c' => ['\\', 'f']
  | '\n' => ['\\', 'n']
  | '\r' => ['\\', 'r']
  | '\t' => ['\\', 't']
  | c => if c.toNat < 0x20 then '\\' :: 'u' :: fourHexDigits c.toNat else [c]

/-- A text literal. -/
def renderText (s : String) : List Char :=
  ['\x22'] ++ s.toList.flatMap escapeChar ++ ['\x22']

def renderNumber : Number → List Char
  | .integer value => (toString value).toList
  | .decimal isNegative digits exponent =>
      let sign := if isNegative then ['-'] else []
      let size := Nat.toDigits 10 digits
      match exponent with
      | .ofNat n => sign ++ size ++ List.replicate n '0' ++ ['.', '0']
      | .negSucc n =>
          let padded := List.replicate (n + 2 - size.length) '0' ++ size
          let whole := padded.length - (n + 1)
          sign ++ padded.take whole ++ ['.'] ++ padded.drop whole

mutual

def render : Json → List Char
  | .null => "null".toList
  | .bool true => "true".toList
  | .bool false => "false".toList
  | .number value => renderNumber value
  | .text value => renderText value
  | .array items => ['['] ++ renderItems items ++ [']']
  | .object members => ['\x7b'] ++ renderMembers members ++ ['\x7d']

/-- The items with commas between them. -/
def renderItems : List Json → List Char
  | [] => []
  | [item] => render item
  | item :: items => render item ++ [','] ++ renderItems items

/-- The members with commas between them. -/
def renderMembers : List (String × Json) → List Char
  | [] => []
  | [(name, value)] => renderText name ++ [':'] ++ render value
  | (name, value) :: members =>
      renderText name ++ [':'] ++ render value ++ [','] ++ renderMembers members

end

end GridMachine.Json
