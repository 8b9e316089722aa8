import GridMachine.Json.Basic
import GridMachine.Text.Hex

/-!
Tokens of JSON texts. A text literal whose escapes do not spell characters (a lone surrogate) is a
token all the same, since a value that nobody asks for is only checked for its form.
-/

namespace GridMachine.Json

/-- A numeral as it is read: `± significand · 10 ^ exponent`, where the significand is what the
leading digits write as far as it fits in 64 bits. -/
structure Numeral where
  isNegative : Bool
  significand : Nat
  exponent : Int
  /-- Written without a fraction and without an exponent. -/
  isPlain : Bool
deriving DecidableEq

inductive Leaf where
  | null
  | bool (value : Bool)
  | numeral (value : Numeral)
  | text (value : String)
  /-- A text literal with a lone surrogate. -/
  | brokenText
deriving DecidableEq

inductive Token where
  | beginArray
  | endArray
  | beginObject
  | endObject
  | comma
  | colon
  | leaf (value : Leaf)
deriving DecidableEq

def isSpace (c : Char) : Bool := c = ' ' || c = '\t' || c = '\n' || c = '\r'

/-! ### Text literals -/

/-- A character as it stands in a text literal: itself, or by its UTF-16 code. -/
inductive Unit16 where
  | plain (c : Char)
  | code (n : Nat)

/-- The character that a backslash and a letter stand for. -/
def simpleEscape? : Char → Option Char
  | '\x22' => some '\x22'
  | '\\' => some '\\'
  | '/' => some '/'
  | 'b' => some '\x08'
  | 'f' => some '\x0c'
  | 'n' => some '\n'
  | 'r' => some '\r'
  | 't' => some '\t'
  | _ => none

/-- The units of a text literal after its opening quote, and what follows its closing quote. -/
def literalUnits? : List Char → Option (List Unit16 × List Char)
  | [] => none
  | '\x22' :: cs => some ([], cs)
  | '\\' :: 'u' :: a :: b :: c :: d :: cs => do
      let n ← Text.hexValue? [a, b, c, d]
      let (units, rest) ← literalUnits? cs
      some (.code n :: units, rest)
  | '\\' :: letter :: cs => do
      let c ← simpleEscape? letter
      let (units, rest) ← literalUnits? cs
      some (.plain c :: units, rest)
  | c :: cs => do
      if c = '\\' || c.toNat < 0x20 then none
      let (units, rest) ← literalUnits? cs
      some (.plain c :: units, rest)

def isHighSurrogate (n : Nat) : Bool := 0xD800 ≤ n && n < 0xDC00

def isLowSurrogate (n : Nat) : Bool := 0xDC00 ≤ n && n < 0xE000

/-- The characters of the units; surrogates come in pairs of a high and a low one. -/
def Unit16.characters? : List Unit16 → Option (List Char)
  | [] => some []
  | .plain c :: units => (c :: ·) <$> characters? units
  | .code high :: .code low :: units =>
      if isHighSurrogate high && isLowSurrogate low then
        (Char.ofNat (0x10000 + (high - 0xD800) * 0x400 + (low - 0xDC00)) :: ·) <$>
          characters? units
      else if isHighSurrogate high || isLowSurrogate high then none
      else (Char.ofNat high :: ·) <$> characters? (.code low :: units)
  | .code n :: units =>
      if isHighSurrogate n || isLowSurrogate n then none
      else (Char.ofNat n :: ·) <$> characters? units

/-- A text literal after its opening quote. -/
def textLeaf? (cs : List Char) : Option (Leaf × List Char) := do
  let (units, rest) ← literalUnits? cs
  match Unit16.characters? units with
  | some characters => some (.text (.ofList characters), rest)
  | none => some (.brokenText, rest)

/-! ### Numerals -/

def isDigit (c : Char) : Bool := '0' ≤ c && c ≤ '9'

/-- The number that decimal digits write. -/
def decimalValue (digits : List Char) : Nat :=
  digits.foldl (fun value c => value * 10 + (c.toNat - 48)) 0

/-- The number `value` continued by decimal digits as long as it fits in 64 bits, and how many
digits are left over. -/
def continueValue (value : Nat) : List Char → Nat × Nat
  | [] => (value, 0)
  | c :: cs =>
      let next := value * 10 + (c.toNat - 48)
      if next < 2 ^ 64 then continueValue next cs else (value, cs.length + 1)

/-- The digits of the whole part: a zero alone, or digits that do not begin with one. -/
def wholeDigits? : List Char → Option (List Char × List Char)
  | '0' :: cs => some (['0'], cs)
  | cs =>
      match cs.takeWhile isDigit with
      | [] => none
      | digits => some (digits, cs.dropWhile isDigit)

/-- The digits after a point, if there is one. -/
def fractionDigits? : List Char → Option (List Char × List Char)
  | '.' :: cs =>
      match cs.takeWhile isDigit with
      | [] => none
      | digits => some (digits, cs.dropWhile isDigit)
  | cs => some ([], cs)

/-- The exponent, if there is one. -/
def exponent? (cs : List Char) : Option (Option Int × List Char) :=
  match cs with
  | c :: cs' =>
      if c = 'e' || c = 'E' then
        let (isNegative, cs') :=
          match cs' with
          | '-' :: cs' => (true, cs')
          | '+' :: cs' => (false, cs')
          | cs' => (false, cs')
        match cs'.takeWhile isDigit with
        | [] => none
        | digits =>
            let size : Int := decimalValue digits
            some (some (if isNegative then -size else size), cs'.dropWhile isDigit)
      else some (none, cs)
  | [] => some (none, cs)

def numeralLeaf? (cs : List Char) : Option (Leaf × List Char) := do
  let (isNegative, cs) :=
    match cs with
    | '-' :: cs => (true, cs)
    | cs => (false, cs)
  let (whole, cs) ← wholeDigits? cs
  let (fraction, cs) ← fractionDigits? cs
  let (exponent, cs) ← exponent? cs
  let (significand, wholeLeft) := continueValue 0 whole
  let (significand, fractionLeft) := continueValue significand fraction
  let shift : Int := wholeLeft - (fraction.length - fractionLeft : Nat)
  let numeral : Numeral :=
    { isNegative, significand
      exponent := exponent.getD 0 + shift
      isPlain := fraction.isEmpty && exponent.isNone }
  some (.numeral numeral, cs)

/-! ### Tokens -/

/-- What follows `word`, if the text begins with it. -/
def afterWord? : List Char → List Char → Option (List Char)
  | [], cs => some cs
  | c :: word, d :: cs => if c = d then afterWord? word cs else none
  | _ :: _, [] => none

/-- The token with which a text begins, and what follows it. -/
def nextToken? (cs : List Char) : Option (Token × List Char) :=
  match cs with
  | [] => none
  | c :: rest =>
      match c with
      | '[' => some (.beginArray, rest)
      | ']' => some (.endArray, rest)
      | '\x7b' => some (.beginObject, rest)
      | '\x7d' => some (.endObject, rest)
      | ',' => some (.comma, rest)
      | ':' => some (.colon, rest)
      | '\x22' => (textLeaf? rest).map fun (leaf, rest) => (.leaf leaf, rest)
      | 'n' => (afterWord? "ull".toList rest).map fun rest => (.leaf .null, rest)
      | 't' => (afterWord? "rue".toList rest).map fun rest => (.leaf (.bool true), rest)
      | 'f' => (afterWord? "alse".toList rest).map fun rest => (.leaf (.bool false), rest)
      | _ => (numeralLeaf? cs).map fun (leaf, rest) => (.leaf leaf, rest)

/-- The tokens of a text of at most `fuel` characters, and whether they reach to its end. -/
def tokensWithin : Nat → List Char → List Token × Bool
  | 0, cs => ([], cs.isEmpty)
  | fuel + 1, cs =>
      match cs.dropWhile isSpace with
      | [] => ([], true)
      | cs =>
          match nextToken? cs with
          | none => ([], false)
          | some (token, rest) =>
              let (tokens, isWhole) := tokensWithin fuel rest
              (token :: tokens, isWhole)

/-- The tokens of a text up to its first fault, and whether there is none. -/
def tokens (cs : List Char) : List Token × Bool := tokensWithin cs.length cs

end GridMachine.Json
