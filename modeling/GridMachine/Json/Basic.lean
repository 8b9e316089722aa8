import GridMachine.NameMap

/-!
JSON values. Whole numbers between -2^63 and 2^64 - 1 are kept as such; every other number is a
decimal. The members of an object stand in the order of their names, each name once, so that the
order in which they were given does not count.
-/

namespace GridMachine

/-- A number: a whole one, or `digits · 10 ^ exponent` with a sign. -/
inductive Json.Number where
  | integer (value : Int)
  | decimal (isNegative : Bool) (digits : Nat) (exponent : Int)

/-- Whether two numbers are equal: a whole one equals no decimal, and the sign of a zero does not
count. -/
def Json.Number.isSame : Json.Number → Json.Number → Bool
  | .integer a, .integer b => a = b
  | .decimal s a m, .decimal t b n => a = b && m = n && (s = t || a = 0)
  | _, _ => false

instance : BEq Json.Number := ⟨Json.Number.isSame⟩

inductive Json where
  | null
  | bool (value : Bool)
  | number (value : Json.Number)
  | text (value : String)
  | array (items : List Json)
  | object (members : List (String × Json))
deriving BEq, Inhabited

namespace Json

/-- The object with the given members, of which the last of each name counts. -/
def ofMembers (members : List (String × Json)) : Json :=
  .object (NameMap.ofList members).entries

namespace Number

/-- The number `± digits · 10 ^ exponent` in its one form: the digits do not end in a zero. -/
def ofDecimal (isNegative : Bool) (digits : Nat) (exponent : Int) : Number :=
  match digits with
  | 0 => .decimal isNegative 0 0
  | digits => strip digits digits exponent
where
  strip : Nat → Nat → Int → Number
    | 0, digits, exponent => .decimal isNegative digits exponent
    | fuel + 1, digits, exponent =>
        if digits % 10 = 0 then strip fuel (digits / 10) (exponent + 1)
        else .decimal isNegative digits exponent

end Number

end Json

end GridMachine
