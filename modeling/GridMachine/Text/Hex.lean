/-!
Numbers in hexadecimal: written with lower-case digits, read with digits of either case.
-/

namespace GridMachine.Text

/-- The lower-case hexadecimal digits of a number. -/
def hexDigits (n : Nat) : List Char := Nat.toDigits 16 n

def hexDigit? (c : Char) : Option Nat :=
  if '0' ≤ c ∧ c ≤ '9' then some (c.toNat - 48)
  else if 'a' ≤ c ∧ c ≤ 'f' then some (c.toNat - 87)
  else if 'A' ≤ c ∧ c ≤ 'F' then some (c.toNat - 55)
  else none

/-- The value of hexadecimal digits, if they all are such. -/
def hexValue? (cs : List Char) : Option Nat :=
  cs.foldlM (fun value c => (value * 16 + ·) <$> hexDigit? c) 0

end GridMachine.Text
