import GridMachine.Json.Outline

/-!
JSON texts read as values. Collections may be nested 127 deep, and a number has to lie within the
range of double precision, which is judged from its leading digits.
-/

namespace GridMachine.Json

open Document

/-- Least size that rounds to infinity in double precision. -/
def sizeBound : Nat := Nat.pow 2 1024 - Nat.pow 2 970

/-- The number nearest to `n` among those of 53 binary digits and zeros after them; of two, the one
whose last digit is a zero. -/
def roundSize (n : Nat) : Nat :=
  let unit := Nat.pow 2 (n.log2 + 1 - 53)
  let whole := n / unit
  let left := 2 * (n % unit)
  (if unit < left || (left = unit && whole % 2 = 1) then whole + 1 else whole) * unit

/-- Whether a numeral stays within the range of double precision when its significand and its power
of ten are rounded before they are multiplied. -/
def Numeral.isInRange (numeral : Numeral) : Bool :=
  numeral.significand = 0 ||
    match numeral.exponent with
    | .ofNat n => n ≤ 308 && roundSize numeral.significand * roundSize (Nat.pow 10 n) < sizeBound
    | .negSucc _ => true

/-- The number a numeral writes: whole numbers of 64 bits stay whole. -/
def Numeral.number? (numeral : Numeral) : Option Number :=
  let isWhole :=
    numeral.isPlain && numeral.exponent = 0 &&
      !(numeral.isNegative && (numeral.significand = 0 || Nat.pow 2 63 < numeral.significand))
  if isWhole then
    some
      (.integer (if numeral.isNegative then -numeral.significand else numeral.significand))
  else if numeral.isInRange then
    some (.ofDecimal numeral.isNegative numeral.significand numeral.exponent)
  else none

def Leaf.value? : Leaf → Option Json
  | .null => some .null
  | .bool value => some (.bool value)
  | .numeral written => Json.number <$> written.number?
  | .text value => some (.text value)
  | .brokenText => none

/-- How deep collections may be nested. -/
def maxDepth : Nat := 127

mutual

/-- The value of a node in which collections are nested at most `depth` deep. -/
def ofNode? (depth : Nat) : Node Leaf → Option Json
  | .leaf value => value.value?
  | .list items => if depth = 0 then none else .array <$> itemsOf? (depth - 1) items
  | .record items => if depth = 0 then none else ofMembers <$> membersOf? (depth - 1) items
  | .cut => none

def itemsOf? (depth : Nat) : List (Node Leaf) → Option (List Json)
  | [] => some []
  | node :: nodes => do
      let item ← ofNode? depth node
      let items ← itemsOf? depth nodes
      some (item :: items)

def membersOf? (depth : Nat) : List (Node Leaf) → Option (List (String × Json))
  | .leaf (.text name) :: node :: nodes => do
      let value ← ofNode? depth node
      let members ← membersOf? depth nodes
      some ((name, value) :: members)
  | [] => some []
  | _ => none

end

/-- The value of an outline without faults. -/
def ofOutline? (outline : Outline Leaf) : Option Json :=
  if outline.isWhole then ofNode? maxDepth outline.root else none

/-- The value that a text writes. -/
def parse? (cs : List Char) : Option Json := ofOutline? (outline cs)

end GridMachine.Json
