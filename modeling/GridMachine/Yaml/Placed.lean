/-!
Characters of a YAML text with their places. Indentation carries meaning in YAML, so every character
is kept together with its line and column. Line breaks of all kinds are written `\n` once they are
placed; only the line and paragraph separators stay as they are. A byte order mark is a character
like any other, which takes up a column, but may be passed over at the start of a line.
-/

namespace GridMachine.Yaml

/-- A place in a text. -/
structure Place where
  line : Nat
  column : Nat
  /-- How many octets stand before it. -/
  offset : Nat

structure Placed extends Place where
  char : Char

def lineSeparator : Char := '\u2028'

def paragraphSeparator : Char := '\u2029'

/-- A next-line character, a line break of its own. -/
def nextLine : Char := '\u0085'

def byteOrderMark : Char := '\ufeff'

/-! ### Classes of characters -/

/-- The characters that may stand in a text at all. -/
def isReadable (c : Char) : Bool :=
  let n := c.toNat
  n == 0x09 || n == 0x0A || n == 0x0D || (0x20 ≤ n && n ≤ 0x7E) || n == 0x85 ||
    (0xA0 ≤ n && n ≤ 0xFFFD) || 0x10000 ≤ n

/-- A line break once the characters are placed. -/
def isBreak (c : Char) : Bool := c = '\n' || c = lineSeparator || c = paragraphSeparator

def isBlank (c : Char) : Bool := c = ' ' || c = '\t'

/-- A character between words. -/
def isGap (c : Char) : Bool := isBlank c || isBreak c

def isDigit (c : Char) : Bool := '0' ≤ c && c ≤ '9'

/-- The characters of names of anchors, handles and directives. -/
def isWord (c : Char) : Bool :=
  isDigit c || ('a' ≤ c && c ≤ 'z') || ('A' ≤ c && c ≤ 'Z') || c = '_' || c = '-'

/-! ### Placing a text -/

/-- The place after a line break of so many octets. -/
def Place.nextLine (place : Place) (size : Nat) : Place :=
  ⟨place.line + 1, 0, place.offset + size⟩

/-- The place after a character that is no line break. -/
def Place.next (place : Place) (c : Char) : Place :=
  ⟨place.line, place.column + 1, place.offset + c.utf8Size⟩

/-- The characters of a text that begins at a place. -/
def placeAt (place : Place) : List Char → List Placed
  | [] => []
  | '\r' :: '\n' :: cs => ⟨place, '\n'⟩ :: placeAt (place.nextLine 2) cs
  | c :: cs =>
      if c = '\r' || c = '\n' || c = nextLine then
        ⟨place, '\n'⟩ :: placeAt (place.nextLine c.utf8Size) cs
      else if isBreak c then ⟨place, c⟩ :: placeAt (place.nextLine c.utf8Size) cs
      else ⟨place, c⟩ :: placeAt (place.next c) cs

/-- A text with the places of its characters. -/
def place (cs : List Char) : List Placed := placeAt ⟨0, 0, 0⟩ cs

/-! ### Blocks -/

/-- How many octets of a text are read at once. -/
def blockSize : Nat := 16384

/-- How many characters stand before the block with the first unreadable character, if there is one.
A block is as many characters as fit into its octets; `start` is how many characters stand before
the block of the next one, which is the one at `index`, and `used` is how full that block is. -/
def readableLength? (start index used : Nat) : List Char → Option Nat
  | [] => none
  | c :: cs =>
      let fits := used + c.utf8Size ≤ blockSize
      let start := if fits then start else index
      if isReadable c then
        readableLength? start (index + 1) ((if fits then used else 0) + c.utf8Size) cs
      else some start

/-! ### Looking at what comes next -/

/-- Whether the text begins with a character of a class. -/
def startsWith (isMember : Char → Bool) : List Placed → Bool
  | [] => false
  | p :: _ => isMember p.char

/-- Whether the text begins with a gap or is at its end. -/
def atGap (cs : List Placed) : Bool := cs.isEmpty || startsWith isGap cs

/-- Whether the text begins with three times `c` at the start of a line and then a gap. -/
def atMarker (c : Char) : List Placed → Bool
  | p :: q :: r :: cs =>
      p.column = 0 && p.char = c && q.char = c && r.char = c && atGap cs
  | _ => false

/-- Whether the text begins with a marker that starts or ends a document. -/
def atDocumentMarker (cs : List Placed) : Bool := atMarker '-' cs || atMarker '.' cs

/-- The text from its first character outside of a class on. -/
def dropClass (isMember : Char → Bool) (cs : List Placed) : List Placed :=
  cs.dropWhile fun p => isMember p.char

/-- The longest run of a class with which the text begins, and what follows it. -/
def spanClass (isMember : Char → Bool) (cs : List Placed) : List Char × List Placed :=
  ((cs.takeWhile fun p => isMember p.char).map Placed.char, dropClass isMember cs)

/-- The text from the end of its line on. -/
def dropLine (cs : List Placed) : List Placed := dropClass (!isBreak ·) cs

/-- The text after the comment with which it may begin. -/
def dropComment (cs : List Placed) : List Placed :=
  if startsWith (· = '#') cs then dropLine cs else cs

/-- What follows the rest of a line that holds nothing but a comment. -/
def afterBareLine? (cs : List Placed) : Option (List Placed) :=
  match dropComment (dropClass isBlank cs) with
  | [] => some []
  | p :: cs => if isBreak p.char then some cs else none

end GridMachine.Yaml
