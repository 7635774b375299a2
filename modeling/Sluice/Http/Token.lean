/-!
# Tokens

The characters that method names and field names are made of.
-/
namespace Sluice.Http

def isDigit (c : Nat) : Bool := 0x30 ≤ c && c ≤ 0x39

def isUpper (c : Nat) : Bool := 0x41 ≤ c && c ≤ 0x5A

def isLower (c : Nat) : Bool := 0x61 ≤ c && c ≤ 0x7A

def isAlphanumeric (c : Nat) : Bool := isDigit c || isUpper c || isLower c

/-- The code points of ``!#$%&'*+-.^_`|~``. -/
def tokenMarks : List Nat :=
  [0x21, 0x23, 0x24, 0x25, 0x26, 0x27, 0x2A, 0x2B, 0x2D, 0x2E, 0x5E, 0x5F, 0x60, 0x7C, 0x7E]

/-- A letter, a digit or one of the marks; nothing outside ASCII. -/
def isToken (c : Nat) : Bool := isAlphanumeric c || tokenMarks.contains c

/-- The small letter of a capital, and any other code point as it is. -/
def lower (c : Nat) : Nat := if isUpper c then c + 0x20 else c

end Sluice.Http
