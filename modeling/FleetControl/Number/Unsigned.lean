/-!
# Whole numbers in text

A whole number is written in decimal digits, at least one, with an optional sign. The reader takes
the whole text and refuses a value outside its range; leading zeros are allowed. Only an unsigned
range refuses the minus sign altogether, also before zero.
-/

namespace FleetControl.Number

/-- The value of a digit. -/
def digit? (c : Char) : Option Nat :=
  if c.isDigit then some (c.toNat - '0'.toNat) else none

/-- The value of decimal digits read after `acc`. -/
def digitsFrom (acc : Nat) : List Char → Option Nat
  | [] => some acc
  | c :: cs => (digit? c).bind fun d => digitsFrom (acc * 10 + d) cs

/-- The value of a text of at least one decimal digit. -/
def digits? : List Char → Option Nat
  | [] => none
  | cs => digitsFrom 0 cs

/-- Read a whole number at most `top`, with an optional plus sign. -/
def unsigned? (top : Nat) (cs : List Char) : Option Nat :=
  let n := match cs with
    | '+' :: rest => digits? rest
    | _ => digits? cs
  n.filter (· ≤ top)

/-- Read a 64-bit unsigned number. -/
def readU64? (s : String) : Option UInt64 :=
  (unsigned? (UInt64.size - 1) s.toList).map UInt64.ofNat

/-- Read a 16-bit unsigned number. -/
def readU16? (s : String) : Option UInt16 :=
  (unsigned? (UInt16.size - 1) s.toList).map UInt16.ofNat

end FleetControl.Number
