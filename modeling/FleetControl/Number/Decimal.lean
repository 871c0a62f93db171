import FleetControl.Number.Unsigned

/-!
# Decimal fractions as doubles

A decimal fraction is a sign, digits with an optional point, and an optional power of ten. `nearest`
gives the double nearest to such a number, ties to even. `Decimal.read?` reads a whole text: it
takes the words for infinity and for not a number in any letter case, and needs a digit on at least
one side of the point.
-/

namespace FleetControl.Number

/-- **The double nearest to `m · 10^e`.** Beyond the largest exponent it is infinite and below the
smallest it is zero, so the power is never computed where the answer is known without it. -/
def nearest (m : Nat) (e : Int) : Float :=
  if m == 0 then 0
  else
    let width : Int := (Nat.toDigits 10 m).length
    if width + e > 400 then 1.0 / 0.0
    else if width + e < -400 then 0
    else if e < 0 then Float.ofScientific m true e.natAbs
    else Float.ofScientific m false e.natAbs

/-- A decimal fraction in text: `digits` without their point, the number of them after the point,
and the power of ten. -/
structure Decimal where
  negative : Bool
  digits : List Char
  places : Nat
  power : Int
deriving Repr, DecidableEq

namespace Decimal

/-- The double nearest to a decimal fraction; the sign of zero is kept. -/
def toFloat (d : Decimal) : Float :=
  let m := (digitsFrom 0 d.digits).getD 0
  let x := nearest m (d.power - d.places)
  if d.negative then -x else x

/-- The digits at the head of a text and what follows them. -/
def spanDigits (cs : List Char) : List Char × List Char := cs.span Char.isDigit

/-- A power of ten: a sign and at least one digit, to the end of the text. -/
def power? (cs : List Char) : Option Int :=
  match cs with
  | '-' :: rest => (digits? rest).map fun n => -(n : Int)
  | '+' :: rest => (digits? rest).map fun n => (n : Int)
  | _ => (digits? cs).map fun n => (n : Int)

/-- Read an unsigned decimal fraction. -/
def fraction? (negative : Bool) (cs : List Char) : Option Decimal :=
  let (whole, rest) := spanDigits cs
  let (part, rest) := match rest with
    | '.' :: r => spanDigits r
    | _ => ([], rest)
  if whole.isEmpty && part.isEmpty then none
  else match rest with
    | [] => some ⟨negative, whole ++ part, part.length, 0⟩
    | 'e' :: r | 'E' :: r => (power? r).map fun p => ⟨negative, whole ++ part, part.length, p⟩
    | _ => none

/-- The sign at the head of a text. -/
def sign (cs : List Char) : Bool × List Char :=
  match cs with
  | '-' :: r => (true, r)
  | '+' :: r => (false, r)
  | _ => (false, cs)

/-- **Read a double.** -/
def read? (s : String) : Option Float :=
  let (negative, cs) := sign s.toList
  let x := match String.ofList (cs.map Char.toLower) with
    | "inf" | "infinity" => some (1.0 / 0.0)
    | "nan" => some (0.0 / 0.0)
    | _ => none
  match x with
  | some x => some (if negative then -x else x)
  | none => (fraction? negative cs).map toFloat

end Decimal

end FleetControl.Number
