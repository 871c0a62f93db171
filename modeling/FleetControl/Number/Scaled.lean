import FleetControl.Number.Decimal

/-!
# Decimal numerals by one scaling

The number reader of the wire format keeps the leading digits of a numeral that fit 64 bits and
scales them by one power of ten: one rounding when the digits become a double, one when they are
scaled. The result may differ from the nearest double in the last place. A numeral beyond the
largest double has no value.
-/

namespace FleetControl.Number

/-- The largest 64-bit unsigned number. -/
def maxU64 : Nat := UInt64.size - 1

/-- Leading digits that fit 64 bits after `acc`, and the number of digits left over. -/
def leading (acc : Nat) : List Char → Nat × Nat
  | [] => (acc, 0)
  | c :: cs =>
    let next := acc * 10 + (c.toNat - '0'.toNat)
    if next ≤ maxU64 then leading next cs else (acc, cs.length + 1)

/-- Divide by powers of ten, at most 308 places at a time, for at most `n` times. -/
def scaleDown : Nat → Float → Nat → Float
  | 0, _, _ => 0
  | n + 1, x, places =>
    if places ≤ 308 then x / nearest 1 places
    else scaleDown n (x / nearest 1 308) (places - 308)

/-- **`m · 10^e` by one scaling**; `none` when the magnitude is beyond the doubles. -/
def scaled? (m : Nat) (e : Int) : Option Float :=
  let x := Float.ofNat m
  if m == 0 then some 0
  else if 0 ≤ e then
    if 308 < e then none
    else
      let y := x * nearest 1 e
      if y.isInf then none else some y
  else some (scaleDown 4 x e.natAbs)

/-- The value of a numeral given by its digits before and after the point and its power of ten. -/
def scaledNumeral? (negative : Bool) (whole part : List Char) (power : Int) : Option Float :=
  let (m, left) := leading 0 whole
  let (m', dropped) := leading m part
  let places : Int := part.length - dropped
  (scaled? m' (power + left - places)).map fun x => if negative then -x else x

end FleetControl.Number
