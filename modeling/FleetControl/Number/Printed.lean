/-!
# Doubles in text

A finite double is exactly `m · 2^q`. `fixed` writes it with a given number of places, a tie going
to the even neighbour; `shortest` finds the fewest decimal digits that read back as the same double.
Both work in whole numbers.
-/

namespace FleetControl.Number

/-- The first bit of a significand of full length, which is not stored. -/
def leadBit : Nat := 1 <<< 52

/-- The sign, significand and binary exponent of a finite double: it is `± m · 2^q`. -/
def parts (x : Float) : Bool × Nat × Int :=
  let bits : Nat := x.toBits.toNat
  let exponent : Nat := bits / leadBit % 2048
  let m : Nat := bits % leadBit
  let negative := bits / leadBit / 2048 == 1
  if exponent == 0 then (negative, m, -1074) else (negative, m + leadBit, (exponent : Int) - 1075)

/-- Round `num / den` to a whole number, a tie to the even one. -/
def roundDiv (num den : Nat) : Nat :=
  let q := num / den
  let r := num % den
  if 2 * r < den then q
  else if den < 2 * r then q + 1
  else if q % 2 == 0 then q else q + 1

/-- A double as a fraction of whole numbers. -/
def asFraction (m : Nat) (q : Int) : Nat × Nat :=
  if 0 ≤ q then (m <<< q.natAbs, 1) else (m, 1 <<< q.natAbs)

/-- Digits left-padded with zeros to a width. -/
def padZeros (width : Nat) (cs : List Char) : List Char :=
  List.replicate (width - cs.length) '0' ++ cs

/-- **A double with `places` digits after the point.** -/
def fixed (places : Nat) (x : Float) : String :=
  if x.isNaN then "NaN"
  else
    let (negative, m, q) := parts x
    let sign := if negative then "-" else ""
    if x.isInf then sign ++ "inf"
    else
      let (num, den) := asFraction m q
      let one := Nat.pow 10 places
      let n := roundDiv (num * one) den
      let whole := toString (n / one)
      let part := String.ofList (padZeros places (toString (n % one)).toList)
      sign ++ whole ++ (if places == 0 then "" else "." ++ part)

/-- Whether `num/den` lies among the reals that round to `m · 2^q`; all three are compared over a
common denominator of two more bits. -/
def roundsTo (m : Nat) (q : Int) (num den : Nat) : Bool :=
  let (a, b) := asFraction (4 * m) (q - 2)
  let (half, b') := asFraction 2 (q - 2)
  let below := if m == leadBit && q > -1074 then (1 : Nat) else 2
  let (lowHalf, b'') := asFraction below (q - 2)
  let high := a * b' + half * b
  let low := a * b'' - lowHalf * b
  if m % 2 == 0 then
    num * (b * b') ≤ high * den && low * den ≤ num * (b * b'')
  else
    num * (b * b') < high * den && low * den < num * (b * b'')

/-- The decimal exponent of the first digit of `num/den`, found from `guess` downwards. -/
def leadExponent : Nat → Int → Nat → Nat → Int
  | 0, e, _, _ => e
  | n + 1, e, num, den =>
    let scale := Nat.pow 10 e.natAbs
    let big := if 0 ≤ e then den * scale ≤ num else den ≤ num * scale
    if big then e else leadExponent n (e - 1) num den

/-- Digits of the shortest decimal with at most `17` digits that reads back, as a whole number and
the power of ten of its last digit. -/
def shortestFrom : Nat → Nat → Nat → Int → Int → Nat × Int
  | 0, _, m, _, lead => (m, lead)
  | n + 1, count, m, q, lead =>
    let (num, den) := asFraction m q
    let e : Int := lead - count
    let scale := Nat.pow 10 e.natAbs
    let (num', den') := if 0 ≤ e then (num, den * scale) else (num * scale, den)
    let down := num' / den'
    let reads (d : Nat) : Bool :=
      if 0 ≤ e then roundsTo m q (d * scale) 1 else roundsTo m q d scale
    let nearer := roundDiv num' den'
    if reads nearer then (nearer, e)
    else if reads down then (down, e)
    else if reads (down + 1) then (down + 1, e)
    else shortestFrom n (count + 1) m q lead

/-- **The shortest digits of a positive finite double**: a whole number without trailing zeros and a
power of ten. -/
def shortest (m : Nat) (q : Int) : Nat × Int :=
  let (num, den) := asFraction m q
  let lead := leadExponent 700 310 num den
  stripZeros 20 (shortestFrom 18 0 m q lead)
where
  /-- Move trailing zeros of the digits into the power. -/
  stripZeros : Nat → Nat × Int → Nat × Int
    | 0, r => r
    | n + 1, (d, e) => if d ≠ 0 ∧ d % 10 = 0 then stripZeros n (d / 10, e + 1) else (d, e)

/-- **A finite double in the wire format**: positional from `10^-5` up to `10^16` with at least one
place, scientific beyond. -/
def wire (x : Float) : String :=
  let (negative, m, q) := parts x
  let sign := if negative then "-" else ""
  if m == 0 then sign ++ "0.0"
  else
    let (d, e) := shortest m q
    let ds := (toString d).toList
    let point : Int := ds.length + e
    let body :=
      if 0 ≤ e && point ≤ 16 then String.ofList (ds ++ List.replicate e.natAbs '0') ++ ".0"
      else if 0 < point && point ≤ 16 then
        String.ofList (ds.take point.natAbs) ++ "." ++ String.ofList (ds.drop point.natAbs)
      else if -5 < point && point ≤ 0 then
        "0." ++ String.ofList (List.replicate point.natAbs '0' ++ ds)
      else
        let tail := if ds.length == 1 then "" else "." ++ String.ofList ds.tail
        String.ofList (ds.take 1) ++ tail ++ "e" ++ toString (point - 1)
    sign ++ body

end FleetControl.Number
