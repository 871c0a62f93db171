import FleetControl.Credential.Der
import FleetControl.Credential.Digest

/-!
# A curve in twisted form

The curve `y² - x² = 1 + d x² y²` over the field of `2^255 - 19`, and the public key of a private one:
a multiple of a fixed point, by a factor that the digest of the private key gives. Points are kept with
a common divisor and with their product, so that one rule adds any two.
-/

namespace FleetControl.Credential.Twisted

/-- The order of the field. -/
def prime : Nat := 0x7fffffffffffffffffffffffffffffffffffffffffffffffffffffffffffffed

/-- The constant of the curve. -/
def curveConstant : Nat := 0x52036cee2b6ffe738cc740797779e89800700a4d4141d8ab75eb4dca135978a3

/-- The point `(x / z, y / z)`, with `t = x * y / z`. -/
structure Point where
  x : Int
  y : Int
  z : Int
  t : Int
deriving Repr, DecidableEq, Inhabited

/-- The neutral point. -/
def neutral : Point := ⟨0, 1, 1, 0⟩

/-- The fixed point. -/
def base : Point where
  x := 0x216936d3cd6e53fec0a4e231fdd6dc5c692cc7609525a7b2c9562d608f25d51a
  y := 0x6666666666666666666666666666666666666666666666666666666666666658
  z := 1
  t := 0x67875f0fd78b766566ea4e8e64abe37d20f09f80775152f56dde8ab3a5b7dda3

/-- The sum of two points. -/
def add (p q : Point) : Point :=
  let a := (p.y - p.x) * (q.y - q.x) % prime
  let b := (p.y + p.x) * (q.y + q.x) % prime
  let c := 2 * p.t * q.t * curveConstant % prime
  let d := 2 * p.z * q.z % prime
  let e := b - a
  let f := d - c
  let g := d + c
  let h := b + a
  ⟨e * f % prime, g * h % prime, f * g % prime, e * h % prime⟩

/-- A multiple of a point, by the `bits` lowest bits of the factor. -/
def multiply (p : Point) (n : Nat) : Nat → Point
  | 0 => neutral
  | bits + 1 =>
    let q := multiply p (n / 2) bits
    let q := add q q
    if n % 2 == 1 then add q p else q

/-- A power in the field, by the `bits` lowest bits of the exponent. -/
def power (a : Int) (n : Nat) : Nat → Int
  | 0 => 1
  | bits + 1 =>
    let q := power a (n / 2) bits
    let q := q * q % prime
    if n % 2 == 1 then q * a % prime else q

/-- The inverse in the field. -/
def inverse (a : Int) : Int := power a (prime - 2) 255

/-- A point in 32 bytes, the lowest first: the one coordinate, and whether the other is odd. -/
def compress (p : Point) : List UInt8 :=
  let divisor := inverse p.z
  let x := (p.x * divisor % prime).toNat
  let y := (p.y * divisor % prime).toNat
  (Der.ofNat 32 (y + ((x % 2) <<< 255))).reverse

/-- The factor that belongs to a private key: 254 bits, of which the highest is set and the three
lowest are not. -/
def factor (secret : List UInt8) : Nat :=
  let n := Der.toNat ((Digest.digest secret).take 32).reverse
  n % (1 <<< 254) / 8 * 8 + (1 <<< 254)

/-- **The public key of a private one.** -/
def publicKey (secret : List UInt8) : List UInt8 := compress (multiply base (factor secret) 255)

/-- The name of keys of this curve. -/
def algorithm : List UInt8 := [0x06, 0x03, 0x2B, 0x65, 0x70]

end FleetControl.Credential.Twisted
