import FleetControl.Credential.Der

/-!
# Curves in short form

The curves `y² = x³ - 3x + b` over two prime fields, and the public key of a private one: the multiple
of a fixed point. Points have weighted coordinates, so that nothing is divided.
-/

namespace FleetControl.Credential

/-- **A curve**, with a point of prime order. -/
structure Curve where
  /-- Bytes of a coordinate. -/
  size : Nat
  prime : Nat
  order : Nat
  baseX : Nat
  baseY : Nat
  /-- Its name, encoded. -/
  name : List UInt8
deriving Repr, DecidableEq, Inhabited

namespace Curve

/-- The curve of 256 bits. -/
def p256 : Curve where
  size := 32
  prime := 0xffffffff00000001000000000000000000000000ffffffffffffffffffffffff
  order := 0xffffffff00000000ffffffffffffffffbce6faada7179e84f3b9cac2fc632551
  baseX := 0x6b17d1f2e12c4247f8bce6e563a440f277037d812deb33a0f4a13945d898c296
  baseY := 0x4fe342e2fe1a7f9b8ee7eb4a7c0f9e162bce33576b315ececbb6406837bf51f5
  name := [0x06, 0x08, 0x2A, 0x86, 0x48, 0xCE, 0x3D, 0x03, 0x01, 0x07]

/-- The curve of 384 bits. -/
def p384 : Curve where
  size := 48
  prime := 0xfffffffffffffffffffffffffffffffffffffffffffffffffffffffffffffffeffffffff0000000000000000ffffffff
  order := 0xffffffffffffffffffffffffffffffffffffffffffffffffc7634d81f4372ddf581a0db248b0a77aecec196accc52973
  baseX := 0xaa87ca22be8b05378eb1c71ef320ad746e1d3b628ba79b9859f741e082542a385502f25dbf55296c3a545e3872760ab7
  baseY := 0x3617de4a96262c6f5d9e98bf9292dc29f8f41dbd289a147ce9da3113b5f0b8c00a60b1ce1d7e819d7a431d7c90ea0e5f
  name := [0x06, 0x05, 0x2B, 0x81, 0x04, 0x00, 0x22]

/-- The name of keys of a curve: keys of any curve, and of this one. -/
def algorithm (c : Curve) : List UInt8 :=
  [0x06, 0x07, 0x2A, 0x86, 0x48, 0xCE, 0x3D, 0x02, 0x01] ++ c.name

/-- A point, `(x / z², y / z³)`; the neutral one has no `z`. -/
structure Point where
  x : Int
  y : Int
  z : Int
deriving Repr, DecidableEq, Inhabited

/-- The neutral point. -/
def neutral : Point := ⟨1, 1, 0⟩

/-- The fixed point. -/
def base (c : Curve) : Point := ⟨c.baseX, c.baseY, 1⟩

/-- A point with reduced coordinates. -/
def reduced (c : Curve) (x y z : Int) : Point := ⟨x % c.prime, y % c.prime, z % c.prime⟩

/-- A point added to itself. -/
def double (c : Curve) (p : Point) : Point :=
  let yy := p.y * p.y % c.prime
  let zz := p.z * p.z % c.prime
  let s := 4 * p.x * yy % c.prime
  let m := 3 * (p.x - zz) * (p.x + zz) % c.prime
  let x := m * m - 2 * s
  c.reduced x (m * (s - x) - 8 * yy * yy) (2 * p.y * p.z)

/-- The sum of two points. -/
def add (c : Curve) (p q : Point) : Point :=
  if p.z == 0 then q
  else if q.z == 0 then p
  else
    let pp := p.z * p.z % c.prime
    let qq := q.z * q.z % c.prime
    let u := p.x * qq % c.prime
    let s := p.y * qq * q.z % c.prime
    let h := (q.x * pp - u) % c.prime
    let r := (q.y * pp * p.z - s) % c.prime
    if h == 0 then (if r == 0 then c.double p else neutral)
    else
      let hh := h * h % c.prime
      let v := u * hh % c.prime
      let x := r * r - h * hh - 2 * v
      c.reduced x (r * (v - x) - s * h * hh) (p.z * q.z * h)

/-- A multiple of a point, by the `bits` lowest bits of the factor. -/
def multiply (c : Curve) (p : Point) (n : Nat) : Nat → Point
  | 0 => neutral
  | bits + 1 =>
    let q := c.double (c.multiply p (n / 2) bits)
    if n % 2 == 1 then c.add q p else q

/-- Whether a point has the given coordinates. -/
def isAt (c : Curve) (p : Point) (x y : Nat) : Bool :=
  p.z != 0 && (x * p.z * p.z - p.x) % (c.prime : Int) == 0 &&
    (y * p.z * p.z * p.z - p.y) % (c.prime : Int) == 0

/-- **Whether a public key belongs to a private one.** A public key is a point in full. -/
def isPair (c : Curve) (secret publicKey : List UInt8) : Bool :=
  let n := Der.toNat secret
  let x := Der.toNat (publicKey.tail.take c.size)
  let y := Der.toNat (publicKey.drop (c.size + 1))
  secret.length == c.size && 0 < n && n < c.order &&
    publicKey.length == 2 * c.size + 1 && publicKey.head? == some 4 &&
    x < c.prime && y < c.prime && c.isAt (c.multiply c.base n (8 * c.size)) x y

end Curve

end FleetControl.Credential
