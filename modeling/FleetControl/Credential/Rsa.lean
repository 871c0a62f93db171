import FleetControl.Credential.Der

/-!
# Keys of two primes

A private key of this kind holds a modulus, two exponents, the two primes of the modulus and what
speeds up reckoning with them. It is taken if the parts fit together; that the primes are prime is not
looked at.
-/

namespace FleetControl.Credential

/-- **A private key of two primes.** -/
structure RsaKey where
  modulus : Nat
  /-- The exponent that everyone knows. -/
  publicExponent : Nat
  privateExponent : Nat
  p : Nat
  q : Nat
  /-- The private exponent for each prime. -/
  exponentP : Nat
  exponentQ : Nat
  /-- The inverse of `q` for the prime `p`. -/
  inverseQ : Nat
deriving Repr, DecidableEq, Inhabited

namespace RsaKey

/-- The name of keys of this kind. -/
def algorithm : List UInt8 :=
  [0x06, 0x09, 0x2A, 0x86, 0x48, 0x86, 0xF7, 0x0D, 0x01, 0x01, 0x01, 0x05, 0x00]

/-- How many bits a number has. -/
def bitLength (n : Nat) : Nat := if n == 0 then 0 else n.log2 + 1

/-- A key. -/
def read : Der RsaKey := Der.inside Der.sequence do
  let version ← Der.small
  if version != 0 then failure
  let number := Der.toNat <$> Der.natural
  let modulus ← number
  let publicExponent ← number
  let privateExponent ← number
  let p ← number
  let q ← number
  let exponentP ← number
  let exponentQ ← number
  let inverseQ ← number
  pure { modulus, publicExponent, privateExponent, p, q, exponentP, exponentQ, inverseQ }

/-- Whether the modulus has 2048 to 4096 bits, whole bytes counted, and the known exponent is neither
too small nor too great. -/
def hasFitPublicPart (k : RsaKey) : Bool :=
  k.modulus % 2 == 1 && 2048 / 8 ≤ (bitLength k.modulus + 7) / 8 && bitLength k.modulus ≤ 4096 &&
    k.publicExponent % 2 == 1 && 65537 ≤ k.publicExponent && bitLength k.publicExponent ≤ 33

/-- Whether an odd prime has half of the modulus' bits, in whole blocks of 512, and its exponent is
odd and smaller. -/
def hasFitPrime (k : RsaKey) (prime exponent : Nat) : Bool :=
  bitLength prime == (bitLength k.modulus + 1) / 2 && bitLength prime % 512 == 0 &&
    prime % 2 == 1 && exponent % 2 == 1 && exponent < prime

/-- **Whether the parts of a key fit together.** -/
def isSound (k : RsaKey) : Bool :=
  k.hasFitPublicPart && k.hasFitPrime k.p k.exponentP && k.hasFitPrime k.q k.exponentQ &&
    k.p * k.q == k.modulus &&
    k.privateExponent % 2 == 1 && k.privateExponent < k.modulus &&
    (bitLength k.modulus + 1) / 2 < bitLength k.privateExponent &&
    k.inverseQ < k.p && k.inverseQ * k.q % k.p == 1

/-- The bytes of a number, without leading zeros. -/
def bytes (n : Nat) : List UInt8 := Der.ofNat ((bitLength n + 7) / 8) n

/-- The public key. -/
def publicKey (k : RsaKey) : List UInt8 :=
  Der.encode Der.sequence
    (Der.encodeNatural (bytes k.modulus) ++ Der.encodeNatural (bytes k.publicExponent))

end RsaKey

end FleetControl.Credential
