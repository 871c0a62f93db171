import FleetControl.Credential.Curve
import FleetControl.Credential.Twisted
import FleetControl.Credential.Pem
import FleetControl.Credential.Rsa

/-!
# Private keys

A private key of a known kind, and the public key that belongs to it in the form in which certificates
hold it. A key that contradicts itself is none.
-/

namespace FleetControl.Credential

namespace KeyForm

/-- The public key beside a wrapped one. -/
def besides : Der (List UInt8) := do
  if ← Der.isNext (Der.marked 1) then Der.inside (Der.marked 1) Der.bits
  else
    match ← Der.element 0x81 with
    | 0 :: bytes => pure bytes
    | _ => failure

/-- What a wrapping holds for keys of a kind: the key, and in the second version its public key beside
it. -/
def unwrap (algorithm : List UInt8) (takesSecond : Bool) :
    Der (List UInt8 × Option (List UInt8)) := Der.inside Der.sequence do
  let version ← Der.small
  let named ← Der.element Der.sequence
  if named != algorithm || !(version == 0 || takesSecond && version == 1) then failure
  let key ← Der.element Der.octets
  if ← Der.isNext (Der.marked 0) then
    let _attributes ← Der.element (Der.marked 0)
  if version == 0 then pure (key, none)
  else
    let publicKey ← besides
    pure (key, some publicKey)

end KeyForm

namespace Curve

/-- A private key of a curve and the public key beside it. -/
def readPair (c : Curve) : Der (List UInt8 × List UInt8) := Der.inside Der.sequence do
  let version ← Der.small
  if version != 1 then failure
  let secret ← Der.element Der.octets
  if ← Der.isNext (Der.marked 0) then
    let name ← Der.element (Der.marked 0)
    if name != c.name then failure
  let publicKey ← Der.inside (Der.marked 1) Der.bits
  pure (secret, publicKey)

end Curve

namespace EncodedKey

/-- A public key with the name of its kind, as certificates hold it. -/
def described (algorithm publicKey : List UInt8) : List UInt8 :=
  Der.encode Der.sequence algorithm ++ Der.encodeBits publicKey

/-- The public key if this is a key of two primes. -/
def rsaPublic? (k : EncodedKey) : Option (List UInt8) := do
  let bytes ← match k.form with
    | .wrapped => ((KeyForm.unwrap RsaKey.algorithm false).whole k.bytes).map (·.1)
    | .rsa => some k.bytes
    | .curve => none
  let key ← RsaKey.read.whole bytes
  if key.isSound then some (described RsaKey.algorithm key.publicKey) else none

/-- The public key if this is a key of a curve in short form. -/
def curvePublic? (c : Curve) (k : EncodedKey) : Option (List UInt8) := do
  let bytes ← match k.form with
    | .wrapped => ((KeyForm.unwrap c.algorithm false).whole k.bytes).map (·.1)
    | .curve => some k.bytes
    | .rsa => none
  let (secret, publicKey) ← c.readPair.whole bytes
  if c.isPair secret publicKey then some (described c.algorithm publicKey) else none

/-- The public key if this is a key of the curve in twisted form. -/
def twistedPublic? (k : EncodedKey) : Option (List UInt8) := do
  if k.form ≠ .wrapped then none
  let (key, besides) ← (KeyForm.unwrap Twisted.algorithm true).whole k.bytes
  let secret ← (Der.element Der.octets).whole key
  let publicKey := Twisted.publicKey secret
  if secret.length == 32 && besides.all (· == publicKey) then
    some (described Twisted.algorithm publicKey)
  else none

/-- **The public key that belongs to a private one**, if it is a sound key of a known kind. -/
def publicKey? (k : EncodedKey) : Option (List UInt8) :=
  k.rsaPublic? <|> k.curvePublic? .p256 <|> k.curvePublic? .p384 <|> k.twistedPublic?

end EncodedKey

end FleetControl.Credential
