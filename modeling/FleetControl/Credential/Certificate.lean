import FleetControl.Credential.Der

/-!
# Certificates

What of a certificate has to be sound before it is presented or trusted: its encoding, its parts in
their order, and extensions that are known or may be passed over. Whether it is signed well, and by
whom, is a matter of connections.
-/

namespace FleetControl.Credential

/-- An extension of a certificate. -/
structure Extension where
  id : List UInt8
  isCritical : Bool
  value : List UInt8
deriving Repr, DecidableEq, Inhabited

namespace Extension

/-- An extension. -/
def read : Der Extension := do
  let id ← Der.element Der.identifier
  let isCritical ← Der.flag
  let value ← Der.element Der.octets
  pure { id, isCritical, value }

/-- The known extensions are numbered below one name: usage of the key, other names of the subject,
basic constraints, constraints of names, places of revocation lists, extended usage of the key. -/
def number? (e : Extension) : Option UInt8 :=
  match e.id with
  | [0x55, 0x1D, n] => if [15, 17, 19, 30, 31, 37].contains n then some n else none
  | _ => none

/-- Whether an extension has a value that may be looked at later. The usage of the key is no sequence
and may be anything; what is not known must not matter. -/
def isSound (e : Extension) : Bool :=
  match e.number? with
  | some 15 => true
  | some _ => ((Der.element Der.sequence).whole e.value).isSome
  | none => !e.isCritical

/-- Whether no known extension stands twice. -/
def areDistinct (es : List Extension) : Bool := (es.filterMap number?).Nodup

end Extension

namespace Certificate

/-- The signed part of a certificate and the name of the kind of signature. -/
def signed : Der (List UInt8 × List UInt8) := do
  let body ← Der.element Der.sequence
  let algorithm ← Der.element Der.sequence
  let _ ← Der.bits
  pure (body, algorithm)

/-- What follows the kind of signature: issuer, validity, subject and public key, which is returned. -/
def parties : Der (List UInt8) := do
  let _issuer ← Der.element Der.sequence
  let _validity ← Der.element Der.sequence
  let _subject ← Der.element Der.sequence
  Der.element Der.sequence

/-- The public key of a signed part of the third version, which names the kind of signature again. -/
def third (algorithm : List UInt8) : Der (List UInt8) := do
  let version ← Der.inside (Der.marked 0) Der.small
  let _serial ← Der.element Der.integer
  let named ← Der.element Der.sequence
  if version != 2 || named != algorithm then failure
  let key ← parties
  if ← Der.atEnd then pure key
  else
    let es ← Der.inside (Der.marked 3) (Der.inside Der.sequence
      (Der.many (Der.inside Der.sequence Extension.read)))
    if Extension.areDistinct es && es.all (·.isSound) then pure key else failure

/-- The public key of a signed part of the first version, which names no version and has no
extensions. -/
def first : Der (List UInt8) := do
  let _serial ← Der.element Der.integer
  let _algorithm ← Der.element Der.sequence
  parties

/-- **The public key of a certificate**, with the name of its kind. -/
def publicKey? (bytes : List UInt8) : Option (List UInt8) := do
  let (body, algorithm) ← (Der.inside Der.sequence signed).whole bytes
  (third algorithm).whole body

/-- **Whether a certificate can be trusted as it is.** It may also be of the first version. -/
def isAnchor (bytes : List UInt8) : Bool :=
  match (Der.inside Der.sequence signed).whole bytes with
  | some (body, algorithm) => ((third algorithm).whole body).isSome || (first.whole body).isSome
  | none => false

end Certificate

end FleetControl.Credential
