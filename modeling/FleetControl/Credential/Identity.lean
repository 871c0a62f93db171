import FleetControl.Credential.Certificate
import FleetControl.Credential.PrivateKey

/-!
# Identities

Who a client is to its peers: a chain of certificates with the private key of the first one. And whom
it trusts: authorities, which may be none.
-/

namespace FleetControl.Credential

/-- **Certificates with a private key**, not looked into. -/
structure Identity where
  chain : List (List UInt8)
  key : EncodedKey
deriving Repr, DecidableEq, Inhabited

namespace Identity

/-- An identity in text: certificates and private keys in any order and nothing else. Of several keys
the last counts. -/
def ofText? (text : String) : Option Identity := do
  let ss ← Pem.sections? text
  if ss.contains .other || (Pem.certificates ss).isEmpty then none
  let key ← (Pem.keys ss).getLast?
  some { chain := Pem.certificates ss, key }

/-- **Whether the first certificate is for the key.** -/
def isConsistent (i : Identity) : Bool :=
  match i.key.publicKey? with
  | some key => (i.chain.head?.bind Certificate.publicKey?) == some key
  | none => false

end Identity

/-- Whether every certificate of a text can be trusted. Its other sections only have to be sections. -/
def areAuthorities (text : String) : Bool :=
  (Pem.sections? text).any fun ss => (Pem.certificates ss).all Certificate.isAnchor

end FleetControl.Credential
