import FleetControl.Failure
import FleetControl.Record.Node
import FleetControl.Text.Blank

/-!
# Where an engine is

The address of a node's engine as the base of its request targets, and the certificates that a
protected connection needs.
-/

namespace FleetControl.Engine

/-- An address without blanks around it and slashes at its end. -/
def bareAddress (address : String) : List Char :=
  Text.dropEndWhile (· == '/') (Text.strip address.toList)

/-- **The base of an engine's request targets.** A scheme of the web is kept; any other address is a
host. -/
def baseUrl (address : String) (useTls : Bool) : Except Failure String :=
  let cs := bareAddress address
  let leads (word : String) : Bool := word.toList.isPrefixOf cs
  if cs.isEmpty then .error (.incomplete "engine address is empty")
  else if leads "unix://" || leads "npipe://" then
    .error (.incomplete
      ("local engine socket " ++ String.ofList cs ++ " cannot be reached remotely"))
  else if leads "http://" || leads "https://" then .ok (String.ofList cs)
  else
    let host := (Text.afterPrefix? "tcp://".toList cs).getD cs
    .ok ((if useTls then "https" else "http") ++ "://" ++ String.ofList host)

/-- What a protected connection needs, in text. -/
structure Credentials where
  ca : String
  certificate : String
  key : String
deriving Repr, DecidableEq, Inhabited

namespace Credentials

/-- One of a node's texts, which must not be blank. -/
def present (n : Node) (what : String) (value : Option String) : Except Failure String :=
  match value.filter fun v => !Text.isBlankText v with
  | some v => .ok v
  | none => .error (.incomplete ("node " ++ n.name ++ " is missing its " ++ what))

/-- **A node's credentials**, all of which it must have. -/
def ofNode (n : Node) : Except Failure Credentials := do
  let ca ← present n "CA certificate" n.caCert
  let certificate ← present n "client certificate" n.clientCert
  let key ← present n "client key" n.clientKey
  return { ca, certificate, key }

end Credentials

end FleetControl.Engine
