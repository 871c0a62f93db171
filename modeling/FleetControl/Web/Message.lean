import FleetControl.Json.Printer
import FleetControl.Web.Escape

/-!
# Requests and replies

What goes over the network, without the network: a request to a peer, and what came of it. A reply's
body arrives in chunks and may break off or stall.
-/

namespace FleetControl.Web

/-- What is asked of a target. -/
inductive Method where
  | get
  | post
  | put
  | delete
  | head
  | options
  /-- Any other, by name. -/
  | other (name : String)
deriving Repr, DecidableEq, Inhabited

namespace Method

/-- The name of a method. -/
def name : Method → String
  | get => "GET"
  | post => "POST"
  | put => "PUT"
  | delete => "DELETE"
  | head => "HEAD"
  | options => "OPTIONS"
  | other n => n

/-- The method of a name. -/
def ofName : String → Method
  | "GET" => get
  | "POST" => post
  | "PUT" => put
  | "DELETE" => delete
  | "HEAD" => head
  | "OPTIONS" => options
  | n => other n

end Method

/-- **A request to a peer.** -/
structure Request where
  method : Method
  /-- The path, not escaped. -/
  path : String
  query : List (String × String) := []
  headers : List (String × String) := []
  body : Option Json := none
  /-- How long an answer may take, in seconds; `none` is for as long as it takes. -/
  timeout : Option UInt64 := none
deriving Inhabited

namespace Request

/-- Path and query as sent. -/
def target (r : Request) : String :=
  escapeText keepsInPath r.path ++ (if r.query.isEmpty then "" else "?" ++ queryOf r.query)

end Request

/-- How the body of a reply ended. -/
inductive Ending where
  | complete
  /-- It broke off before its announced end. -/
  | broken
  /-- Nothing more came in time. -/
  | stalled
deriving Repr, DecidableEq, Inhabited

/-- A reply of a peer. -/
structure Reply where
  status : UInt16
  chunks : List (List UInt8)
  ending : Ending := .complete
deriving Repr, Inhabited

namespace Reply

/-- All bytes of the body that arrived. -/
def bytes (r : Reply) : List UInt8 := r.chunks.flatten

/-- The status means success. -/
def isSuccess (r : Reply) : Bool := 200 ≤ r.status && r.status < 300

end Reply

/-- **What came of a request.** -/
inductive Outcome where
  | reply (r : Reply)
  /-- No connection. -/
  | unreachable (reason : String)
  /-- No answer in time. -/
  | late
  /-- The connection ended without an answer. -/
  | dropped (reason : String)
deriving Repr, Inhabited

/-- **A way to send requests**: what comes of each, with what the way remembers. -/
abbrev Transport (σ : Type) := Request → σ → Outcome × σ

end FleetControl.Web
