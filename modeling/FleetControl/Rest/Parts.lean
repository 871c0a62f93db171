import FleetControl.Json.Reader
import FleetControl.Record.Principal
import FleetControl.Rest.Message
import FleetControl.Web.Media

/-!
# Parts of a request

What an operation takes out of a request: the caller, an identifier in the path, values of the query
and the body. A part that is missing or ill-formed settles the answer at once.
-/

namespace FleetControl.Rest

namespace Request

/-! ## The caller -/

/-- The header that names the caller. -/
def userHeader : String := "x-fleet-user"

/-- The header that makes the caller an administrator. -/
def adminHeader : String := "x-fleet-admin"

/-- **The caller of a request**, whom trusted headers name. -/
def caller (r : Request) : Except Response Principal :=
  match (r.plainHeader? userHeader).bind fun v => Number.readU64? (Text.trim v) with
  | none => .error ⟨401, .text ("missing or invalid " ++ userHeader ++ " header"), false⟩
  | some userId =>
    let isAdmin := (r.plainHeader? adminHeader).any fun v =>
      Text.asciiLower (Text.strip v.toList) == "true".toList
    .ok { userId, isAdmin }

/-! ## Path and query -/

/-- **An identifier in the path**, its escapes resolved. -/
def pathId (part : String) : Except Response RecordId :=
  let bytes := Web.unescape part.toList
  let id := if Text.Utf8.isWellFormed bytes then Number.readU64? (Text.Utf8.decode bytes) else none
  match id with
  | some id => .ok id
  | none => .error (.refuse 400 "the path holds no such identifier")

/-- A value of the query, which may stand there once. -/
def queryText (r : Request) (name : String) : Except Response (Option String) :=
  match r.query.filter fun (k, _) => k == name with
  | [] => .ok none
  | [(_, v)] => .ok (some v)
  | _ => .error (.refuse 400 ("the query gives " ++ name ++ " twice"))

/-- A value of the query that has to be of a form. -/
def queryValue {α : Type} (r : Request) (name : String) (read : String → Option α) :
    Except Response (Option α) := do
  match ← r.queryText name with
  | none => pure none
  | some v =>
    match read v with
    | some a => pure (some a)
    | none => throw (.refuse 400 ("the query gives no fit " ++ name))

/-- A number of the query. -/
def queryNumber (r : Request) (name : String) : Except Response (Option UInt64) :=
  r.queryValue name Number.readU64?

/-! ## The body -/

/-- **The body of a request as a record**; what follows the first value does not matter. -/
def record {α : Type} (r : Request) (read : Reader α) : Except Response α :=
  if !(((r.plainHeader? "content-type").bind fun v => Web.Media.read? v.toList).any
      Web.Media.isJson) then
    .error (.refuse 415 "the body is announced as something else than JSON")
  else match read.head (Text.Utf8.encode r.body) with
    | .ok a => .ok a
    | .error .malformed => .error (.refuse 400 "the body is ill-formed")
    | .error .mismatch => .error (.refuse 422 "the body is no such record")

/-! ## Web sockets -/

/-- Whether one of the words of a header is the given one. -/
def headerHasWord (r : Request) (name word : String) : Bool :=
  (r.plainHeader? name).any fun v => Text.hasInfix word.toList (Text.asciiLower v.toList)

/-- **Why a request does not open a web socket here**: headers are missing, or the connection cannot
change. -/
def socketRefusal (r : Request) : Response :=
  if r.method != .get then .refuse 405 "a web socket is opened by a request for the whole"
  else if r.headerHasWord "connection" "upgrade" &&
      ((r.plainHeader? "upgrade").any fun v =>
        Text.asciiLower v.toList == "websocket".toList) &&
      r.header? "sec-websocket-version" == some "13" &&
      (r.header? "sec-websocket-key").isSome then
    .refuse 426 "the connection cannot be changed"
  else .refuse 400 "headers of a web socket are missing"

end Request

end FleetControl.Rest
