import FleetControl.Failure
import FleetControl.Web.Message

/-!
# Requests to the interface and its answers

A request as it comes in, and the answer it gets. A failure of an operation becomes an answer with a
status for its cause and the failure's message as text.
-/

namespace FleetControl.Rest

/-- **A request to the interface.** -/
structure Request where
  method : Web.Method
  /-- Path and query as sent. -/
  target : String
  headers : List (String × String) := []
  body : String := ""
deriving Inhabited

namespace Request

/-- The path of a target that may begin with a scheme and an authority; an empty one is the root. -/
def pathOf (cs : List Char) : List Char :=
  if cs.head? == some '/' then cs
  else match Text.splitOnce ':' cs with
    | some (_, '/' :: '/' :: rest) =>
      let path := rest.dropWhile (· != '/')
      if path.isEmpty then ['/'] else path
    | _ => cs

/-- The path as sent, and the query if there is one. A fragment after them is no part of either. -/
def parts (r : Request) : List Char × List Char :=
  let target := r.target.toList.takeWhile (· != '#')
  let (path, query) := (Text.splitOnce '?' target).getD (target, [])
  (pathOf path, query)

/-- The parts of the path. -/
def segments (r : Request) : List String := (Text.splitAll '/' r.parts.1).map String.ofList

/-- The names and values of the query. -/
def query (r : Request) : List (String × String) := Web.pairsOf r.parts.2

/-- Letter case aside, two header names are one. -/
def sameName (a b : String) : Bool := Text.asciiLower a.toList == Text.asciiLower b.toList

/-- The value of a header. -/
def header? (r : Request) (name : String) : Option String :=
  (r.headers.find? fun (k, _) => sameName k name).map (·.2)

/-- The value of a header, if it is plain text. -/
def plainHeader? (r : Request) (name : String) : Option String :=
  (r.header? name).filter fun v =>
    v.toList.all fun c => c == '\t' || (0x20 ≤ c.toNat && c.toNat < 0x7F)

end Request

/-- What an answer holds. -/
inductive Content where
  | empty
  | text (s : String)
  | json (v : Json)
  /-- The request could not be taken up at all, for a reason that is put in free words. -/
  | refusal (reason : String)
deriving Inhabited

/-- **An answer of the interface.** -/
structure Response where
  status : UInt16
  content : Content
  /-- Pages of other origins may read the answer. -/
  allowsAnyOrigin : Bool := false
deriving Inhabited

namespace Response

/-- An answer that holds a value. -/
def json (v : Json) : Response := ⟨200, .json v, false⟩

/-- An answer that says that something was made. -/
def made (v : Json) : Response := ⟨201, .json v, false⟩

/-- An answer that holds nothing. -/
def bare (status : UInt16) : Response := ⟨status, .empty, false⟩

/-- A request that is not taken up. -/
def refuse (status : UInt16) (reason : String) : Response := ⟨status, .refusal reason, false⟩

/-- An answer without its content. -/
def withoutContent (r : Response) : Response := { r with content := .empty }

end Response

end FleetControl.Rest

namespace FleetControl

/-- **The status of an answer for a failure.** -/
def Failure.status : Failure → UInt16
  | notFound _ => 404
  | permissionDenied _ => 403
  | invalidRequest _ | incomplete _ => 400
  | connection _ | provision _ | engine _ _ => 502
  | storage _ | config _ | host _ | unreadable _ | internal _ => 500

/-- The answer for a failure. -/
def Failure.response (e : Failure) : Rest.Response := ⟨e.status, .text e.message, false⟩

end FleetControl
