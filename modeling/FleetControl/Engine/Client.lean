import FleetControl.Credential.Identity
import FleetControl.Engine.Address
import FleetControl.Engine.Call
import FleetControl.Engine.Multiplex
import FleetControl.Settings
import FleetControl.Web.Message

/-!
# An engine over the network

A client answers the calls of a dialog by requests to the engine's remote interface. Each call is one
request, the output of a command two. An answer that is no success is a refusal with the engine's own
message; no answer is a failed connection.
-/

namespace FleetControl.Engine

open Web (Request Outcome Reply Transport)

/-- **A client of one node's engine.** -/
structure Client where
  /-- The node's own spelling of the address. -/
  address : String
  base : String
  /-- How long an answer may take, in seconds. -/
  timeout : UInt64
deriving Repr, DecidableEq, Inhabited

namespace Client

/-- Credentials that a connection can be built with. Whether there is an identity at all is looked at
before the authorities, and these before whether the identity is sound. -/
def checkCredentials (c : Credentials) : Except Failure Unit :=
  match Credential.Identity.ofText? (Text.trim c.certificate ++ "\n" ++ Text.trim c.key) with
  | none => .error (.config "invalid client identity: builder error")
  | some identity =>
    if Credential.areAuthorities c.ca && identity.isConsistent then .ok ()
    else .error (.connection "failed to build engine client: builder error")

/-- **A client for a node.** The address is looked at before the certificates. -/
def ofNode (s : EngineSettings) (n : Node) : Except Failure Client := do
  let base ← baseUrl n.engineAddress n.useTls
  if n.useTls then checkCredentials (← Credentials.ofNode n)
  return ⟨n.engineAddress, base, s.requestTimeout⟩

/-! ## Frames of a stream -/

/-- Blanks of a line. -/
def isLineBlank (b : UInt8) : Bool := b == 32 || b == 9 || b == 10 || b == 12 || b == 13

/-- The frame of a line, if the line holds one. -/
def frame? (line : List UInt8) : Option Frame :=
  if line.all isLineBlank then none else (Frame.ofJson.whole line).toOption

/-- The first line of what has arrived, and the rest. -/
def line? : List UInt8 → Option (List UInt8 × List UInt8)
  | [] => none
  | b :: bs => if b == 10 then some ([b], bs) else (line? bs).map fun (l, r) => (b :: l, r)

/-- Take the complete lines out of what has arrived, until `most` frames are found. -/
def drain (most : Nat) : Nat → List Frame → List UInt8 → List Frame × List UInt8
  | 0, found, buffer => (found, buffer)
  | fuel + 1, found, buffer =>
    match line? buffer with
    | none => (found, buffer)
    | some (line, rest) =>
      let found := found ++ (frame? line).toList
      if most ≤ found.length then (found, rest) else drain most fuel found rest

/-- **The first frames of a stream** that arrives in chunks. -/
def framesFrom (most : Nat) : List Frame → List UInt8 → List (List UInt8) → List Frame
  | found, _, [] => found
  | found, buffer, chunk :: rest =>
    if most ≤ found.length then found
    else
      let buffer := buffer ++ chunk
      let (found, buffer) := drain most buffer.length found buffer
      framesFrom most found buffer rest

/-! ## Requests -/

/-- What an engine says in a refusal: the message of its answer, or the whole answer. -/
def refusalText (r : Reply) : String :=
  let body := if r.ending == .complete then Text.Utf8.decode r.bytes else ""
  (Reader.whole? (Form.read (.required "message" .text)) body).getD (Text.trim body)

/-- The reply to a request, if it is no refusal. -/
def replyOf (late : String) : Outcome → Except Failure Reply
  | .unreachable reason => .error (.connection ("engine unreachable: " ++ reason))
  | .late => .error (.connection late)
  | .dropped reason => .error (.connection reason)
  | .reply r =>
    if r.isSuccess || r.status == 101 then .ok r
    else .error (.engine r.status (refusalText r))

variable {σ : Type}

/-- Send a request and take its reply. -/
def ask (send : Transport σ) (r : Request) (s : σ) : Except Failure Reply × σ :=
  let (outcome, s) := send r s
  (replyOf "engine request timed out" outcome, s)

/-- All bytes of a reply, which must be complete. -/
def wholeBody (r : Reply) : Except Failure (List UInt8) :=
  match r.ending with
  | .complete => .ok r.bytes
  | .broken => .error (.connection "error decoding response body")
  | .stalled => .error (.connection "engine request timed out")

/-- A reply as a value. -/
def readBody {α : Type} (reader : Reader α) (r : Reply) : Except Failure α := do
  let bytes ← wholeBody r
  (reader.whole bytes).mapError fun _ => .connection "error decoding response body"

/-- Output as text, without headers of frames. -/
def outputText (r : Reply) : Except Failure String :=
  (wholeBody r).map fun bytes => Text.Utf8.decode (Multiplex.demultiplex bytes)

/-- The identifier in the answer to a creation. -/
def identifier : Reader String :=
  Form.read <| (fun id _ => id) <$> .required "Id" .text
    <*> .optional "Warnings" (.list .text)

/-- A request for a change of state; that the state is there already is no refusal. -/
def settle : Except Failure Reply → Except Failure Unit
  | .ok _ => .ok ()
  | .error (.engine 304 _) => .ok ()
  | .error e => .error e

/-- A truth value in a query. -/
def flag (b : Bool) : String := if b then "true" else "false"

/-- What a command is prepared from. -/
def commandBody (interactive : Bool) (command : List String) : Json :=
  .obj [("AttachStdin", .bool interactive), ("AttachStdout", .bool true),
    ("AttachStderr", .bool true), ("Tty", .bool interactive), ("Cmd", .list .str command)]

/-- Prepare a command in a container: its identifier. -/
def prepare (c : Client) (send : Transport σ) (id : String) (interactive : Bool)
    (command : List String) (s : σ) : Except Failure String × σ :=
  let (r, s) := ask send
    { method := .post, path := "/containers/" ++ id ++ "/exec",
      body := some (commandBody interactive command), timeout := some c.timeout } s
  (r.bind (readBody identifier), s)

/-- The request that starts a prepared command. -/
def startRequest (c : Client) (id : String) (interactive : Bool) : Request :=
  { method := .post, path := "/exec/" ++ id ++ "/start",
    headers := if interactive then [("connection", "Upgrade"), ("upgrade", "tcp")] else [],
    body := some (.obj [("Detach", .bool false), ("Tty", .bool interactive)]),
    timeout := some c.timeout }

/-- A request for a change of state, with a grace in seconds that the answer may take longer. -/
def stateRequest (c : Client) (id action : String) (grace : Option UInt64) : Request :=
  { method := .post, path := "/containers/" ++ id ++ "/" ++ action,
    query := grace.toList.map fun g => ("t", toString g.toNat),
    timeout := some (c.timeout + grace.getD 0) }

/-- The number of lines in a query for output. -/
def tailText : Option UInt64 → String
  | none => "all"
  | some n => toString n.toNat

/-- The request of a call that is one request. -/
def request (c : Client) : {β : Type} → Call β → Request
  | _, .ping => { method := .get, path := "/_ping", timeout := some c.timeout }
  | _, .createVolume v =>
    { method := .post, path := "/volumes/create", body := some v.json, timeout := some c.timeout }
  | _, .removeVolume name =>
    { method := .delete, path := "/volumes/" ++ name, query := [("force", "true")],
      timeout := some c.timeout }
  | _, .createContainer name body =>
    { method := .post, path := "/containers/create", query := [("name", name)],
      body := some body.json, timeout := some c.timeout }
  | _, .start id => stateRequest c id "start" none
  | _, .stop id grace => stateRequest c id "stop" (some grace)
  | _, .restart id grace => stateRequest c id "restart" (some grace)
  | _, .remove id force volumes =>
    { method := .delete, path := "/containers/" ++ id,
      query := [("force", flag force), ("v", flag volumes)], timeout := some c.timeout }
  | _, .inspect id =>
    { method := .get, path := "/containers/" ++ id ++ "/json", timeout := some c.timeout }
  | _, .logs id tail =>
    { method := .get, path := "/containers/" ++ id ++ "/logs",
      query := [("stdout", "true"), ("stderr", "true"), ("timestamps", "true"),
        ("tail", tailText tail)],
      timeout := some c.timeout }
  | _, .stats id _ _ =>
    { method := .get, path := "/containers/" ++ id ++ "/stats", query := [("stream", "true")] }
  | _, .output id command | _, .prepareShell id command =>
    { method := .post, path := "/containers/" ++ id ++ "/exec",
      body := some (commandBody true command), timeout := some c.timeout }
  | _, .attach shell => startRequest c shell true
  | _, .resize shell rows cols =>
    { method := .post, path := "/exec/" ++ shell ++ "/resize",
      query := [("h", toString rows.toNat), ("w", toString cols.toNat)],
      timeout := some c.timeout }

/-- **Answer a call** by requests. -/
def answer (c : Client) (send : Transport σ) : {β : Type} → Call β → σ → Except Failure β × σ
  | _, .createContainer name body, s =>
    let (r, s) := ask send (c.request (.createContainer name body)) s
    (r.bind (readBody identifier), s)
  | _, .start id, s => let (r, s) := ask send (c.request (.start id)) s; (settle r, s)
  | _, .stop id g, s => let (r, s) := ask send (c.request (.stop id g)) s; (settle r, s)
  | _, .restart id g, s => let (r, s) := ask send (c.request (.restart id g)) s; (settle r, s)
  | _, .inspect id, s =>
    let (r, s) := ask send (c.request (.inspect id)) s
    (r.bind (readBody Inspection.read), s)
  | _, .logs id tail, s =>
    let (r, s) := ask send (c.request (.logs id tail)) s
    (r.bind outputText, s)
  | _, .stats id most window, s =>
    let (outcome, s) := send (c.request (.stats id most window)) s
    let r := replyOf "stats stream did not open in time" outcome
    (r.map fun r => framesFrom most [] [] r.chunks, s)
  | _, .output id command, s =>
    match prepare c send id false command s with
    | (.error e, s) => (.error e, s)
    | (.ok exec, s) =>
      let (r, s) := ask send (startRequest c exec false) s
      (r.bind outputText, s)
  | _, .prepareShell id command, s => prepare c send id true command s
  | _, .attach shell, s =>
    let (outcome, s) := send (startRequest c shell true) s
    let r := replyOf "exec attach timed out" outcome
    (r.bind fun r =>
      if r.status == 101 then .ok () else .error (.connection "exec attach upgrade failed"), s)
  | _, .ping, s => let (r, s) := ask send (c.request .ping) s; (r.map fun _ => (), s)
  | _, .createVolume v, s =>
    let (r, s) := ask send (c.request (.createVolume v)) s; (r.map fun _ => (), s)
  | _, .removeVolume n, s =>
    let (r, s) := ask send (c.request (.removeVolume n)) s; (r.map fun _ => (), s)
  | _, .remove id f v, s =>
    let (r, s) := ask send (c.request (.remove id f v)) s; (r.map fun _ => (), s)
  | _, .resize x rows cols, s =>
    let (r, s) := ask send (c.request (.resize x rows cols)) s; (r.map fun _ => (), s)

/-- **Run a dialog** over the network. -/
def run {α : Type} (c : Client) (send : Transport σ) : Dialog α → σ → α × σ
  | .done a, s => (a, s)
  | .ask call next, s =>
    let (r, s) := c.answer send call s
    run c send (next r) s

/-- **Whether an engine answers**, and what a person is told of it. -/
def test (settings : EngineSettings) (send : Transport σ) (n : Node) (s : σ) :
    (Bool × String) × σ :=
  match ofNode settings n with
  | .error e => ((false, e.message), s)
  | .ok c =>
    let (outcome, s) := send { c.request .ping with timeout := some settings.probeTimeout } s
    match outcome with
    | .late =>
      ((false, "engine did not answer within " ++ toString settings.probeTimeout.toNat ++ "s"), s)
    | outcome =>
      match replyOf "engine request timed out" outcome with
      | .ok _ => ((true, "connected"), s)
      | .error e => ((false, e.message), s)

end Client

end FleetControl.Engine
