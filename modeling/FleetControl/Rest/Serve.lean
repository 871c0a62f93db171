import FleetControl.Record.Summary
import FleetControl.Rest.Command
import FleetControl.Service.Node
import FleetControl.Service.Workload

/-!
# Serving requests

`Command.run` runs a command and says what came of it; `serve` answers a request, and `openTerminal` one that
comes over a web socket. What is told of a single workload is told to its owner and to administrators only.
-/

namespace FleetControl.Rest

/-- The version that is reported. -/
def version : String := "0.1.0"

/-- **A workload that the caller may see.** -/
def visibleWorkload (p : Principal) (id : RecordId) : Job Workload := do
  let w ← Service.get id
  if p.canManage w then pure w
  else Job.fail (.permissionDenied
    ("workload " ++ toString id.toNat ++ " belongs to another user"))

/-- The answer that holds a workload. -/
def workloadResponse (w : Workload) : Response := .json w.json

/-- A node as it is told of. -/
def nodeJson (n : Node) : Json := (NodeSummary.ofNode n).json

/-- The answer on the state of the whole. -/
def statusResponse (nodes : List Node) (workloads : Paged Workload) : Response :=
  .json (.obj [("version", .str version), ("nodes", .int nodes.length),
    ("connected_nodes", .int (nodes.countP fun n => n.connectivity == .connected)),
    ("workloads", .int workloads.total)])

/-- **Run a command**: the answer, unless the operation fails. -/
def Command.run (v : Service) : Command → Job Response
  | candidates spec image => do
    pure (.json (.list Candidate.json (← Service.candidates spec image)))
  | catalog => do pure (.json (← Service.catalog).json)
  | listWorkloads p f page => do pure (.json ((← Service.list p f page).json Workload.json))
  | createWorkload p o => do pure (.made (← v.create p o).json)
  | deleteWorkloads p ids => do
    pure (.json (.obj [("deleted", .list .u64 (← v.deleteMany p ids))]))
  | showWorkload p id => workloadResponse <$> visibleWorkload p id
  | deleteWorkload p id => do
    v.delete p id
    pure (.bare 204)
  | startWorkload p id => workloadResponse <$> Service.start p id
  | stopWorkload p id => workloadResponse <$> v.stop p id
  | restartWorkload p id => workloadResponse <$> v.restart p id
  | stats p id => do
    let _ ← visibleWorkload p id
    pure (.json (← v.stats id).json)
  | logs p id tail => do
    let _ ← visibleWorkload p id
    pure ⟨200, .text (← Service.logs id tail), false⟩
  | listNodes => do pure (.json (.list nodeJson (← Service.nodes {})))
  | registerNode n => do pure (.made (nodeJson (← Service.registerNode n)))
  | updateNode id n => do pure (.json (nodeJson (← Service.updateNode id n)))
  | testNode id => do pure (.json (← Service.testNode id).json)
  | status => do
    let nodes ← Service.nodes {}
    pure (statusResponse nodes
      (← Job.findMany Job.workloads ({} : WorkloadFilter) { page := 1, size := 1 }))

/-- The answer to a command, failures included. -/
def Command.answer (v : Service) (c : Command) : Job Response := do
  match ← Job.attempt (c.run v) with
  | .ok r => pure r
  | .error e => pure e.response

/-- **Answer a request.** A request for the head alone gets no content. Where other origins are
allowed, their question whether they are is answered before anything else. -/
def serve (v : Service) (allowsAnyOrigin : Bool) (r : Request) : Job Response := do
  if allowsAnyOrigin && r.method == .options then
    pure { Response.bare 200 with allowsAnyOrigin := true }
  else
    let answer ← match Command.ofRequest r with
      | .error answer => pure answer
      | .ok c => c.answer v
    let answer := if r.method == .head then answer.withoutContent else answer
    pure { answer with allowsAnyOrigin }

/-! ## Terminals -/

/-- What a request for a terminal asks for: the caller, the workload and the shell that is wanted. -/
def terminalParts (r : Request) : Except Response (Principal × RecordId × Option String) := do
  match ← Operation.ofRequest r with
  | .terminal id => do
    let (p, id) ← callerAndId r id
    pure (p, id, ← r.queryText "shell")
  | _ => throw (.bare 404)

/-- **Open a terminal** over a web socket: the engine's address, the container and the shell that is wanted, or
the answer that refuses the socket. Whose workload it is is looked at before the socket opens. -/
def openTerminal (r : Request) : Job (Except Response (String × String × Option String)) := do
  match terminalParts r with
  | .error answer => pure (.error answer)
  | .ok (p, id, shell) =>
    match ← Job.attempt (Service.sessionTarget p id) with
    | .ok (address, container) => pure (.ok (address, container, shell))
    | .error e => pure (.error e.response)

end FleetControl.Rest
