import FleetControl.Record.Node
import FleetControl.Record.Order
import FleetControl.Record.Workload
import FleetControl.Rest.Operation
import FleetControl.Rest.Parts
import FleetControl.Store.Page

/-!
# Commands

A command is an operation with everything it needs from its request: the caller where the operation
asks for one, identifiers, values of the query and the body. The parts are taken in an order of the
operation's own, and the first that is at fault settles the answer. Operations on nodes are for
administrators.
-/

namespace FleetControl.Rest

/-- **What to do for a request.** -/
inductive Command where
  | candidates (spec : RecordId) (image : Option RecordId)
  | catalog
  | listWorkloads (p : Principal) (f : WorkloadFilter) (page : Page)
  | createWorkload (p : Principal) (o : Order)
  | deleteWorkloads (p : Principal) (ids : List RecordId)
  | showWorkload (p : Principal) (id : RecordId)
  | deleteWorkload (p : Principal) (id : RecordId)
  | startWorkload (p : Principal) (id : RecordId)
  | stopWorkload (p : Principal) (id : RecordId)
  | restartWorkload (p : Principal) (id : RecordId)
  | stats (p : Principal) (id : RecordId)
  | logs (p : Principal) (id : RecordId) (tail : Option UInt64)
  | listNodes
  | registerNode (n : Node)
  | updateNode (id : RecordId) (n : Node)
  | testNode (id : RecordId)
  | status
deriving Inhabited

/-- Administrators pass. -/
def requireAdmin (p : Principal) : Except Response Unit :=
  if p.isAdmin then .ok ()
  else .error (Failure.response (.permissionDenied "node administration requires an administrator"))

/-- The identifiers in a request to delete workloads. -/
def readIds : Reader (List RecordId) :=
  Form.read <| .required "ids" (.list .u64)

/-- The filter and the page in a query for workloads. -/
def listQuery (r : Request) : Except Response (WorkloadFilter × Page) := do
  let page ← r.queryNumber "page"
  let size ← r.queryNumber "page_size"
  let status ← r.queryValue "status" fun s => Status.names.lookup s
  let nodeId ← r.queryNumber "node_id"
  let search ← r.queryText "search"
  pure ({ status, nodeId, search }, { page := page.getD 1, size := size.getD 0 })

/-- The node in a body. Times that it leaves out do not matter, for its record gets its own. -/
def nodeRecord (r : Request) : Except Response Node :=
  r.record (Node.read .epoch)

/-- A caller and an identifier in the path, in this order. -/
def callerAndId (r : Request) (part : String) : Except Response (Principal × RecordId) := do
  let p ← r.caller
  let id ← Request.pathId part
  pure (p, id)

namespace Command

/-- **The command that a request gives** for an operation. -/
def ofOperation (r : Request) : Operation → Except Response Command
  | .candidates spec => do
    let spec ← Request.pathId spec
    pure (candidates spec (← r.queryNumber "image_id"))
  | .catalog => pure catalog
  | .listWorkloads => do
    let p ← r.caller
    let (f, page) ← listQuery r
    pure (listWorkloads p f page)
  | .createWorkload => do
    let p ← r.caller
    pure (createWorkload p (← r.record Order.read))
  | .deleteWorkloads => do
    let p ← r.caller
    pure (deleteWorkloads p (← r.record readIds))
  | .showWorkload id => do
    let (p, id) ← callerAndId r id
    pure (showWorkload p id)
  | .deleteWorkload id => do
    let (p, id) ← callerAndId r id
    pure (deleteWorkload p id)
  | .startWorkload id => do
    let (p, id) ← callerAndId r id
    pure (startWorkload p id)
  | .stopWorkload id => do
    let (p, id) ← callerAndId r id
    pure (stopWorkload p id)
  | .restartWorkload id => do
    let (p, id) ← callerAndId r id
    pure (restartWorkload p id)
  | .stats id => do
    let (p, id) ← callerAndId r id
    pure (stats p id)
  | .logs id => do
    let (p, id) ← callerAndId r id
    pure (logs p id (← r.queryNumber "tail"))
  | .terminal id => do
    let _ ← callerAndId r id
    let _ ← r.queryText "shell"
    throw r.socketRefusal
  | .listNodes => pure listNodes
  | .registerNode => do
    let p ← r.caller
    let n ← nodeRecord r
    requireAdmin p
    pure (registerNode n)
  | .updateNode id => do
    let (p, id) ← callerAndId r id
    let n ← nodeRecord r
    requireAdmin p
    pure (updateNode id n)
  | .testNode id => do
    let (p, id) ← callerAndId r id
    requireAdmin p
    pure (testNode id)
  | .status => pure status

/-- **The command that a request gives**, or the answer that it gives none. -/
def ofRequest (r : Request) : Except Response Command := do
  ofOperation r (← Operation.ofRequest r)

end Command

end FleetControl.Rest
