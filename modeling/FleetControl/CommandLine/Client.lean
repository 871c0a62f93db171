import FleetControl.CommandLine.Grammar
import FleetControl.Record.Order
import FleetControl.Record.Principal
import FleetControl.Web.Message

/-!
# Commands of the client

What a person can ask of the control plane from a command line, and the request that each command
sends.
-/

namespace FleetControl.CommandLine

/-- **What a person can ask for.** -/
inductive Ask where
  | candidates (spec : RecordId) (image : Option RecordId)
  | create (o : Order)
  | list (page size : UInt64)
  | remove (ids : List RecordId)
  | start (id : RecordId)
  | stop (id : RecordId)
  | restart (id : RecordId)
  | stats (id : RecordId)
  | logs (id : RecordId) (tail : Option UInt64)
  | nodes
  | testNode (id : RecordId)
  | catalog
deriving Repr, DecidableEq, Inhabited

/-- A command line of the client: which control plane, on whose behalf, and what for. -/
structure Client where
  base : String
  principal : Principal
  ask : Ask
deriving Repr, DecidableEq, Inhabited

namespace Client

/-- One identifier. -/
def oneId : Form := { words := .one .long }

/-- What the client takes. -/
def grammar : Grammar :=
  { options :=
      [⟨"api", none, .text⟩, ⟨"user", none, .long⟩, ⟨"admin", none, .flag⟩,
       ⟨"verbose", some 'v', .flag⟩]
    commands :=
      [("candidates", { options := [⟨"image", none, .long⟩], words := .one .long }),
       ("create", { options :=
          [⟨"image", none, .long⟩, ⟨"spec", none, .long⟩, ⟨"node", none, .long⟩,
           ⟨"name", none, .text⟩, ⟨"remark", none, .text⟩] }),
       ("ps", { options := [⟨"page", none, .long⟩, ⟨"page-size", none, .long⟩] }),
       ("rm", { words := .some .long }),
       ("start", oneId), ("stop", oneId), ("restart", oneId), ("stats", oneId),
       ("logs", { options := [⟨"tail", none, .long⟩], words := .one .long }),
       ("nodes", {}), ("test-node", oneId), ("catalog", {})] }

/-- The order of a command line; image, spec and node must be given. -/
def order? (g : Given) : Option Order := do
  let imageId ← g.number? "image"
  let specId ← g.number? "spec"
  let nodeId ← g.number? "node"
  some { name := g.value? "name", imageId, specId, nodeId, remark := g.value? "remark" }

/-- What a command line asks for. -/
def ask? (g : Given) : Option Ask := do
  let id := g.numbers.headD 0
  match ← g.command with
  | "candidates" => some (.candidates id (g.number? "image"))
  | "create" => (order? g).map .create
  | "ps" => some (.list ((g.number? "page").getD 1) ((g.number? "page-size").getD 0))
  | "rm" => some (.remove g.numbers)
  | "start" => some (.start id)
  | "stop" => some (.stop id)
  | "restart" => some (.restart id)
  | "stats" => some (.stats id)
  | "logs" => some (.logs id (g.number? "tail"))
  | "nodes" => some .nodes
  | "test-node" => some (.testNode id)
  | "catalog" => some .catalog
  | _ => none

/-- **The client that a command line describes.** -/
def ofGiven? (g : Given) : Option Client := do
  let ask ← ask? g
  some
    { base := Text.trimEndChar '/' ((g.value? "api").getD "http://localhost:9090")
      principal := ⟨(g.number? "user").getD 1, g.has "admin"⟩
      ask := ask }

/-- Where workloads are. -/
def workloadsPath : String := "/api/v1/workloads"

/-- Where a workload is, or something of it. -/
def workloadPath (id : RecordId) (part : String) : String :=
  workloadsPath ++ "/" ++ toString id.toNat ++ "/" ++ part

/-- A number in a query. -/
def pair (name : String) (n : UInt64) : String × String := (name, toString n.toNat)

/-- The request of what is asked for, before the caller is named. -/
def Ask.request : Ask → Web.Request
  | .candidates spec image =>
    { method := .get, path := "/api/v1/specs/" ++ toString spec.toNat ++ "/candidates"
      query := image.toList.map (pair "image_id") }
  | .create o => { method := .post, path := workloadsPath, body := some o.json }
  | .list page size =>
    { method := .get, path := workloadsPath, query := [pair "page" page, pair "page_size" size] }
  | .remove ids =>
    { method := .delete, path := workloadsPath, body := some (.obj [("ids", .list .u64 ids)]) }
  | .start id => { method := .post, path := workloadPath id "start" }
  | .stop id => { method := .post, path := workloadPath id "stop" }
  | .restart id => { method := .post, path := workloadPath id "restart" }
  | .stats id => { method := .get, path := workloadPath id "stats" }
  | .logs id tail =>
    { method := .get, path := workloadPath id "logs", query := tail.toList.map (pair "tail") }
  | .nodes => { method := .get, path := "/api/v1/nodes" }
  | .testNode id =>
    { method := .post, path := "/api/v1/nodes/" ++ toString id.toNat ++ "/test" }
  | .catalog => { method := .get, path := "/api/v1/catalog" }

/-- **The request of a client**, which names the caller. -/
def request (c : Client) : Web.Request :=
  { Ask.request c.ask with
    headers :=
      [("x-fleet-user", toString c.principal.userId.toNat),
       ("x-fleet-admin", if c.principal.isAdmin then "true" else "false")] }

end Client

end FleetControl.CommandLine
