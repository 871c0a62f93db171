import FleetControl.CommandLine.Client
import FleetControl.CommandLine.Table
import FleetControl.Record.Catalog
import FleetControl.Record.Workload
import FleetControl.Service.Node

/-!
# Reports of the client

What a person is shown of the answer to each command. An answer is read leniently: members that are
not shown may be missing.
-/

namespace FleetControl.CommandLine

/-- What a person is shown: lines for the output, and lines beside it. -/
structure Report where
  lines : List String := []
  notes : List String := []
deriving Repr, DecidableEq, Inhabited

namespace Report

/-- A number as shown. -/
def digits (n : UInt64) : String := toString n.toNat

/-! ## Candidates -/

/-- Columns of the table of candidates. -/
def candidateColumns : List (String × Nat) :=
  [("ID", 6), ("NAME", 20), ("REGION", 12), ("GPU", 16), ("GPUS", 8), ("CPU", 8), ("MEM(G)", 10),
   ("GPU MEM", 10), ("PRICE", 8)]

/-- Read a candidate as the cells of its row. -/
def candidateCells : Reader (List String) :=
  Form.read <| cells <$> .required "node_id" .u64
    <*> .required "name" .text
    <*> .withDefault "region" .text ""
    <*> .nullable "gpu_name" .text
    <*> .required "gpu_count" .u64
    <*> .required "available_gpus" .u64
    <*> .required "available_cpu" .u64
    <*> .required "available_memory_gb" .u64
    <*> .required "available_gpu_memory_gb" .u64
    <*> .withDefault "price_per_hour" .double 0
where
  cells nodeId name region gpuName gpuCount freeGpus freeCpu freeMemoryGb freeGpuMemoryGb price :=
    [digits nodeId, name, orDash (some region), orDash gpuName,
      digits freeGpus ++ "/" ++ digits gpuCount, digits freeCpu, digits freeMemoryGb,
      digits freeGpuMemoryGb ++ "G", Number.fixed 2 price]

/-- The table of candidates. -/
def candidates (spec : RecordId) (rows : List (List String)) : Report :=
  if rows.isEmpty then { lines := ["No node can host spec " ++ digits spec] }
  else { lines := table candidateColumns 104 rows }

/-! ## Workloads -/

/-- What is shown of a new workload. -/
def created (w : Workload) : Report :=
  { lines :=
      ["Workload " ++ digits w.id ++ " created", "  Container: " ++ orDash w.containerName,
       "  Node: " ++ digits w.nodeId, "  Status: " ++ w.status.name] }

/-- Columns of the table of workloads. -/
def workloadColumns : List (String × Nat) :=
  [("ID", 6), ("CONTAINER", 36), ("NODE", 6), ("SPEC", 6), ("OWNER", 6), ("STATUS", 12)]

/-- The cells of a workload's row. -/
def workloadCells (w : Workload) : List String :=
  [digits w.id, orDash w.containerName, digits w.nodeId, digits w.specId, digits w.ownerId,
   w.status.name]

/-- Read a page of workloads with the number of all. -/
def readPage : Reader (List Workload × UInt64) :=
  Form.read <| Prod.mk <$> .required "items" (.list (Workload.read .epoch))
    <*> .required "total" .u64

/-- The table of workloads. -/
def workloads (items : List Workload) (total : UInt64) : Report :=
  if items.isEmpty then { lines := ["No workloads found"] }
  else
    { lines := table workloadColumns 78 (items.map workloadCells) ++
        ["", toString items.length ++ " of " ++ digits total ++ " workloads"] }

/-- Read which workloads were removed. -/
def readRemoved : Reader (List RecordId) :=
  Form.read <| .required "deleted" (.list .u64)

/-- Which workloads were removed, and beside the output which were not. -/
def removed (asked done : List RecordId) : Report :=
  { lines := (asked.filter done.contains).map fun id => "Workload " ++ digits id ++ " deleted"
    notes := (asked.filter fun id => !done.contains id).map fun id =>
      "Workload " ++ digits id ++ " was not deleted" }

/-- A workload's status. -/
def state (w : Workload) : Report :=
  { lines := ["Workload " ++ digits w.id ++ " is " ++ w.status.name] }

/-- Read statistics as the lines that show them. -/
def readStats : Reader (List String) :=
  Form.read <| shown <$> .required "cpu_usage_percent" .double
    <*> .required "cpu_usage_percent_raw" .double
    <*> .required "memory_usage" .u64
    <*> .required "memory_limit" .u64
    <*> .required "memory_usage_percent" .double
    <*> .required "pids" .u64
    <*> .required "gpu_memory_size_gb" .double
    <*> .required "gpu_memory_usage_rate" .double
where
  shown cpu raw usage limit memory processes size rate :=
    ["  CPU: " ++ Number.fixed 1 cpu ++ "% (" ++ Number.fixed 1 raw ++ "% of one core)",
     "  Memory: " ++ bytesText usage ++ " / " ++ bytesText limit ++ " (" ++ Number.fixed 1 memory ++
       "%)",
     "  PIDs: " ++ digits processes,
     "  GPU memory: " ++ Number.fixed 1 size ++ "G (" ++ Number.fixed 1 rate ++ "% used)"]

/-- Statistics of a workload. -/
def stats (id : RecordId) (lines : List String) : Report :=
  { lines := ("Workload " ++ digits id) :: lines }

/-! ## Nodes -/

/-- Columns of the table of nodes. -/
def nodeColumns : List (String × Nat) :=
  [("ID", 6), ("NAME", 20), ("REGION", 12), ("ENGINE", 28), ("GPU", 20), ("LISTED", 8),
   ("STATUS", 10)]

/-- The cards of a node. -/
def cardsText (name : Option String) (count perCardGb : UInt64) : String :=
  match name with
  | some n => if 0 < count then n ++ " x" ++ digits count ++ " (" ++ digits perCardGb ++ "G)" else "-"
  | none => "-"

/-- Read a node as the cells of its row. -/
def nodeCells : Reader (List String) :=
  Form.read <| cells <$> .required "id" .u64
    <*> .required "name" .text
    <*> .required "region" .text
    <*> .required "engine_address" .text
    <*> .nullable "gpu_name" .text
    <*> .required "gpu_count" .u64
    <*> .required "gpu_memory_per_card_gb" .u64
    <*> .required "listed" .bool
    <*> .required "connectivity" Connectivity.read
where
  cells id name region address gpuName gpuCount perCardGb listed (connectivity : Connectivity) :=
    [digits id, name, orDash (some region), address, cardsText gpuName gpuCount perCardGb,
      if listed then "true" else "false", connectivity.name]

/-- The table of nodes. -/
def nodes (rows : List (List String)) : Report :=
  if rows.isEmpty then { lines := ["No nodes registered"] }
  else { lines := table nodeColumns 110 rows }

/-- Read what a probe found. -/
def readTest : Reader Service.NodeTest :=
  Form.read <| Service.NodeTest.mk <$> .required "ok" .bool
    <*> .required "message" .text

/-- What a probe found. -/
def test (id : RecordId) (t : Service.NodeTest) : Report :=
  { lines := ["Node " ++ digits id ++ (if t.isAlive then " is reachable: " else " is unreachable: ")
      ++ t.message] }

/-! ## The catalog -/

/-- The lists to choose from. -/
def catalog (c : Catalog) : Report :=
  let entry (id : RecordId) (label : String) : String := "  [" ++ digits id ++ "] " ++ label
  { lines :=
      ["Images:"] ++
      c.images.map (fun i => entry i.value i.label ++
        if i.supportsSplit then " (memory split)" else "") ++
      ["", "Nodes:"] ++ c.nodes.map (fun n => entry n.value n.label) ++
      ["", "Specs:"] ++
      c.specs.map fun s => entry s.value s.label ++ "  " ++ Number.fixed 2 s.pricePerHour ++ "/h" }

end Report

end FleetControl.CommandLine
