import FleetControl.Placement.Candidate
import FleetControl.Store.Basic

/-!
# Occupancy of the nodes

What is committed on nodes follows from the records alone: the workloads that hold room are replayed
onto their nodes in the order of their identifiers. Nothing is reserved between a query for candidates
and the placement that follows it.
-/

namespace FleetControl

/-- **What is committed on each of some nodes**, by the nodes' identifiers. -/
abbrev Occupancy := List (RecordId × Usage)

namespace Occupancy

/-- Nothing committed on any of the nodes; of two with one identifier the later counts. -/
def untouched (ns : List Node) : Occupancy := (ns.map fun n => (n.id, .untouched n)).reverse

/-- Change what is committed on one node. -/
def adjust (id : RecordId) (f : Usage → Usage) (o : Occupancy) : Occupancy :=
  o.map fun (k, u) => (k, if k == id then f u else u)

end Occupancy

/-- **A replay under way**: what is committed so far, and the records that were looked up for it. -/
structure Replay where
  occupancy : Occupancy
  specs : List (RecordId × Option Spec) := []
  images : List (RecordId × Option Image) := []

namespace Replay

/-- Look a record up, unless that was done before. -/
def learn {α : Type} (find : RecordId → Option α) (id : RecordId)
    (known : List (RecordId × Option α)) : List (RecordId × Option α) :=
  if (known.lookup id).isSome then known else (id, find id) :: known

/-- Account for one workload. One on a node that is not asked about is passed over, and one without a
live spec takes nothing. -/
def account (s : Store) (pick : Strategy) (r : Replay) (w : Workload) : Replay :=
  if (r.occupancy.lookup w.nodeId).isNone then r
  else
    let r := { r with
      specs := learn s.specs.find? w.specId r.specs
      images := learn s.images.find? w.imageId r.images }
    match (r.specs.lookup w.specId).join with
    | none => r
    | some spec =>
      let isPartitioned := spec.partitions (r.images.lookup w.imageId).join
      { r with occupancy := r.occupancy.adjust w.nodeId fun u => u.add spec isPartitioned pick }

end Replay

namespace Store

/-- The workloads that hold room, wherever they are. -/
def holders (s : Store) : List Workload :=
  (s.workloads.list ({} : WorkloadFilter)).filter (·.holdsCapacity)

/-- **What is committed on nodes.** -/
def occupancy (s : Store) (pick : Strategy) (ns : List Node) : Occupancy :=
  (s.holders.foldl (Replay.account s pick) { occupancy := .untouched ns }).occupancy

/-- **What is committed on one node.** -/
def usage (s : Store) (pick : Strategy) (n : Node) : Usage :=
  ((s.occupancy pick [n]).lookup n.id).getD (.untouched n)

/-- **Whether a node can take a spec**, of what is committed on some nodes, and what is free there. -/
def candidate? (o : Occupancy) (pick : Strategy) (spec : Spec) (image : Option Image) (n : Node) :
    Option Candidate := do
  Candidate.of? n (← o.lookup n.id) spec (spec.partitions image) pick

/-- The nodes that new workloads may be placed on. -/
def listedNodes (s : Store) : List Node := s.nodes.list { listed := some true : NodeFilter }

/-- **The listed nodes that can take a spec now**, by identifier. -/
def candidates (s : Store) (pick : Strategy) (spec : Spec) (image : Option Image) :
    List Candidate :=
  (s.listedNodes.filterMap (candidate? (s.occupancy pick s.listedNodes) pick spec image)).mergeSort
    fun a b => a.nodeId ≤ b.nodeId

/-- The candidate that a node is for a spec, or that it is none. -/
def checkNode (s : Store) (pick : Strategy) (spec : Spec) (image : Image) (n : Node) :
    Except Failure Candidate :=
  match candidate? (s.occupancy pick [n]) pick spec (some image) n with
  | some c => .ok c
  | none => .error (.invalidRequest
      ("node " ++ toString n.id.toNat ++ " has no capacity for spec " ++ toString spec.id.toNat ++
        " with image " ++ toString image.id.toNat))

end Store

end FleetControl
