import FleetControl.Record.Basic
import FleetControl.Text.Lowercase

/-!
# Workloads

A workload is placed on one node, sized by a spec and made from an image. Once provisioned it records
the container that the engine runs for it, its unit. A workload holds capacity on its node until it
fails or is removed.
-/

namespace FleetControl

/-- **Where a workload is in its life.** -/
inductive Status where
  | creating
  | created
  | running
  | paused
  | restarting
  | stopped
  | removing
  | dead
  | failed
  | removed
  | unknown
deriving Repr, DecidableEq, Inhabited

namespace Status

/-- The name of a status. -/
def name : Status → String
  | creating => "creating"
  | created => "created"
  | running => "running"
  | paused => "paused"
  | restarting => "restarting"
  | stopped => "stopped"
  | removing => "removing"
  | dead => "dead"
  | failed => "failed"
  | removed => "removed"
  | unknown => "unknown"

/-- Every status. -/
def all : List Status :=
  [creating, created, running, paused, restarting, stopped, removing, dead, failed, removed, unknown]

/-- Each status by name. -/
def names : List (String × Status) := all.map fun s => (s.name, s)

/-- A status as written. -/
def json (s : Status) : Json := .str s.name

/-- Read a status. -/
def read : Reader Status := Reader.choice names

/-- **The status that an engine's word for a container's state means**, blanks around it and letter
case aside. -/
def ofEngineState (state : String) : Status :=
  match String.ofList (Text.asciiLower (Text.strip state.toList)) with
  | "created" => created
  | "running" => running
  | "paused" => paused
  | "restarting" => restarting
  | "exited" => stopped
  | "removing" => removing
  | "dead" => dead
  | _ => unknown

end Status

/-- **A workload.** -/
structure Workload where
  id : RecordId
  /-- The name its owner asked for. -/
  name : Option String
  imageId : RecordId
  specId : RecordId
  nodeId : RecordId
  ownerId : RecordId
  containerId : Option String
  containerName : Option String
  status : Status
  remark : String
  stamps : Stamps
deriving Repr, DecidableEq, Inhabited

namespace Workload

/-- A workload with nothing set. -/
def blank : Workload :=
  { id := 0, name := none, imageId := 0, specId := 0, nodeId := 0, ownerId := 0,
    containerId := none, containerName := none, status := .creating, remark := "",
    stamps := .fresh .epoch }

/-- Read a workload; image, spec and node must be there. -/
def read (now : Time.Instant) : Reader Workload :=
  Form.read <| Workload.mk <$> .withDefault "id" .u64 0
    <*> .optional "name" .text
    <*> .required "image_id" .u64
    <*> .required "spec_id" .u64
    <*> .required "node_id" .u64
    <*> .withDefault "owner_id" .u64 0
    <*> .optional "container_id" .text
    <*> .optional "container_name" .text
    <*> .withDefault "status" Status.read .creating
    <*> .withDefault "remark" .text ""
    <*> Stamps.form now

/-- A workload as written. -/
def json (w : Workload) : Json :=
  .obj ([("id", .u64 w.id), ("name", .opt .str w.name), ("image_id", .u64 w.imageId),
    ("spec_id", .u64 w.specId), ("node_id", .u64 w.nodeId), ("owner_id", .u64 w.ownerId),
    ("container_id", .opt .str w.containerId), ("container_name", .opt .str w.containerName),
    ("status", w.status.json), ("remark", .str w.remark)] ++ w.stamps.members)

/-- The container that runs the workload, if one is recorded. -/
def unit? (w : Workload) : Option String := w.containerId.filter fun c => !c.isEmpty

/-- The workload takes room on its node. -/
def holdsCapacity (w : Workload) : Bool :=
  w.stamps.deleted.isNone && w.status != .failed && w.status != .removed

end Workload

/-- Which workloads are wanted. An empty search text is no search. -/
structure WorkloadFilter where
  ownerId : Option RecordId := none
  nodeId : Option RecordId := none
  specId : Option RecordId := none
  imageId : Option RecordId := none
  status : Option Status := none
  /-- Sought in the name and in the container's identifier. -/
  search : Option String := none
  hasUnit : Option Bool := none
deriving Repr, DecidableEq, Inhabited

namespace WorkloadFilter

/-- Read a filter. -/
def read : Reader WorkloadFilter :=
  Form.read <| WorkloadFilter.mk <$> .nullable "owner_id" .u64
    <*> .nullable "node_id" .u64
    <*> .nullable "spec_id" .u64
    <*> .nullable "image_id" .u64
    <*> .nullable "status" Status.read
    <*> .nullable "search" .text
    <*> .nullable "has_unit" .bool

/-- A filter as written. -/
def json (f : WorkloadFilter) : Json :=
  .obj [("owner_id", .opt .u64 f.ownerId), ("node_id", .opt .u64 f.nodeId),
    ("spec_id", .opt .u64 f.specId), ("image_id", .opt .u64 f.imageId),
    ("status", .opt Status.json f.status), ("search", .opt .str f.search),
    ("has_unit", .opt .bool f.hasUnit)]

/-- The workloads on one node. -/
def onNode (id : RecordId) : WorkloadFilter := { nodeId := some id }

/-- Whether a text is found in the name or in the container's identifier. -/
def finds (text : String) (w : Workload) : Bool :=
  w.name.any (Text.containsFolded · text) || w.containerId.any (Text.containsFolded · text)

/-- Whether a workload is wanted. -/
def selects (f : WorkloadFilter) (w : Workload) : Bool :=
  f.ownerId.all (· == w.ownerId) &&
  f.nodeId.all (· == w.nodeId) &&
  f.specId.all (· == w.specId) &&
  f.imageId.all (· == w.imageId) &&
  f.status.all (· == w.status) &&
  f.hasUnit.all (· == w.unit?.isSome) &&
  f.search.all fun text => text.isEmpty || finds text w

end WorkloadFilter

/-- A change of some fields of a workload. -/
structure WorkloadPatch where
  status : Option Status := none
  containerId : Option String := none
  containerName : Option String := none
  remark : Option String := none
deriving Repr, DecidableEq, Inhabited

/-- A change of the status alone. -/
def WorkloadPatch.ofStatus (s : Status) : WorkloadPatch := { status := some s }

instance : Record Workload WorkloadFilter WorkloadPatch where
  kind := "workload"
  id := Workload.id
  withId i w := { w with id := i }
  stamps := Workload.stamps
  withStamps t w := { w with stamps := t }
  isSelected := WorkloadFilter.selects
  patch p w :=
    { w with
      status := p.status.getD w.status
      containerId := p.containerId.or w.containerId
      containerName := p.containerName.or w.containerName
      remark := p.remark.getD w.remark }
  everything := {}

end FleetControl
