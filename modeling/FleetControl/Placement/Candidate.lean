import FleetControl.Placement.Usage

/-!
# Candidates

A candidate is a node that can take a spec on top of what is committed there, with what is free on
it. `Candidate.of?` decides whether a node is one: the models of card agree where both name one, each
amount suffices, and the claim on cards would land in full.
-/

namespace FleetControl

/-- **A node that can take a spec.** -/
structure Candidate where
  nodeId : RecordId
  name : String
  region : String
  gpuName : Option String
  gpuCount : UInt64
  /-- Cards that the spec's claim could use. -/
  availableGpus : UInt64
  cpuCores : UInt64
  availableCpu : UInt64
  memoryGb : UInt64
  availableMemoryGb : UInt64
  systemDiskGb : UInt64
  availableSystemDiskGb : UInt64
  dataDiskGb : UInt64
  availableDataDiskGb : UInt64
  /-- The largest free GPU memory on one card. -/
  availableGpuMemoryGb : UInt64
  publicIp : String
  pricePerHour : Float
deriving Repr, Inhabited

namespace Candidate

/-- Read a candidate; everything but the card's name must be there. -/
def read : Reader Candidate :=
  Form.read <| Candidate.mk <$> .required "node_id" .u64
    <*> .required "name" .text
    <*> .required "region" .text
    <*> .nullable "gpu_name" .text
    <*> .required "gpu_count" .u64
    <*> .required "available_gpus" .u64
    <*> .required "cpu_cores" .u64
    <*> .required "available_cpu" .u64
    <*> .required "memory_gb" .u64
    <*> .required "available_memory_gb" .u64
    <*> .required "system_disk_gb" .u64
    <*> .required "available_system_disk_gb" .u64
    <*> .required "data_disk_gb" .u64
    <*> .required "available_data_disk_gb" .u64
    <*> .required "available_gpu_memory_gb" .u64
    <*> .required "public_ip" .text
    <*> .required "price_per_hour" .double

/-- A candidate as written. -/
def json (c : Candidate) : Json :=
  .obj [("node_id", .u64 c.nodeId), ("name", .str c.name), ("region", .str c.region),
    ("gpu_name", .opt .str c.gpuName), ("gpu_count", .u64 c.gpuCount),
    ("available_gpus", .u64 c.availableGpus), ("cpu_cores", .u64 c.cpuCores),
    ("available_cpu", .u64 c.availableCpu), ("memory_gb", .u64 c.memoryGb),
    ("available_memory_gb", .u64 c.availableMemoryGb), ("system_disk_gb", .u64 c.systemDiskGb),
    ("available_system_disk_gb", .u64 c.availableSystemDiskGb),
    ("data_disk_gb", .u64 c.dataDiskGb), ("available_data_disk_gb", .u64 c.availableDataDiskGb),
    ("available_gpu_memory_gb", .u64 c.availableGpuMemoryGb), ("public_ip", .str c.publicIp),
    ("price_per_hour", .finite c.pricePerHour)]

/-- What is free of an amount, if that covers what is required. -/
def remaining (total used required : UInt64) : Option UInt64 :=
  if used ≤ total ∧ required ≤ total - used then some (total - used) else none

/-- The models of card agree, where a card is asked for and both sides name a model. -/
def modelFits (n : Node) (s : Spec) : Bool :=
  !s.requiresGpu ||
    match s.gpuModel, n.gpuName with
    | some wanted, some offered => wanted == offered
    | _, _ => true

/-- How many cards of a ledger a claim could use. -/
def usableCards (l : Ledger) : Claim → Nat
  | .whole _ => l.unusedCards
  | .partitioned _ slice => l.cardsWithHeadroom slice

/-- The cards that a spec's claim could use; none where the claim would not land in full. A spec
that asks for no card uses none. -/
def cardsFor (l : Ledger) (s : Spec) (isPartitioned : Bool) (perCardGb : UInt64) (pick : Strategy) :
    Option Nat :=
  match Claim.of? s.gpuCount s.gpuMemoryGb isPartitioned perCardGb with
  | none => some 0
  | some c =>
    match (l.allocate pick c).1 with
    | none => none
    | some _ =>
      let usable := usableCards l c
      if usable < s.gpuCount.toNat then none else some usable

/-- **Whether a node can take a spec** on top of its usage, and what is free there. -/
def of? (n : Node) (u : Usage) (s : Spec) (isPartitioned : Bool) (pick : Strategy) :
    Option Candidate :=
  if !modelFits n s then none
  else do
    let availableCpu ← remaining n.cpuCores u.cpuCores s.cpuCores
    let availableMemoryGb ← remaining n.memoryGb u.memoryGb s.memoryGb
    let availableSystemDiskGb ← remaining n.systemDiskGb u.systemDiskGb s.systemDiskGb
    let availableDataDiskGb ← remaining n.dataDiskGb u.dataDiskGb s.dataDiskGb
    let usable ← cardsFor u.cards s isPartitioned n.perCardGb pick
    some
      { nodeId := n.id, name := n.name, region := n.region, gpuName := n.gpuName,
        gpuCount := n.gpuCount, availableGpus := UInt64.ofNat usable, cpuCores := n.cpuCores,
        availableCpu, memoryGb := n.memoryGb, availableMemoryGb,
        systemDiskGb := n.systemDiskGb, availableSystemDiskGb, dataDiskGb := n.dataDiskGb,
        availableDataDiskGb,
        availableGpuMemoryGb := if u.cards.cardCount = 0 then n.perCardGb else u.cards.maxHeadroom,
        publicIp := n.publicIp, pricePerHour := s.pricePerHour }

end Candidate

end FleetControl
