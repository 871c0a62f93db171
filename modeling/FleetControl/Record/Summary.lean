import FleetControl.Record.Node

/-!
# Summaries of nodes

What callers see of a node: how it is reached and what it offers, and nothing of its certificates.
-/

namespace FleetControl

/-- **A node as callers see it.** -/
structure NodeSummary where
  id : RecordId
  name : String
  region : String
  publicIp : String
  engineAddress : String
  useTls : Bool
  gpuName : Option String
  gpuCount : UInt64
  perCardGb : UInt64
  cpuCores : UInt64
  memoryGb : UInt64
  listed : Bool
  connectivity : Connectivity
deriving Repr, DecidableEq, Inhabited

namespace NodeSummary

/-- The summary of a node. -/
def ofNode (n : Node) : NodeSummary :=
  { id := n.id, name := n.name, region := n.region, publicIp := n.publicIp,
    engineAddress := n.engineAddress, useTls := n.useTls, gpuName := n.gpuName,
    gpuCount := n.gpuCount, perCardGb := n.perCardGb, cpuCores := n.cpuCores,
    memoryGb := n.memoryGb, listed := n.listed, connectivity := n.connectivity }

/-- Read a summary; everything but the card's name must be there. -/
def read : Reader NodeSummary :=
  Form.read <| NodeSummary.mk <$> .required "id" .u64
    <*> .required "name" .text
    <*> .required "region" .text
    <*> .required "public_ip" .text
    <*> .required "engine_address" .text
    <*> .required "use_tls" .bool
    <*> .nullable "gpu_name" .text
    <*> .required "gpu_count" .u64
    <*> .required "gpu_memory_per_card_gb" .u64
    <*> .required "cpu_cores" .u64
    <*> .required "memory_gb" .u64
    <*> .required "listed" .bool
    <*> .required "connectivity" Connectivity.read

/-- A summary as written. -/
def json (n : NodeSummary) : Json :=
  .obj [("id", .u64 n.id), ("name", .str n.name), ("region", .str n.region),
    ("public_ip", .str n.publicIp), ("engine_address", .str n.engineAddress),
    ("use_tls", .bool n.useTls), ("gpu_name", .opt .str n.gpuName),
    ("gpu_count", .u64 n.gpuCount), ("gpu_memory_per_card_gb", .u64 n.perCardGb),
    ("cpu_cores", .u64 n.cpuCores), ("memory_gb", .u64 n.memoryGb), ("listed", .bool n.listed),
    ("connectivity", n.connectivity.json)]

end NodeSummary

end FleetControl
