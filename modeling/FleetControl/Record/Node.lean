import FleetControl.Record.Basic
import FleetControl.Text.Lowercase

/-!
# Compute nodes

A node is a host that offers cores, memory, disks and GPU cards, and an engine that runs units on it.
Its private key is read but never written.
-/

namespace FleetControl

/-- What the last probe of a node's engine found. -/
inductive Connectivity where
  | unknown
  | connected
  | failed
deriving Repr, DecidableEq, Inhabited

namespace Connectivity

/-- Each state by name. -/
def names : List (String × Connectivity) :=
  [("unknown", unknown), ("connected", connected), ("failed", failed)]

/-- The name of a state. -/
def name : Connectivity → String
  | unknown => "unknown"
  | connected => "connected"
  | failed => "failed"

/-- A state as written. -/
def json (c : Connectivity) : Json := .str c.name

/-- Read a state. -/
def read : Reader Connectivity := Reader.choice names

end Connectivity

/-- **A compute node.** -/
structure Node where
  id : RecordId
  name : String
  region : String
  cpuCores : UInt64
  memoryGb : UInt64
  systemDiskGb : UInt64
  dataDiskGb : UInt64
  publicIp : String
  privateIp : String
  engineAddress : String
  useTls : Bool
  caCert : Option String
  clientCert : Option String
  clientKey : Option String
  gpuName : Option String
  gpuCount : UInt64
  /-- Memory of one card. -/
  perCardGb : UInt64
  /-- Where the partition library lies on this host, if not at the configured place. -/
  partitionDir : Option String
  /-- New workloads may be placed here. -/
  listed : Bool
  remark : String
  connectivity : Connectivity
  stamps : Stamps
deriving Repr, DecidableEq, Inhabited

namespace Node

/-- A node with nothing set, listed, made at a time. -/
def blank (now : Time.Instant) : Node :=
  { id := 0, name := "", region := "", cpuCores := 0, memoryGb := 0, systemDiskGb := 0,
    dataDiskGb := 0, publicIp := "", privateIp := "", engineAddress := "", useTls := false,
    caCert := none, clientCert := none, clientKey := none, gpuName := none, gpuCount := 0,
    perCardGb := 0, partitionDir := none, listed := true, remark := "", connectivity := .unknown,
    stamps := .fresh now }

/-- Read a node; only its name must be there. -/
def read (now : Time.Instant) : Reader Node :=
  Form.read <| Node.mk <$> .withDefault "id" .u64 0
    <*> .required "name" .text
    <*> .withDefault "region" .text ""
    <*> .withDefault "cpu_cores" .u64 0
    <*> .withDefault "memory_gb" .u64 0
    <*> .withDefault "system_disk_gb" .u64 0
    <*> .withDefault "data_disk_gb" .u64 0
    <*> .withDefault "public_ip" .text ""
    <*> .withDefault "private_ip" .text ""
    <*> .withDefault "engine_address" .text ""
    <*> .withDefault "use_tls" .bool true
    <*> .optional "ca_cert" .text
    <*> .optional "client_cert" .text
    <*> .optional "client_key" .text
    <*> .optional "gpu_name" .text
    <*> .withDefault "gpu_count" .u64 0
    <*> .withDefault "gpu_memory_per_card_gb" .u64 0
    <*> .optional "partition_library_dir" .text
    <*> .withDefault "listed" .bool true
    <*> .withDefault "remark" .text ""
    <*> .withDefault "connectivity" Connectivity.read .unknown
    <*> Stamps.form now

/-- A node as written, without its private key. -/
def json (n : Node) : Json :=
  .obj ([("id", .u64 n.id), ("name", .str n.name), ("region", .str n.region),
    ("cpu_cores", .u64 n.cpuCores), ("memory_gb", .u64 n.memoryGb),
    ("system_disk_gb", .u64 n.systemDiskGb), ("data_disk_gb", .u64 n.dataDiskGb),
    ("public_ip", .str n.publicIp), ("private_ip", .str n.privateIp),
    ("engine_address", .str n.engineAddress), ("use_tls", .bool n.useTls),
    ("ca_cert", .opt .str n.caCert), ("client_cert", .opt .str n.clientCert),
    ("gpu_name", .opt .str n.gpuName), ("gpu_count", .u64 n.gpuCount),
    ("gpu_memory_per_card_gb", .u64 n.perCardGb),
    ("partition_library_dir", .opt .str n.partitionDir), ("listed", .bool n.listed),
    ("remark", .str n.remark), ("connectivity", n.connectivity.json)] ++ n.stamps.members)

/-- GPU memory of all cards together. -/
def totalGpuMemoryGb (n : Node) : UInt64 := n.gpuCount * n.perCardGb

end Node

/-- Which nodes are wanted. A text is sought anywhere in the field, letter case aside. -/
structure NodeFilter where
  name : Option String := none
  region : Option String := none
  gpuName : Option String := none
  listed : Option Bool := none
deriving Repr, DecidableEq, Inhabited

namespace NodeFilter

/-- Read a filter. -/
def read : Reader NodeFilter :=
  Form.read <| NodeFilter.mk <$> .nullable "name" .text
    <*> .nullable "region" .text
    <*> .nullable "gpu_name" .text
    <*> .nullable "listed" .bool

/-- Whether a node is wanted; one without a GPU name fails every filter on it. -/
def selects (f : NodeFilter) (n : Node) : Bool :=
  f.name.all (Text.containsFolded n.name) &&
  f.region.all (Text.containsFolded n.region) &&
  (f.gpuName.all fun wanted => n.gpuName.any fun own => Text.containsFolded own wanted) &&
  f.listed.all (· == n.listed)

end NodeFilter

/-- A change of some fields of a node. -/
structure NodePatch where
  connectivity : Option Connectivity := none
  listed : Option Bool := none
  remark : Option String := none
deriving Repr, DecidableEq, Inhabited

instance : Record Node NodeFilter NodePatch where
  kind := "node"
  id := Node.id
  withId i n := { n with id := i }
  stamps := Node.stamps
  withStamps s n := { n with stamps := s }
  isSelected := NodeFilter.selects
  patch p n :=
    { n with
      connectivity := p.connectivity.getD n.connectivity
      listed := p.listed.getD n.listed
      remark := p.remark.getD n.remark }
  everything := {}

end FleetControl
