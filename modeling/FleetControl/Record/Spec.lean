import FleetControl.Record.Basic

/-!
# Workload specs

A spec is a shape of workload that can be bought: cards and their memory, cores, memory and disks, and
a price by the hour.
-/

namespace FleetControl

/-- **A workload spec.** -/
structure Spec where
  id : RecordId
  name : String
  /-- The model of card that is asked for, if any. -/
  gpuModel : Option String
  gpuCount : UInt64
  /-- GPU memory over all cards. -/
  gpuMemoryGb : UInt64
  cpuCores : UInt64
  memoryGb : UInt64
  systemDiskGb : UInt64
  dataDiskGb : UInt64
  /-- A card's memory may be shared between workloads. -/
  supportsSplit : Bool
  pricePerHour : Float
  listed : Bool
  stamps : Stamps
deriving Repr, Inhabited

namespace Spec

/-- A spec with nothing set, listed, made at a time. -/
def blank (now : Time.Instant) : Spec :=
  { id := 0, name := "", gpuModel := none, gpuCount := 0, gpuMemoryGb := 0, cpuCores := 0,
    memoryGb := 0, systemDiskGb := 0, dataDiskGb := 0, supportsSplit := false, pricePerHour := 0,
    listed := true, stamps := .fresh now }

/-- Read a spec; only its name must be there. -/
def read (now : Time.Instant) : Reader Spec :=
  Form.read <| Spec.mk <$> .withDefault "id" .u64 0
    <*> .required "name" .text
    <*> .optional "gpu_model" .text
    <*> .withDefault "gpu_count" .u64 0
    <*> .withDefault "gpu_memory_gb" .u64 0
    <*> .withDefault "cpu_cores" .u64 0
    <*> .withDefault "memory_gb" .u64 0
    <*> .withDefault "system_disk_gb" .u64 0
    <*> .withDefault "data_disk_gb" .u64 0
    <*> .withDefault "supports_memory_split" .bool false
    <*> .withDefault "price_per_hour" .double 0
    <*> .withDefault "listed" .bool true
    <*> Stamps.form now

/-- A spec as written. -/
def json (s : Spec) : Json :=
  .obj ([("id", .u64 s.id), ("name", .str s.name), ("gpu_model", .opt .str s.gpuModel),
    ("gpu_count", .u64 s.gpuCount), ("gpu_memory_gb", .u64 s.gpuMemoryGb),
    ("cpu_cores", .u64 s.cpuCores), ("memory_gb", .u64 s.memoryGb),
    ("system_disk_gb", .u64 s.systemDiskGb), ("data_disk_gb", .u64 s.dataDiskGb),
    ("supports_memory_split", .bool s.supportsSplit), ("price_per_hour", .finite s.pricePerHour),
    ("listed", .bool s.listed)] ++ s.stamps.members)

/-- A workload of this spec needs at least one card. -/
def requiresGpu (s : Spec) : Bool := 0 < s.gpuCount

/-- One part of a label, left out for zero. -/
def labelPart (lead : String) (n : UInt64) (unit : String) : String :=
  if n == 0 then "" else " | " ++ lead ++ toString n.toNat ++ unit

/-- The card model in a label, left out when there is none. -/
def modelPart (s : Spec) : String :=
  match s.gpuModel with
  | some m =>
    if m.isEmpty then ""
    else " | " ++ m ++ (if s.requiresGpu then " x " ++ toString s.gpuCount.toNat else "")
  | none => ""

/-- **The line that describes a spec** in a selection list; absent and zero parts are left out. -/
def label (s : Spec) : String :=
  s.name ++ s.modelPart ++ labelPart "" s.cpuCores "C" ++ labelPart "" s.memoryGb "G RAM" ++
    labelPart "sys " s.systemDiskGb "G" ++ labelPart "data " s.dataDiskGb "G"

end Spec

/-- Which specs are wanted. -/
structure SpecFilter where
  listed : Option Bool := none
deriving Repr, DecidableEq, Inhabited

/-- Read a filter. -/
def SpecFilter.read : Reader SpecFilter :=
  Form.read <| SpecFilter.mk <$> .nullable "listed" .bool

/-- A change of some fields of a spec. -/
structure SpecPatch where
  listed : Option Bool := none
  pricePerHour : Option Float := none
deriving Repr, Inhabited

instance : Record Spec SpecFilter SpecPatch where
  kind := "spec"
  id := Spec.id
  withId i s := { s with id := i }
  stamps := Spec.stamps
  withStamps t s := { s with stamps := t }
  isSelected f s := f.listed.all (· == s.listed)
  patch p s :=
    { s with
      listed := p.listed.getD s.listed
      pricePerHour := p.pricePerHour.getD s.pricePerHour }
  everything := {}

end FleetControl
