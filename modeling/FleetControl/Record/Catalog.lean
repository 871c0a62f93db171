import FleetControl.Record.Image
import FleetControl.Record.Node
import FleetControl.Record.Spec

/-!
# The catalog

What a caller chooses from: the listed images, all nodes, and the listed specs with the line that
describes each.
-/

namespace FleetControl

/-- An image to choose. -/
structure ImageOption where
  label : String
  value : RecordId
  supportsSplit : Bool
deriving Repr, DecidableEq, Inhabited

namespace ImageOption

/-- The choice of an image. -/
def ofImage (i : Image) : ImageOption := ⟨i.name, i.id, i.supportsSplit⟩

/-- Read a choice of an image. -/
def read : Reader ImageOption :=
  Form.read <| ImageOption.mk <$> .required "label" .text
    <*> .required "value" .u64
    <*> .required "supports_memory_split" .bool

/-- A choice of an image as written. -/
def json (o : ImageOption) : Json :=
  .obj [("label", .str o.label), ("value", .u64 o.value),
    ("supports_memory_split", .bool o.supportsSplit)]

end ImageOption

/-- A node to filter by. -/
structure NodeOption where
  label : String
  value : RecordId
deriving Repr, DecidableEq, Inhabited

namespace NodeOption

/-- The choice of a node. -/
def ofNode (n : Node) : NodeOption := ⟨n.name, n.id⟩

/-- Read a choice of a node. -/
def read : Reader NodeOption :=
  Form.read <| NodeOption.mk <$> .required "label" .text
    <*> .required "value" .u64

/-- A choice of a node as written. -/
def json (o : NodeOption) : Json := .obj [("label", .str o.label), ("value", .u64 o.value)]

end NodeOption

/-- A spec to choose. -/
structure SpecOption where
  value : RecordId
  label : String
  name : String
  gpuModel : Option String
  gpuCount : UInt64
  gpuMemoryGb : UInt64
  cpuCores : UInt64
  memoryGb : UInt64
  systemDiskGb : UInt64
  dataDiskGb : UInt64
  pricePerHour : Float
  supportsSplit : Bool
deriving Repr, Inhabited

namespace SpecOption

/-- The choice of a spec. -/
def ofSpec (s : Spec) : SpecOption :=
  { value := s.id, label := s.label, name := s.name, gpuModel := s.gpuModel,
    gpuCount := s.gpuCount, gpuMemoryGb := s.gpuMemoryGb, cpuCores := s.cpuCores,
    memoryGb := s.memoryGb, systemDiskGb := s.systemDiskGb, dataDiskGb := s.dataDiskGb,
    pricePerHour := s.pricePerHour, supportsSplit := s.supportsSplit }

/-- Read a choice of a spec. -/
def read : Reader SpecOption :=
  Form.read <| SpecOption.mk <$> .required "value" .u64
    <*> .required "label" .text
    <*> .required "name" .text
    <*> .nullable "gpu_model" .text
    <*> .required "gpu_count" .u64
    <*> .required "gpu_memory_gb" .u64
    <*> .required "cpu_cores" .u64
    <*> .required "memory_gb" .u64
    <*> .required "system_disk_gb" .u64
    <*> .required "data_disk_gb" .u64
    <*> .required "price_per_hour" .double
    <*> .required "supports_memory_split" .bool

/-- A choice of a spec as written. -/
def json (o : SpecOption) : Json :=
  .obj [("value", .u64 o.value), ("label", .str o.label), ("name", .str o.name),
    ("gpu_model", .opt .str o.gpuModel), ("gpu_count", .u64 o.gpuCount),
    ("gpu_memory_gb", .u64 o.gpuMemoryGb), ("cpu_cores", .u64 o.cpuCores),
    ("memory_gb", .u64 o.memoryGb), ("system_disk_gb", .u64 o.systemDiskGb),
    ("data_disk_gb", .u64 o.dataDiskGb), ("price_per_hour", .finite o.pricePerHour),
    ("supports_memory_split", .bool o.supportsSplit)]

end SpecOption

/-- **Everything a caller chooses from.** -/
structure Catalog where
  images : List ImageOption
  nodes : List NodeOption
  specs : List SpecOption
deriving Repr, Inhabited

namespace Catalog

/-- Read a catalog. -/
def read : Reader Catalog :=
  Form.read <| Catalog.mk <$> .required "images" (.list ImageOption.read)
    <*> .required "nodes" (.list NodeOption.read)
    <*> .required "specs" (.list SpecOption.read)

/-- A catalog as written. -/
def json (c : Catalog) : Json :=
  .obj [("images", .list ImageOption.json c.images), ("nodes", .list NodeOption.json c.nodes),
    ("specs", .list SpecOption.json c.specs)]

end Catalog

end FleetControl
