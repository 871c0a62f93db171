import FleetControl.Json.Reader
import FleetControl.Text.Blank

/-!
# What an engine is asked to create

The bodies of the requests that create a volume and a container. Empty lists, empty maps and zero
amounts are left out of what is written: to an engine a zero means no limit.
-/

namespace FleetControl.Engine

/-- The value of the first entry `key=value` of an environment. -/
def envValue? (key : String) (env : List String) : Option String :=
  env.findSome? fun entry =>
    match Text.splitOnce '=' entry.toList with
    | some (k, v) => if k == key.toList then some (String.ofList v) else none
    | none => none

/-- Named texts, sorted by name. -/
abbrev Labels := List (String × String)

/-- Named texts as written. -/
def labelsJson (l : Labels) : Json := .obj (l.map fun (k, v) => (k, .str v))

/-- A member that is left out when its list is empty. -/
def unlessEmpty {α : Type} (name : String) (f : List α → Json) (xs : List α) :
    List (String × Json) :=
  if xs.isEmpty then [] else [(name, f xs)]

/-- A member that is left out when it is zero. -/
def unlessZero (name : String) (n : Int64) : List (String × Json) :=
  if n = 0 then [] else [(name, .i64 n)]

/-- A mount that a container asks for. -/
structure Mount where
  kind : String
  /-- The name of a volume or a path on the host. -/
  source : String
  /-- A path in the container. -/
  target : String
deriving Repr, DecidableEq, Inhabited

namespace Mount

/-- A mount of a named volume. -/
def volume (name target : String) : Mount := ⟨"volume", name, target⟩

/-- A mount of a directory of the host. -/
def bind (source target : String) : Mount := ⟨"bind", source, target⟩

/-- Read a mount. -/
def read : Reader Mount :=
  Form.read <| Mount.mk <$> .required "Type" .text
    <*> .required "Source" .text
    <*> .required "Target" .text

/-- A mount as written. -/
def json (m : Mount) : Json :=
  .obj [("Type", .str m.kind), ("Source", .str m.source), ("Target", .str m.target)]

end Mount

/-- Devices that a container asks for. -/
structure DeviceRequest where
  driver : String
  count : Int64
  capabilities : List (List String)
deriving Repr, DecidableEq, Inhabited

namespace DeviceRequest

/-- A number of GPU cards. -/
def gpus (n : UInt64) : DeviceRequest := ⟨"nvidia", n.toInt64, [["gpu"]]⟩

/-- Read a request for devices. -/
def read : Reader DeviceRequest :=
  Form.read <| DeviceRequest.mk <$> .required "Driver" .text
    <*> .required "Count" .i64
    <*> .required "Capabilities" (.list (.list .text))

/-- A request for devices as written. -/
def json (r : DeviceRequest) : Json :=
  .obj [("Driver", .str r.driver), ("Count", .i64 r.count),
    ("Capabilities", .list (Json.list .str) r.capabilities)]

end DeviceRequest

/-- What a container may take of its host. -/
structure HostLimits where
  /-- Thousand-millionths of a core. -/
  nanoCpus : Int64 := 0
  /-- Bytes. -/
  memory : Int64 := 0
  mounts : List Mount := []
  devices : List DeviceRequest := []
  /-- Options of the storage driver, by which the root file system is limited. -/
  storage : Option Labels := none
deriving Repr, DecidableEq, Inhabited

namespace HostLimits

/-- Read limits. -/
def read : Reader HostLimits :=
  Form.read <| HostLimits.mk <$> .withDefault "NanoCpus" .i64 0
    <*> .withDefault "Memory" .i64 0
    <*> .withDefault "Mounts" (.list Mount.read) []
    <*> .withDefault "DeviceRequests" (.list DeviceRequest.read) []
    <*> .optional "StorageOpt" .textMap

/-- Limits as written. -/
def json (h : HostLimits) : Json :=
  .obj (unlessZero "NanoCpus" h.nanoCpus ++ unlessZero "Memory" h.memory ++
    unlessEmpty "Mounts" (Json.list Mount.json) h.mounts ++
    unlessEmpty "DeviceRequests" (Json.list DeviceRequest.json) h.devices ++
    match h.storage with
    | none => []
    | some o => [("StorageOpt", labelsJson o)])

end HostLimits

/-- **What a container is created from.** -/
structure ContainerBody where
  image : String
  env : List String := []
  labels : Labels := []
  host : HostLimits := {}
deriving Repr, DecidableEq, Inhabited

namespace ContainerBody

/-- Read a body; only the image must be there. -/
def read : Reader ContainerBody :=
  Form.read <| ContainerBody.mk <$> .required "Image" .text
    <*> .withDefault "Env" (.list .text) []
    <*> .withDefault "Labels" .textMap []
    <*> .withDefault "HostConfig" HostLimits.read {}

/-- A body as written. -/
def json (b : ContainerBody) : Json :=
  .obj ([("Image", .str b.image)] ++ unlessEmpty "Env" (Json.list .str) b.env ++
    unlessEmpty "Labels" labelsJson b.labels ++ [("HostConfig", b.host.json)])

/-- The same body without a limit of the root file system. -/
def withoutStorageLimit (b : ContainerBody) : ContainerBody :=
  { b with host := { b.host with storage := none } }

end ContainerBody

/-- **What a volume is created from.** -/
structure VolumeBody where
  name : String
  labels : Labels := []
deriving Repr, DecidableEq, Inhabited

namespace VolumeBody

/-- Read a body; only the name must be there. -/
def read : Reader VolumeBody :=
  Form.read <| VolumeBody.mk <$> .required "Name" .text
    <*> .withDefault "Labels" .textMap []

/-- A body as written. -/
def json (b : VolumeBody) : Json := .obj [("Name", .str b.name), ("Labels", labelsJson b.labels)]

end VolumeBody

end FleetControl.Engine
