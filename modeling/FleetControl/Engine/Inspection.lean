import FleetControl.Engine.Body

/-!
# What an engine reports of a container

An inspection is read leniently: whatever is missing is empty.
-/

namespace FleetControl.Engine

/-- A mount as an engine reports it. -/
structure MountPoint where
  kind : String := ""
  /-- The volume's name; empty for directories of the host. -/
  name : String := ""
  destination : String := ""
deriving Repr, DecidableEq, Inhabited

namespace MountPoint

/-- Read a reported mount. -/
def read : Reader MountPoint :=
  Form.read <| MountPoint.mk <$> .withDefault "Type" .text ""
    <*> .withDefault "Name" .text ""
    <*> .withDefault "Destination" .text ""

/-- A reported mount as written. -/
def json (m : MountPoint) : Json :=
  .obj [("Type", .str m.kind), ("Name", .str m.name), ("Destination", .str m.destination)]

end MountPoint

/-- **What an engine reports of a container.** -/
structure Inspection where
  id : String := ""
  /-- With a leading slash. -/
  name : String := ""
  /-- The engine's word for the state. -/
  state : String := ""
  isRunning : Bool := false
  mounts : List MountPoint := []
  env : List String := []
  /-- The cores that the container is bound to. -/
  cpuset : String := ""
  nanoCpus : Int64 := 0
deriving Repr, DecidableEq, Inhabited

namespace Inspection

/-- Read the state: the engine's word, and whether it runs. -/
def readState : Reader (String × Bool) :=
  Form.read <| Prod.mk <$> .withDefault "Status" .text ""
    <*> .withDefault "Running" .bool false

/-- Read the environment; `null` is empty. -/
def readEnv : Reader (List String) :=
  Form.read <| .withDefault "Env" (.nullAs [] (.list .text)) []

/-- Read the limits that are reported. -/
def readHost : Reader (String × Int64) :=
  Form.read <| Prod.mk <$> .withDefault "CpusetCpus" .text ""
    <*> .withDefault "NanoCpus" .i64 0

/-- Read an inspection. -/
def read : Reader Inspection :=
  Form.read <| build <$> .withDefault "Id" .text ""
    <*> .withDefault "Name" .text ""
    <*> .withDefault "State" readState ("", false)
    <*> .withDefault "Mounts" (.list MountPoint.read) []
    <*> .withDefault "Config" readEnv []
    <*> .withDefault "HostConfig" readHost ("", 0)
where
  build id name state mounts env host :=
    { id, name, state := state.1, isRunning := state.2, mounts, env, cpuset := host.1,
      nanoCpus := host.2 }

/-- An inspection as written. -/
def json (i : Inspection) : Json :=
  .obj [("Id", .str i.id), ("Name", .str i.name),
    ("State", .obj [("Status", .str i.state), ("Running", .bool i.isRunning)]),
    ("Mounts", .list MountPoint.json i.mounts), ("Config", .obj [("Env", .list .str i.env)]),
    ("HostConfig", .obj [("CpusetCpus", .str i.cpuset), ("NanoCpus", .i64 i.nanoCpus)])]

/-- **The named volumes of a container**, in the reported order. -/
def namedVolumes (i : Inspection) : List String :=
  (i.mounts.filter fun m => m.kind == "volume" && !m.name.isEmpty).map (·.name)

end Inspection

end FleetControl.Engine
