import FleetControl.Engine.Body
import FleetControl.Engine.UnitName
import FleetControl.Number.Checked
import FleetControl.Record.Image
import FleetControl.Record.Node
import FleetControl.Record.Spec
import FleetControl.Settings

/-!
# Plans of units

A plan is what an engine is asked for when a workload is made: the container's body and, if the spec
has a data disk, a volume. Where image and spec share a card's memory, the partition library is
mounted and the environment tells it the limits.

Amounts are multiplied on the way, and there is a plan only where every product fits (`Plan.of?`). Where
one does not, the program that makes the plan does not go on.
-/

namespace FleetControl.Engine

/-- **What is asked of an engine for one workload.** -/
structure Plan where
  /-- The container's name. -/
  name : String
  volume : Option VolumeBody
  body : ContainerBody
deriving Repr, DecidableEq, Inhabited

namespace Plan

/-- Bytes in a gigabyte of memory. -/
def gigabyte : Int64 := 1073741824

/-- What marks the objects of a unit, sorted by name. -/
def labels (c : EngineSettings) (name : String) : Labels :=
  [("instance", name), ("managed-by", c.managedBy)]

/-- Whether the unit's share of a card's memory is limited by the partition library. -/
def isPartitioned (n : Node) (s : Spec) (i : Image) : Bool :=
  i.supportsSplit && s.supportsSplit && 0 < s.gpuMemoryGb && 0 < n.perCardGb

/-- The memory that the unit may use of each card. -/
def slice (s : Spec) : UInt64 := s.gpuMemoryGb / max s.gpuCount 1

/-- The share of a card's cores, in hundredths, if a hundred times the slice fits. -/
def share? (n : Node) (s : Spec) : Option UInt64 :=
  (Number.mulUnsigned? (slice s) 100).map fun product => min (max (product / n.perCardGb) 1) 100

/-- Where the partition library lies on a node. -/
def libraryDir (c : EngineSettings) (n : Node) : String :=
  (n.partitionDir.filter fun d => !d.isEmpty).getD c.libraryHostDir

/-- The environment that sets the limits, with the share of a card's cores. -/
def limitEnv (c : EngineSettings) (s : Spec) (share : UInt64) : List String :=
  ["LD_PRELOAD=" ++ Text.trimEndChar '/' c.libraryUnitDir ++ "/" ++ c.libraryFile,
   "CUDA_DEVICE_MEMORY_LIMIT=" ++ toString (slice s).toNat ++ "g",
   "CUDA_DEVICE_SM_LIMIT=" ++ toString share.toNat]

/-- The environment of a unit; empty where its share of a card is not limited. -/
def env? (c : EngineSettings) (n : Node) (s : Spec) (i : Image) : Option (List String) :=
  if isPartitioned n s i then (share? n s).map (limitEnv c s) else some []

/-- The data volume, if the spec has a data disk. -/
def dataVolume (c : EngineSettings) (s : Spec) (name : String) : Option VolumeBody :=
  if 0 < s.dataDiskGb then some ⟨volumeName name, labels c name⟩ else none

/-- **The plan of a unit**, if all products fit. -/
def of? (c : EngineSettings) (n : Node) (s : Spec) (i : Image) (name : String) : Option Plan := do
  let nanoCpus ← Number.mulSigned? s.cpuCores.toInt64 1000000000
  let memory ← Number.mulSigned? s.memoryGb.toInt64 gigabyte
  let env ← env? c n s i
  let volume := dataVolume c s name
  some
    { name := name
      volume := volume
      body :=
        { image := i.address
          env := env
          labels := labels c name
          host :=
            { nanoCpus := nanoCpus
              memory := memory
              mounts :=
                (volume.toList.map fun v => Mount.volume v.name c.dataMountPath) ++
                (if isPartitioned n s i then [Mount.bind (libraryDir c n) c.libraryUnitDir] else [])
              devices := if 0 < s.gpuCount then [DeviceRequest.gpus s.gpuCount] else []
              storage :=
                if 0 < s.systemDiskGb then
                  some [("overlay2.size", toString s.systemDiskGb.toNat ++ "G")]
                else none } } }

end Plan

end FleetControl.Engine
