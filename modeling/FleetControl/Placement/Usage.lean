import FleetControl.Gpu.Ledger
import FleetControl.Record.Node

/-!
# Usage of a node

What the workloads placed on a node take of it. Amounts add up; claims on cards are replayed one
after another.
-/

namespace FleetControl

/-- **What is committed on a node.** -/
structure Usage where
  cpuCores : UInt64
  memoryGb : UInt64
  systemDiskGb : UInt64
  dataDiskGb : UInt64
  cards : Ledger
deriving Repr, DecidableEq, Inhabited

namespace Usage

/-- Nothing committed on a node. -/
def untouched (n : Node) : Usage := ⟨0, 0, 0, 0, .untouched n.gpuCount n.perCardGb⟩

/-- The cards after a spec's claim, if it makes one. -/
def claimed (l : Ledger) (s : Spec) (isPartitioned : Bool) (pick : Strategy) : Ledger :=
  match Claim.of? s.gpuCount s.gpuMemoryGb isPartitioned l.perCardGb with
  | none => l
  | some c => (l.replay pick c).2

/-- **Account for one workload** of a spec. -/
def add (u : Usage) (s : Spec) (isPartitioned : Bool) (pick : Strategy) : Usage :=
  { cpuCores := u.cpuCores + s.cpuCores
    memoryGb := u.memoryGb + s.memoryGb
    systemDiskGb := u.systemDiskGb + s.systemDiskGb
    dataDiskGb := u.dataDiskGb + s.dataDiskGb
    cards := claimed u.cards s isPartitioned pick }

end Usage

end FleetControl
