import FleetControl.Fleet.Unit
import FleetControl.Gpu.PackFirst
import FleetControl.Placement.Occupancy
import FleetControl.Record.Order
import FleetControl.Record.Principal
import FleetControl.Telemetry.Collector

/-!
# The service

What the operations of the control plane have in common: the settings they run with, and the checks
that come before an operation on a workload.
-/

namespace FleetControl

/-- **What the control plane runs with.** -/
structure Service where
  engine : EngineSettings := {}
  collector : Telemetry.Collector
  reconcile : ReconcileSettings := {}
deriving Inhabited

namespace Service

/-- The container of a workload, which must have one. -/
def unitOf (w : Workload) : Except Failure String :=
  match w.unit? with
  | some unit => .ok unit
  | none => .error (.invalidRequest
      ("workload " ++ toString w.id.toNat ++ " has no execution unit"))

/-- **A workload that the caller may manage.** -/
def owned (p : Principal) (id : RecordId) : Job Workload := do
  let w ← Job.get Job.workloads id
  if p.canManage w then pure w
  else Job.fail (.permissionDenied
    ("user " ++ toString p.userId.toNat ++ " may not manage workload " ++ toString id.toNat))

/-- A workload that the caller may manage, its container and its node. -/
def ownedUnit (p : Principal) (id : RecordId) : Job (Workload × String × Node) := do
  let w ← owned p id
  let unit ← Job.ofExcept (unitOf w)
  let n ← Job.get Job.nodes w.nodeId
  pure (w, unit, n)

/-- A workload, its node and its container, whoever asks. -/
def unitAndNode (id : RecordId) : Job (String × Node) := do
  let w ← Job.get Job.workloads id
  let n ← Job.get Job.nodes w.nodeId
  let unit ← Job.ofExcept (unitOf w)
  pure (unit, n)

/-- Give a workload a status. -/
def setStatus (id : RecordId) (s : Status) : Job Workload :=
  Job.update Job.workloads id (WorkloadPatch.ofStatus s)

end Service

end FleetControl
