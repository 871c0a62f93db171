import FleetControl.Service.Node
import FleetControl.Service.Workload

/-!
# Keeping records in step

Two checks walk over the records one by one, at a pace, and bring them in step with what the engines
say. A check that is started while another of its kind is under way does nothing.
-/

namespace FleetControl.Service

/-- **What came of a check.** -/
structure Report where
  checked : Nat := 0
  /-- Records that were not in step. -/
  changed : Nat := 0
  /-- Records that could not be checked. -/
  failed : Nat := 0
  /-- Another check was under way. -/
  skipped : Bool := false
deriving Repr, DecidableEq, Inhabited

namespace Report

/-- A report as written. -/
def json (r : Report) : Json :=
  .obj [("checked", .int r.checked), ("changed", .int r.changed), ("failed", .int r.failed),
    ("skipped", .bool r.skipped)]

/-- One more record was looked at, and was in step or not. -/
def counted (r : Report) (isChanged : Bool) : Report :=
  { r with checked := r.checked + 1, changed := r.changed + if isChanged then 1 else 0 }

/-- One more record could not be checked. -/
def missed (r : Report) : Report :=
  { r with checked := r.checked + 1, failed := r.failed + 1 }

end Report

/-- Visit items one after another, with a pause between two of them. -/
def eachAtPace {α : Type} (visit : Report → α → Job Report) : Report → List α → Job Report
  | r, [] => pure r
  | r, [a] => visit r a
  | r, a :: b :: rest => do
    let r ← visit r a
    Job.pace
    eachAtPace visit r (b :: rest)

/-- Run a check unless one of its kind is under way. -/
def exclusively (isBusy : Fleet → Bool) (mark : Bool → Fleet → Fleet) (check : Job Report) :
    Job Report := do
  if ← Job.look isBusy then pure { skipped := true }
  else
    Job.act fun fl => ((), mark true fl)
    Job.ensuring (mark false) check

/-- Check one node, as it was listed. A node that does not answer in time has failed. -/
def recheckNode (v : Service) (r : Report) (n : Node) : Job Report := do
  match ← Job.within v.reconcile.probeTimeout (testNode n.id) with
  | some (.ok test) => pure (r.counted (test.connectivity != n.connectivity))
  | some (.error _) => pure r.missed
  | none =>
    if n.connectivity != .failed then
      let _ ← Job.update Job.nodes n.id { connectivity := some .failed : NodePatch }
      pure (r.counted true)
    else pure (r.counted false)

/-- **Check that every node's engine answers.** -/
def recheckNodes (v : Service) : Job Report :=
  exclusively (·.isCheckingNodes) (fun b fl => { fl with isCheckingNodes := b }) do
    eachAtPace v.recheckNode {} (← nodes {})

/-- Check one workload, as it was listed. The status of one that does not answer in time is
unknown. -/
def resyncWorkload (v : Service) (r : Report) (w : Workload) : Job Report := do
  match ← Job.within v.reconcile.probeTimeout (syncStatus w.id) with
  | some (.ok status) => pure (r.counted (status != w.status))
  | some (.error _) => pure r.missed
  | none =>
    let _ ← setStatus w.id .unknown
    pure (r.counted (w.status != .unknown))

/-- **Bring the status of every workload that has a unit in step with its engine.** -/
def resyncWorkloads (v : Service) : Job Report :=
  exclusively (·.isCheckingWorkloads) (fun b fl => { fl with isCheckingWorkloads := b }) do
    let ws ← Job.list Job.workloads { hasUnit := some true : WorkloadFilter }
    eachAtPace v.resyncWorkload {} (ws.filter (·.holdsCapacity))

/-- **One round of both checks**, as far as it comes before an engine stays silent for long. -/
def round (v : Service) (fl : Fleet) : Fleet :=
  let (_, fl) := v.recheckNodes.run.runUntil Wait.isLong fl
  let (_, fl) := v.resyncWorkloads.run.runUntil Wait.isLong fl
  { fl with isCheckingNodes := false, isCheckingWorkloads := false }

end FleetControl.Service
