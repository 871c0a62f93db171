import FleetControl.Record.Catalog
import FleetControl.Service.Basic

/-!
# Operations on workloads

Making, running, watching and removing workloads on behalf of a caller. A record is advanced only
after the call to the engine that it depends on has succeeded; a removal goes on even where the unit
cannot be taken down.
-/

namespace FleetControl.Service

/-! ## Placement -/

/-- **The nodes that can take a spec**, perhaps with a certain image. -/
def candidates (specId : RecordId) (imageId : Option RecordId) : Job (List Candidate) := do
  let spec ← Job.get Job.specs specId
  let image ← match imageId with
    | none => pure none
    | some i => some <$> Job.get Job.images i
  Job.look fun fl => fl.store.candidates Ledger.packFirst spec image

/-- The candidate that a node is for a spec with an image. -/
def checkNode (n : Node) (spec : Spec) (image : Image) : Job Candidate := do
  Job.ofExcept (← Job.look fun fl => fl.store.checkNode Ledger.packFirst spec image n)

/-! ## Making -/

/-- The record of a workload that is about to be made. -/
def ordered (p : Principal) (o : Order) (image : Image) (spec : Spec) (n : Node) : Workload :=
  { Workload.blank with
    name := o.name, imageId := image.id, specId := spec.id, nodeId := n.id, ownerId := p.userId,
    status := .creating, remark := o.remark.getD "" }

/-- A failure to provision, as the caller sees it. -/
def provisionFailure : Failure → Failure
  | .provision t => .provision t
  | e => .provision e.message

/-- Make the unit of a new workload and record what came of it. -/
def realize (v : Service) (w : Workload) (n : Node) (spec : Spec) (image : Image) :
    Job Workload := do
  let name ← Job.look fun fl => Engine.unitName w.name w.id fl.now.unix
  match ← Job.attempt (Job.provision v.engine n spec image name) with
  | .ok unit =>
    Job.update Job.workloads w.id
      { status := some .running, containerId := some unit, containerName := some name }
  | .error e =>
    let _ ← setStatus w.id .failed
    Job.fail (provisionFailure e)

/-- **Make a workload** on a listed node that can take it, and start its unit. -/
def create (v : Service) (p : Principal) (o : Order) : Job Workload := do
  let image ← Job.get Job.images o.imageId
  let spec ← Job.get Job.specs o.specId
  let n ← Job.get Job.nodes o.nodeId
  if n.listed then
    let _ ← checkNode n spec image
    let w ← Job.create Job.workloads (ordered p o image spec n)
    v.realize w n spec image
  else
    Job.fail (.invalidRequest
      ("node " ++ toString n.id.toNat ++ " is not available for placement"))

/-! ## Removing -/

/-- Take the unit of a workload down, where it has one and its node is still known. -/
def unmake (v : Service) (w : Workload) : Job Unit := do
  match w.unit? with
  | none => pure ()
  | some unit =>
    match ← Job.find? Job.nodes w.nodeId with
    | none => pure ()
    | some n =>
      let _ ← Job.attempt (Job.teardown v.engine n unit w.containerName)
      pure ()

/-- **Remove a workload**, its unit being taken down first as far as that is possible. -/
def delete (v : Service) (p : Principal) (id : RecordId) : Job Unit := do
  let w ← owned p id
  v.unmake w
  let _ ← setStatus id .removed
  let _ ← Job.delete Job.workloads [id]
  pure ()

/-- Remove several workloads after those removed already. -/
def deleteFrom (v : Service) (p : Principal) : List RecordId → List RecordId →
    Job (List RecordId)
  | [], removed => pure removed
  | id :: rest, removed => do
    match ← Job.attempt (v.delete p id) with
    | .ok () => v.deleteFrom p rest (removed ++ [id])
    | .error (.permissionDenied t) => Job.fail (.permissionDenied t)
    | .error _ => v.deleteFrom p rest removed

/-- **Remove several workloads**: those that were removed. The first that the caller may not manage
ends it; any other that cannot be removed is passed over. -/
def deleteMany (v : Service) (p : Principal) (ids : List RecordId) : Job (List RecordId) :=
  v.deleteFrom p ids []

/-! ## Running -/

/-- **Start a workload's unit.** -/
def start (p : Principal) (id : RecordId) : Job Workload := do
  let (_, unit, n) ← ownedUnit p id
  Job.start n unit
  setStatus id .running

/-- **Stop a workload's unit.** -/
def stop (v : Service) (p : Principal) (id : RecordId) : Job Workload := do
  let (_, unit, n) ← ownedUnit p id
  Job.stop v.engine n unit
  setStatus id .stopped

/-- **Stop a workload's unit and start it again.** -/
def restart (v : Service) (p : Principal) (id : RecordId) : Job Workload := do
  let (_, unit, n) ← ownedUnit p id
  Job.restart v.engine n unit
  setStatus id .running

/-- The status that an answer about a unit's state means. -/
def statusOf : Except Failure String → Status
  | .ok state => .ofEngineState state
  | .error _ => .unknown

/-- **Bring a workload's status in step with its engine**; unknown where the engine cannot say. -/
def syncStatus (id : RecordId) : Job Status := do
  let w ← Job.get Job.workloads id
  match w.unit? with
  | none => pure w.status
  | some unit =>
    let n ← Job.get Job.nodes w.nodeId
    let status := statusOf (← Job.attempt (Job.unitState n unit))
    if status != w.status then
      let _ ← setStatus id status
    pure status

/-! ## Watching -/

/-- Statistics of a workload's unit. -/
def stats (v : Service) (id : RecordId) : Job Telemetry.Stats := do
  let (unit, n) ← unitAndNode id
  v.collector.stats n unit

/-- The last lines of a unit's output, or all of them. -/
def logs (id : RecordId) (tail : Option UInt64) : Job String := do
  let (unit, n) ← unitAndNode id
  Job.logs n unit tail

/-- A workload. -/
def get (id : RecordId) : Job Workload := Job.get Job.workloads id

/-- What a filter becomes for a caller: regular users see their own workloads only. -/
def visibleTo (p : Principal) (f : WorkloadFilter) : WorkloadFilter :=
  if p.isAdmin then f else { f with ownerId := some p.userId }

/-- **A page of the workloads that a caller sees.** -/
def list (p : Principal) (f : WorkloadFilter) (page : Page) : Job (Paged Workload) :=
  Job.findMany Job.workloads (visibleTo p f) page

/-- **Where a terminal on a workload goes**: the engine's address and the container. -/
def sessionTarget (p : Principal) (id : RecordId) : Job (String × String) := do
  let (_, unit, n) ← ownedUnit p id
  pure (← Job.openEngine n, unit)

/-- **What a caller chooses from** when making a workload. -/
def catalog : Job Catalog := do
  let images ← Job.list Job.images { listed := some true : ImageFilter }
  let nodes ← Job.list Job.nodes ({} : NodeFilter)
  let specs ← Job.list Job.specs { listed := some true : SpecFilter }
  pure ⟨images.map .ofImage, nodes.map .ofNode, specs.map .ofSpec⟩

end FleetControl.Service
