import FleetControl.Proofs.Service.Occupancy
import FleetControl.Store.Seed

/-!
# Requests that fail

A request that fails has done nothing, or is an order that could not be stored or whose unit could not
be made (`failed_request`). A refusal comes before anything is asked of an engine: records and engines
are as they were. Any other failure leaves the records as they were, but an order that fails to provision
leaves the record of the failed workload, which is the caller's. An order that cannot be stored has
passed over an identifier that is taken, which takes identifiers that have come round
(`order_skips_identifier`).

Each request is taken apart at its first effect. What comes before refuses or finds what is needed; what
comes after was promised the records that it writes to, so it cannot refuse, and it writes after its last
call to an engine.

**What it does not establish.** The run is by itself; removals of several workloads and checks of all
records may fail half way, and are not among these requests, nor is the registration of a node.
-/

namespace FleetControl.Service

variable {v : Service} {p : Principal} {o : Order} {id : RecordId} {s s' : Store} {w : Workload}
  {image : Image} {spec : Spec} {n : Node} {α : Type} {c : Request α} {f : Failure}

/-- The request is about one object, and does not register a node. -/
def Request.isSingle : {α : Type} → Request α → Bool
  | _, .call (.deleteMany _ _) | _, .call .recheckNodes | _, .call .resyncWorkloads => false
  | _, .registerNode _ => false
  | _, _ => true

/-- For whom a request orders a workload. -/
def Request.orderer? : {α : Type} → Request α → Option Principal
  | _, .call (.create p _) => some p
  | _, _ => none

/-! ## What comes before the first effect -/

/-- A workload's unit and node are found without anything being done. -/
theorem idle_unitAndNode (id : RecordId) : (unitAndNode id).Idle :=
  Job.leads_bind (Job.leads_get _ _) fun _ => Job.leads_bind (Job.leads_get _ _) fun _ =>
    Job.leads_bind (Job.leads_ofExcept _) fun _ => Job.leads_pure _

/-- Whether a node fits a spec is found out from the records alone. -/
theorem idle_checkNode (n : Node) (spec : Spec) (image : Image) : (checkNode n spec image).Idle :=
  Job.leads_bind (Job.leads_look _) Job.leads_ofExcept

/-- The nodes that a spec fits on are found without anything being done. -/
theorem idle_candidates (specId : RecordId) (imageId : Option RecordId) :
    (candidates specId imageId).Idle := by
  refine Job.leads_bind (Job.leads_get _ _) fun spec => ?_
  cases imageId with
  | none => exact Job.leads_bind (Job.leads_pure _) fun _ => Job.leads_look _
  | some i =>
    refine Job.leads_bind ?_ fun _ => Job.leads_look _
    exact Job.leads_bind (Job.leads_get _ _) fun _ => Job.leads_pure _

/-- Where a terminal leads is found out before any engine is asked. -/
theorem idle_sessionTarget (p : Principal) (id : RecordId) : (sessionTarget p id).Idle :=
  Job.leads_bind (leads_ownedUnit p id) fun _ => Job.leads_bind (Job.leads_openEngine _) fun _ =>
    Job.leads_pure _

/-- What there is to choose from is listed without anything being done. -/
theorem idle_catalog : catalog.Idle :=
  Job.leads_bind (Job.leads_look _) fun _ => Job.leads_bind (Job.leads_look _) fun _ =>
    Job.leads_bind (Job.leads_look _) fun _ => Job.leads_pure _

/-! ## What comes after it -/

/-- A probe of a node asks its engine, which refuses nothing. -/
theorem watches_probe (n : Node) : (probe n).Watches := by
  refine Job.watches_bind ?_ fun _ => Job.watches_pure _
  refine Job.watches_bind (Job.watches_attempt ?_) fun r => ?_
  · exact Job.preserves_bind (Job.keeps_openEngine n) fun _ => Job.keeps_call
  · split
    · exact Job.watches_pure _
    · exact Job.watches_pure _

/-- **To take a unit down refuses nothing**: failures of the single calls are heard, and records only looked at. -/
theorem watches_unmake (v : Service) (w : Workload) : (unmake v w).Watches := by
  unfold unmake
  split
  · exact Job.watches_pure _
  · refine Job.watches_bind (Job.watches_look _) fun n => ?_
    split
    · exact Job.watches_pure _
    · exact Job.watches_bind (Job.watches_attempt (Job.keeps_teardown _ _ _ _)) fun _ =>
        Job.watches_pure _

/-- A workload that is accepted is refused nothing any more. What may still fail is to store it, or its engine. -/
theorem not_refusal_of_store (hy : Job.Yields (do
      let w ← Job.create Job.workloads (ordered p o image spec n)
      v.realize w n spec image) s (.error (.failed f)) s') : f.isRefusal = false := by
  rcases store_yields hy with ⟨text, hr, _⟩ | ⟨w, _, _, _, _, realized⟩
  · cases hr
    rfl
  · cases realized with
    | fails => rfl
    | halts untold => exact absurd rfl (untold f)

/-- A live workload is given a status without a refusal, for the record that it needs is there. -/
theorem setStatus_ok {status : Status} (hfind : s.workloads.find? id = some w)
    (hy : (setStatus id status).Yields s (.error (.failed f)) s') : f.isRefusal = false := by
  obtain ⟨_, hr, _⟩ := (setStatus_yields hfind).mp hy
  cases hr

/-! ## Refusals come first -/

/-- **An order refuses before it does anything**: image, spec, node and room are looked at first, and what follows
is only done to a workload that was accepted. -/
theorem refuses_create (v : Service) (p : Principal) (o : Order) (s : Store) :
    (create v p o).Refuses s := by
  refine Job.refuses_bind (Job.leads_get _ _) fun image _ => ?_
  refine Job.refuses_bind (Job.leads_get _ _) fun spec _ => ?_
  refine Job.refuses_bind (Job.leads_get _ _) fun n _ => ?_
  split
  · refine Job.refuses_bind (idle_checkNode n spec image) fun _ _ => ?_
    exact Job.refuses_of_yields fun _ _ => not_refusal_of_store
  · exact Job.Idle.refuses (Job.leads_fail _) s

/-- A removal refuses before it does anything: whose workload it is is looked at first. -/
theorem refuses_delete (v : Service) (p : Principal) (id : RecordId) (s : Store) :
    (delete v p id).Refuses s := by
  rw [delete_eq]
  refine Job.refuses_bind (leads_owned p id) fun w howned => ?_
  refine Job.refuses_bind_of_yields ((watches_unmake v w).refuses s) fun _ z f s' hunmake hstrike => ?_
  obtain rfl := (watches_unmake v w).keeps _ _ _ hunmake
  obtain ⟨hr, _⟩ := strike_yields (owned_ok howned) hstrike
  cases hr

/-- What is done to a unit refuses first, as long as the operation on the unit does. -/
theorem refuses_tend {t : Node → String → Job Unit} (ht : ∀ n unit, (t n unit).Keeps)
    (hrefuses : ∀ n unit, (t n unit).Refuses s) {status : Status} : (tend t p id status).Refuses s := by
  refine Job.refuses_bind (leads_ownedUnit p id) fun ⟨w, unit, n⟩ hunit => ?_
  refine Job.refuses_bind_of_yields (hrefuses n unit) fun _ z f s' hdone hset => ?_
  obtain rfl := ht n unit _ _ _ hdone
  exact setStatus_ok (ownedUnit_ok hunit).1 hset

/-- Bringing a status in step refuses before it asks the engine. -/
theorem refuses_syncStatus (id : RecordId) (s : Store) : (syncStatus id).Refuses s := by
  refine Job.refuses_bind (Job.leads_get _ _) fun w hget => ?_
  have hw : s.workloads.find? id = some w := Job.get_ok hget
  split
  · exact Job.Idle.refuses (Job.leads_pure _) s
  · rename_i unit hunit
    refine Job.refuses_bind (Job.leads_get _ _) fun n _ => ?_
    have hkeeps := Job.keeps_unitState n unit
    refine Job.refuses_bind_of_yields ((Job.watches_attempt hkeeps).refuses s) ?_
    intro answer z f s' hanswer hset
    obtain rfl := Job.preserves_attempt hkeeps _ _ _ hanswer
    dsimp only at hset
    split at hset
    · rcases Job.yields_bind.mp hset with ⟨_, _, _, hpure⟩ | ⟨e, hput, he⟩
      · cases (Job.yields_pure.mp hpure).1
      · cases he
        exact setStatus_ok hw hput
    · cases (Job.yields_pure.mp hset).1

/-- A test of a node refuses where there is no such node, before the node is probed. -/
theorem refuses_testNode (id : RecordId) (s : Store) : (testNode id).Refuses s := by
  refine Job.refuses_bind (Job.leads_get _ _) fun n hget => ?_
  have hn : s.nodes.find? id = some n := Job.get_ok hget
  refine Job.refuses_bind_of_yields ((watches_probe n).refuses s) fun test z f s' hprobe hput => ?_
  obtain rfl := (watches_probe n).keeps _ _ _ hprobe
  rcases Job.yields_bind.mp hput with ⟨_, _, _, hpure⟩ | ⟨e, hput, he⟩
  · cases (Job.yields_pure.mp hpure).1
  · obtain ⟨_, hr, _⟩ := (Job.yields_update hn).mp hput
    cases hr

/-- An edit of a node refuses before the record is replaced. -/
theorem refuses_updateNode (id : RecordId) (n : Node) (s : Store) : (updateNode id n).Refuses s := by
  refine Job.refuses_bind (Job.leads_get _ _) fun existing hget => ?_
  have hfind := Repository.find?_self (Job.get_ok hget)
  refine Job.refuses_bind_of_yields ((watches_probe _).refuses s) fun test z f s' hprobe hput => ?_
  obtain rfl := (watches_probe _).keeps _ _ _ hprobe
  obtain ⟨_, hr, _⟩ := (Job.yields_replace (by exact hfind)).mp hput
  cases hr

/-- **A request about one object refuses before it does anything.** -/
theorem Request.refuses (hc : c.isSingle = true) (s : Store) : (c.job v).Refuses s := by
  cases c with
  | call c =>
    cases c with
    | create p o => exact refuses_create v p o s
    | delete p id => exact refuses_delete v p id s
    | start p id =>
      exact refuses_tend (t := Job.start) (fun _ _ => Job.keeps_onNode _ _) fun _ _ =>
        Job.refuses_onNode _ _ s
    | stop p id =>
      exact refuses_tend (t := Job.stop v.engine) (fun _ _ => Job.keeps_onNode _ _) fun _ _ =>
        Job.refuses_onNode _ _ s
    | restart p id =>
      exact refuses_tend (t := Job.restart v.engine) (fun _ _ => Job.keeps_onNode _ _) fun _ _ =>
        Job.refuses_onNode _ _ s
    | syncStatus id => exact refuses_syncStatus id s
    | deleteMany | recheckNodes | resyncWorkloads => cases hc
  | testNode id => exact refuses_testNode id s
  | registerNode n => cases hc
  | updateNode id n => exact refuses_updateNode id n s
  | stats id =>
    exact Job.refuses_bind (idle_unitAndNode id) fun _ _ => Telemetry.Collector.refuses_stats
  | logs id tail => exact Job.refuses_bind (idle_unitAndNode id) fun _ _ => Job.refuses_onNode _ _ s
  | get id => exact Job.Idle.refuses (Job.leads_get _ _) s
  | list p f page => exact Job.Idle.refuses (Job.leads_look _) s
  | sessionTarget p id => exact (idle_sessionTarget p id).refuses s
  | candidates specId imageId => exact (idle_candidates specId imageId).refuses s
  | catalog => exact idle_catalog.refuses s
  | nodes f => exact Job.Idle.refuses (Job.leads_look _) s

/-! ## What a failure leaves of the records -/

/-- **What a request that failed leaves of the records.** -/
inductive Leaves (c : Request α) (f : Failure) (s : Store) : Store → Prop
  /-- Nothing has changed; the request is no order whose unit could not be made. -/
  | same (other : c.orderer? = none ∨ ∀ text, f ≠ .provision text) : Leaves c f s s
  /-- An order's unit could not be made: there is one workload more, which is the caller's. -/
  | failed {p : Principal} {w : Workload} {text : String} {s' : Store} (order : c.orderer? = some p)
      (failure : f = .provision text) (gains : s.Gains w s') (owner : w.ownerId = p.userId)
      (status : w.status = .failed) (container : w.containerId = none) (name : w.containerName = none) :
      Leaves c f s s'
  /-- An order's workload cannot be stored, its identifier being taken: only the identifier that comes
  next has changed. -/
  | skipped {p : Principal} {text : String} {s' : Store} (order : c.orderer? = some p)
      (failure : f = .storage text) (skips : s.Skips s') : Leaves c f s s'

/-- **An order that fails** has left the records as they were, or could not be stored, or has left the record of a
workload that has failed. -/
theorem leaves_of_create (hy : (create v p o).Yields s (.error (.failed f)) s') :
    Leaves (.call (.create p o)) f s s' := by
  rcases create_cases hy with ⟨rfl, creation⟩ | ⟨image, spec, n, _, _, hstore⟩
  · generalize hr : (Except.error (Halt.failed f) : Except Halt Workload) = r at creation
    cases creation with
    | missing | rejected | unstored =>
      cases hr
      exact .same (.inr nofun)
    | made _ _ gains _ _ _ => exact absurd gains (Store.SameRows.not_gains ⟨rfl, rfl, rfl, rfl⟩)
  · rcases store_yields hstore with ⟨text, hr, skips⟩ | ⟨w, gains, _, _, owner, realized⟩
    · cases hr
      exact .skipped rfl rfl skips
    · cases realized with
      | fails status container name => exact .failed rfl rfl gains owner status container name
      | halts untold => exact absurd rfl (untold f)

/-- A test of a node comes to a finding, or it fails and has changed no record. -/
theorem testNode_yields {r : Except Halt NodeTest} (hy : (testNode id).Yields s r s') :
    ((∃ e, r = .error e) ∧ s' = s) ∨ ∃ test, r = .ok test := by
  rcases Job.yields_get_bind hy with ⟨n, hfind, hrest⟩ | ⟨_, rfl, rfl⟩
  · rcases Job.yields_bind_keeps (keeps_probe n) hrest with ⟨test, _, hput⟩ | ⟨e, _, rfl, rfl⟩
    · rcases Job.yields_bind.mp hput with ⟨_, _, _, hpure⟩ | ⟨e, hput, _⟩
      · exact .inr ⟨test, (Job.yields_pure.mp hpure).1⟩
      · obtain ⟨_, hr, _⟩ := (Job.yields_update hfind).mp hput
        cases hr
    · exact .inl ⟨⟨e, rfl⟩, rfl⟩
  · exact .inl ⟨⟨_, rfl⟩, rfl⟩

/-- **A request about one object that is no order and fails leaves the records as they were**: it writes after its
last call to an engine, and to records that it has found. -/
theorem Request.eq_of_failed (hc : c.isSingle = true) (horder : c.orderer? = none)
    (hy : (c.job v).Yields s (.error (.failed f)) s') : s' = s := by
  have htend : ∀ {p : Principal} {id : RecordId} {status : Status} {t : Node → String → Job Unit},
      (∀ n unit, (t n unit).Keeps) → (tend t p id status).Yields s (.error (.failed f)) s' → s' = s := by
    intro p id status t ht hy
    rcases tend_yields ht hy with ⟨_, rfl⟩ | ⟨_, _, _, _, _, hr, _⟩
    · rfl
    · cases hr
  cases c with
  | call c =>
    cases c with
    | create p o => cases horder
    | delete p id =>
      rcases delete_yields hy with ⟨_, rfl⟩ | ⟨hr, _⟩
      · rfl
      · cases hr
    | start p id => exact htend (t := Job.start) (fun _ _ => Job.keeps_onNode _ _) hy
    | stop p id => exact htend (t := Job.stop v.engine) (fun _ _ => Job.keeps_onNode _ _) hy
    | restart p id => exact htend (t := Job.restart v.engine) (fun _ _ => Job.keeps_onNode _ _) hy
    | syncStatus id =>
      rcases syncStatus_yields hy with ⟨rfl, _⟩ | ⟨_, _, _, _, _, _, hr, _⟩
      · rfl
      · cases hr
    | deleteMany | recheckNodes | resyncWorkloads => cases hc
  | testNode id =>
    rcases testNode_yields hy with ⟨_, rfl⟩ | ⟨_, hr⟩
    · rfl
    · cases hr
  | registerNode n => cases hc
  | updateNode id n =>
    rcases updateNode_yields hy with ⟨_, rfl⟩ | ⟨_, hr⟩
    · rfl
    · cases hr
  | stats | logs | get | list | sessionTarget | candidates | catalog | nodes =>
    exact (Request.keeps_of_reads rfl _ _ _ hy).symm

/-- What any request about one object leaves of the records when it fails, orders included. -/
theorem leaves_of_yields (hc : c.isSingle = true)
    (hy : (c.job v).Yields s (.error (.failed f)) s') : Leaves c f s s' := by
  cases horder : c.orderer? with
  | none =>
    obtain rfl := Request.eq_of_failed hc horder hy
    exact .same (.inl horder)
  | some p =>
    cases c with
    | call c =>
      cases c with
      | create p o => exact leaves_of_create hy
      | _ => cases horder
    | _ => cases horder

/-- **A request that fails has done nothing**, or is an order: one that could not be stored, or one whose
unit could not be made. -/
theorem failed_request (v : Service) (c : Request α) (hc : c.isSingle = true) (fl : Fleet) (f : Failure)
    (hr : ((c.job v).run.run fl).1 = .error (.failed f)) :
    (f.isRefusal = true → fl.Alike ((c.job v).run.run fl).2) ∧
      Leaves c f fl.store ((c.job v).run.run fl).2.store := by
  have hy := Job.run_yields (c.job v) fl
  rw [hr] at hy
  exact ⟨Request.refuses hc fl.store fl f rfl hr, leaves_of_yields hc hy⟩

/-- An order on the broken node. -/
def brokenOrder (o : Order) : Request Workload := .call (.create admin o)

/-- Of two orders on the broken node one names no image and leaves everything as it was, the other leaves
the record of a failed workload. -/
theorem failed_request_small :
    (∃ f : Failure, f.isRefusal = true ∧ brokenFleet.Alike
      (((brokenOrder { imageId := 7, specId := 1, nodeId := 1 }).job smallService).run.run brokenFleet).2) ∧
    ∃ text s', Leaves (brokenOrder (smallOrder 1)) (.provision text) smallStore s' ∧
      s' = (((brokenOrder (smallOrder 1)).job smallService).run.run brokenFleet).2.store := by
  have hmissing : (((brokenOrder { imageId := 7, specId := 1, nodeId := 1 }).job
      smallService).run.run brokenFleet).1 = .error (.failed (.notFound "image 7")) := by
    decide +kernel
  have hfails : (((brokenOrder (smallOrder 1)).job smallService).run.run brokenFleet).1 =
      .error (.failed (.provision "create container: Connection error: small unreachable")) := by
    decide +kernel
  have hrefusal := (failed_request _ _ rfl _ _ hmissing).1 rfl
  have hleaves := (failed_request _ _ rfl _ _ hfails).2
  exact ⟨⟨.notFound "image 7", rfl, hrefusal⟩, _, _, hleaves, rfl⟩

/-- Failed workloads to begin with: the one before the last identifier, and two that are given the last
and, the identifiers coming round, the first. The next one is 1, which is taken. -/
def wornSeed : Seed :=
  { workloads := [1, 18446744073709551614, 0, 0].map fun id =>
      { Workload.blank with id := id, imageId := 1, specId := 1, nodeId := 1, status := .failed } }

/-- The small records once that seed is loaded. -/
def wornFleet : Fleet := { smallFleet with store := (smallStore.load .epoch wornSeed).2 }

/-- **An order that cannot be stored passes over an identifier**: the same order is then served. -/
theorem order_skips_identifier :
    (smallStore.load .epoch wornSeed).1 = .ok () ∧
    ∃ fl, (create smallService admin (smallOrder 1)).run.run wornFleet =
        (.error (.failed (.storage "workload 1 already exists")), fl) ∧
      fl.store ≠ wornFleet.store ∧
      ((create smallService admin (smallOrder 1)).run.run fl).1.isOk = true := by
  have hfails : ((create smallService admin (smallOrder 1)).run.run wornFleet).1 =
      .error (.failed (.storage "workload 1 already exists")) := by
    decide +kernel
  have hnext : ((create smallService admin (smallOrder 1)).run.run wornFleet).2.store.workloads.nextId ≠
      wornFleet.store.workloads.nextId := by
    decide +kernel
  refine ⟨by decide +kernel, _, Prod.ext hfails rfl, fun hsame => ?_, by decide +kernel⟩
  exact hnext (congrArg (fun s => s.workloads.nextId) hsame)

end FleetControl.Service
