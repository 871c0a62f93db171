import FleetControl.Proofs.Service.Run
import FleetControl.Proofs.Telemetry.Collector
import Mathlib.Logic.Relation

/-!
# Requests

Everything that the service can be asked for, the calls of a run among it. Most of it changes no record
(`Request.keeps_of_reads`). A steady request orders nothing, removes nothing and edits no node: a
relation that holds across the writes which keep records in step holds across it (`Bears.request`). An
edit of a node touches no other record (`edits_registerNode`, `edits_updateNode`).

Requests that are served one after another are runs of `Serves`, or of `Answers` where each came to an
answer before the next began.
-/

namespace FleetControl

/-- **The same records but for the nodes.** -/
structure Store.EditsNodes (s s' : Store) : Prop extends SameCatalog s s' where
  workloads : s'.workloads = s.workloads

instance : IsPreorder Store Store.EditsNodes where
  refl _ := ⟨⟨rfl, rfl⟩, rfl⟩
  trans _ _ _ h h' :=
    ⟨⟨h'.specs.trans h.specs, h'.images.trans h.images⟩, h'.workloads.trans h.workloads⟩

namespace Service

variable {v : Service} {s s' : Store} {α : Type}

/-- **A request to the service**, by the type of its answer. -/
inductive Request : Type → Type 1
  | call {α : Type} (c : Call α) : Request α
  | testNode (id : RecordId) : Request NodeTest
  | registerNode (n : Node) : Request Node
  | updateNode (id : RecordId) (n : Node) : Request Node
  | stats (id : RecordId) : Request Telemetry.Stats
  | logs (id : RecordId) (tail : Option UInt64) : Request String
  | get (id : RecordId) : Request Workload
  | list (p : Principal) (f : WorkloadFilter) (page : Page) : Request (Paged Workload)
  | sessionTarget (p : Principal) (id : RecordId) : Request (String × String)
  | candidates (specId : RecordId) (imageId : Option RecordId) : Request (List Candidate)
  | catalog : Request Catalog
  | nodes (f : NodeFilter) : Request (List Node)

namespace Request

/-- What serves a request. -/
def job (v : Service) : {α : Type} → Request α → Job α
  | _, .call c => c.job v
  | _, .testNode id => Service.testNode id
  | _, .registerNode n => Service.registerNode n
  | _, .updateNode id n => Service.updateNode id n
  | _, .stats id => v.stats id
  | _, .logs id tail => Service.logs id tail
  | _, .get id => Service.get id
  | _, .list p f page => Service.list p f page
  | _, .sessionTarget p id => Service.sessionTarget p id
  | _, .candidates specId imageId => Service.candidates specId imageId
  | _, .catalog => Service.catalog
  | _, .nodes f => Service.nodes f

/-- The request only looks at records. -/
def reads : {α : Type} → Request α → Bool
  | _, .call _ | _, .testNode _ | _, .registerNode _ | _, .updateNode _ _ => false
  | _, _ => true

/-- **The request orders nothing, removes nothing and edits no node.** -/
def isSteady : {α : Type} → Request α → Bool
  | _, .call c => c.kind == .keeps
  | _, .registerNode _ | _, .updateNode _ _ => false
  | _, _ => true

end Request

/-! ## What requests write -/

/-- To find a workload's unit and node changes no record. -/
theorem keeps_unitAndNode (id : RecordId) : (unitAndNode id).Keeps :=
  Job.preserves_bind (Job.keeps_get _ _) fun _ => Job.preserves_bind (Job.keeps_get _ _) fun _ =>
    Job.preserves_bind (Job.preserves_ofExcept _) fun _ => Job.preserves_pure _

/-- To find the nodes that a spec fits on changes no record. -/
theorem keeps_candidates (specId : RecordId) (imageId : Option RecordId) :
    (candidates specId imageId).Keeps := by
  refine Job.preserves_bind (Job.keeps_get _ _) fun spec => ?_
  cases imageId with
  | none => exact Job.preserves_bind (Job.preserves_pure _) fun _ => Job.keeps_look _
  | some i =>
    refine Job.preserves_bind ?_ fun _ => Job.keeps_look _
    exact Job.preserves_bind (Job.keeps_get _ _) fun _ => Job.preserves_pure _

/-- **A request that only looks changes no record**, on whatever course, and whatever engines, caches and clocks
do meanwhile. -/
theorem Request.keeps_of_reads {c : Request α} (h : c.reads = true) : (c.job v).Keeps := by
  cases c with
  | call | testNode | registerNode | updateNode => cases h
  | stats id =>
    exact Job.preserves_bind (keeps_unitAndNode id) fun _ => Telemetry.Collector.keeps_stats
  | logs id tail => exact Job.preserves_bind (keeps_unitAndNode id) fun _ => Job.keeps_onNode _ _
  | get id => exact Job.keeps_get _ _
  | list p f page => exact Job.keeps_look _
  | sessionTarget p id =>
    exact Job.preserves_bind (keeps_ownedUnit p id) fun _ =>
      Job.preserves_bind (Job.keeps_openEngine _) fun _ => Job.preserves_pure _
  | candidates specId imageId => exact keeps_candidates specId imageId
  | catalog =>
    exact Job.preserves_bind (Job.keeps_list _ _) fun _ => Job.preserves_bind (Job.keeps_list _ _) fun _ =>
      Job.preserves_bind (Job.keeps_list _ _) fun _ => Job.preserves_pure _
  | nodes f => exact Job.keeps_list _ _

/-- **A steady request makes only writes that keep records in step**, so what holds across those writes holds
across the request, one case for each kind of request. -/
theorem Bears.request {R : Store → Store → Prop} [IsPreorder Store R] (hR : Bears R) {c : Request α}
    (h : c.isSteady = true) : (c.job v).Preserves R := by
  cases c with
  | call c =>
    cases c with
    | create | delete | deleteMany => cases h
    | start p id => exact hR.start p id
    | stop p id => exact hR.stop v p id
    | restart p id => exact hR.restart v p id
    | syncStatus id => exact hR.syncStatus id
    | recheckNodes => exact hR.recheckNodes v
    | resyncWorkloads => exact hR.resyncWorkloads v
  | testNode id => exact hR.testNode id
  | registerNode | updateNode => cases h
  | stats | logs | get | list | sessionTarget | candidates | catalog | nodes =>
    exact (Request.keeps_of_reads rfl).preserves

/-- A change of the shelf of nodes leaves the other three as they are. -/
theorem edits_write {β : Type} (f : Time.Instant → Repository Node → Except Failure β × Repository Node) :
    (Job.write Job.nodes f).Preserves Store.EditsNodes := by
  intro s r s' hy
  obtain ⟨_, _, rfl⟩ := Job.yields_write.mp hy
  exact ⟨⟨rfl, rfl⟩, rfl⟩

/-- To register a node touches nothing but the nodes. -/
theorem edits_registerNode (n : Node) : (registerNode n).Preserves Store.EditsNodes :=
  Job.preserves_bind (keeps_probe _).preserves fun _ => edits_write _

/-- To edit a node touches nothing but the nodes. -/
theorem edits_updateNode (id : RecordId) (n : Node) : (updateNode id n).Preserves Store.EditsNodes :=
  Job.preserves_bind (Job.keeps_get _ _).preserves fun _ =>
    Job.preserves_bind (keeps_probe _).preserves fun _ => edits_write _

/-! ## Requests one after another -/

/-- **A request is served**, between the records found and the records left; it may come to nothing, where an
engine stays silent or a number does not fit. -/
def Serves (v : Service) (s s' : Store) : Prop :=
  ∃ (α : Type) (c : Request α) (r : Except Halt α), (c.job v).Yields s r s'

/-- **A request is answered**, between the records found and the records left. -/
def Answers (v : Service) (s s' : Store) : Prop :=
  ∃ (α : Type) (c : Request α) (a : Except Failure α), (c.job v).Yields s (a.mapError .failed) s'

/-- What was answered was served; the converse leaves out the requests that never came to an answer. -/
theorem serves_of_answers (h : Answers v s s') : Serves v s s' := by
  obtain ⟨α, c, a, hy⟩ := h
  exact ⟨α, c, a.mapError .failed, hy⟩

/-- Requests served on a fleet one after another, as long as each is answered. -/
def answerAll (v : Service) : List (Sigma Request) → Fleet → Option Fleet
  | [], fl => some fl
  | ⟨_, c⟩ :: rest, fl =>
    match (c.job v).run.run fl with
    | (.ok _, fl) => answerAll v rest fl
    | (.error (.failed _), fl) => answerAll v rest fl
    | (.error .silent, _) => none
    | (.error .overflow, _) => none

/-- **Requests that are served in a row are a run of answered requests**, by induction on the requests. -/
theorem answers_answerAll : ∀ {cs : List (Sigma Request)} {fl fl' : Fleet},
    answerAll v cs fl = some fl' → Relation.ReflTransGen (Answers v) fl.store fl'.store
  | [], _, _, h => Option.some.inj h ▸ .refl
  | ⟨α, c⟩ :: rest, fl, fl', h => by
    have hy := Job.run_yields (c.job v) fl
    unfold answerAll at h
    rcases hrun : (c.job v).run.run fl with ⟨(f | _ | _) | a, next⟩
    · rw [hrun] at h hy
      exact .head ⟨α, c, .error f, hy⟩ (answers_answerAll h)
    · rw [hrun] at h
      cases h
    · rw [hrun] at h
      cases h
    · rw [hrun] at h hy
      exact .head ⟨α, c, .ok a, hy⟩ (answers_answerAll h)

end Service

end FleetControl
