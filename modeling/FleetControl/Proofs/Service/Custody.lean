import FleetControl.Proofs.Service.Berth
import FleetControl.Proofs.Service.Run

/-!
# What calls do to the estate

On a fleet whose engines oblige, a call that is made for a person does to the estate what
`Estate.Alters` lists: an order makes a unit, or leaves its data volume behind, or leaves nothing
(`alters_create`); a removal takes a unit down (`alters_delete`); calls that run units leave the estate as
it is.
-/

namespace FleetControl.Service

open Estate (Alters Custody)

variable {v : Service} {p : Principal} {o : Order} {id : RecordId} {fl : Fleet} {E : Estate}
  {left : List (String × String)} {w : Workload} {n : Node} {spec : Spec} {image : Image}

/-- **An order is stranded**: it fails once its data volume was made, and the volume is left behind. -/
structure Stranded (v : Service) (fl : Fleet) (p : Principal) (o : Order) (image : Image) (spec : Spec)
    (n : Node) : Prop where
  found : Finds o fl.store image spec n
  hasDisk : 0 < spec.dataDiskGb
  hasEngine : n.engineAddress ≠ ""
  fails : ∃ text, ((v.create p o).run.run fl).1 = .error (.failed (.provision text))

/-- **The call is an order that is stranded.** -/
def Call.Strands (v : Service) (fl : Fleet) : {α : Type} → Call α → Prop
  | _, .create p o => ∃ image spec n, Stranded v fl p o image spec n
  | _, _ => False

/-- To set a status is a write of the records, which spares every stock. -/
theorem spared_setStatus (id : RecordId) (status : Status) : (setStatus id status).Leads Fleet.Spared :=
  Job.spared_write Job.workloads fun now ws => ws.update now id (.ofStatus status)

/-! ## Calls that run units -/

/-- What is done to the unit of a workload spares the stocks if the operation on the unit does. -/
theorem spared_tend {t : Node → String → Job Unit} (ht : ∀ n unit, (t n unit).Leads Fleet.Spared)
    (p : Principal) (id : RecordId) (status : Status) : (tend t p id status).Leads Fleet.Spared :=
  Job.leads_bind (leads_ownedUnit p id) fun _ =>
    Job.leads_bind (ht _ _) fun _ => spared_setStatus _ _

/-! ## Removals -/

/-- A workload without a unit has none to take down, so its removal asks nothing of any engine. -/
theorem run_unmake_of_none (hunit : w.unit? = none) : (unmake v w).run.run fl = (.ok (), fl) := by
  unfold unmake
  rw [hunit]
  rfl

/-- At a node that is not known nothing is taken down: there is no engine to ask, and the record goes without its
unit. -/
theorem run_unmake_of_unknown {unit : String} (hunit : w.unit? = some unit)
    (hn : fl.store.nodes.find? w.nodeId = none) : (unmake v w).run.run fl = (.ok (), fl) := by
  have hfind : (Job.find? Job.nodes w.nodeId).run.run fl = (.ok none, fl) :=
    congrArg (fun r => (Except.ok r, fl)) hn
  unfold unmake
  rw [hunit]
  exact Job.run_bind_of_ok hfind

/-- The unit of a workload is taken down at its node, as far as the job that does it is heard of. -/
theorem run_unmake_of {fl' : Fleet} {unit : String} {r : Except Halt Unit} (hunit : w.unit? = some unit)
    (hn : fl.store.nodes.find? w.nodeId = some n)
    (hrun : (Job.teardown v.engine n unit w.containerName).run.run fl = (r, fl')) :
    (unmake v w).run.run fl = ((Job.heard r).map fun _ => (), fl') := by
  have hfind : (Job.find? Job.nodes w.nodeId).run.run fl = (.ok (some n), fl) :=
    congrArg (fun r => (Except.ok r, fl)) hn
  unfold unmake
  rw [hunit]
  dsimp only
  rw [Job.run_bind_of_ok hfind]
  dsimp only
  rw [Job.run_bind, Job.run_attempt_of hrun]
  obtain (f | _) | _ := r <;> rfl

/-- **The unit of a workload is taken down at its node.** -/
theorem run_unmake (h : fl.Obliging) {unit : String} (hunit : w.unit? = some unit)
    (hn : fl.store.nodes.find? w.nodeId = some n) (haddress : n.engineAddress ≠ "") :
    ∃ e fl', (unmake v w).run.run fl = (.ok (), fl') ∧ fl.Became n.engineAddress e fl' ∧ e.Obliges ∧
      e.stock = (fl.stock n.engineAddress).takenDown unit w.containerName := by
  obtain ⟨e, fl', hrun, hrest⟩ := Job.run_teardown h haddress v.engine unit w.containerName
  exact ⟨e, fl', run_unmake_of hunit hn hrun, hrest⟩

/-- A workload that was struck off at a time. -/
def struck (now : Time.Instant) (w : Workload) : Workload := Record.markDeleted now (marked now w)

/-- **A workload that is struck off is marked where it stands**, and that is all. -/
theorem run_strike (hfind : fl.store.workloads.find? id = some w) :
    (strike id).run.run fl = (.ok (), { fl with
      store := { fl.store with workloads := fl.store.workloads.put (struck fl.now w) } }) := by
  obtain ⟨_, rfl, hlive⟩ := Repository.find?_eq_some_iff.mp hfind
  have hset : (setStatus w.id .removed).run.run fl = (.ok (marked fl.now w), { fl with
      store := { fl.store with workloads := fl.store.workloads.put (marked fl.now w) } }) :=
    Job.run_update (WorkloadPatch.ofStatus .removed) hfind
  have hgone : ((fl.store.workloads.put (marked fl.now w)).delete fl.now [w.id]).2 =
      fl.store.workloads.put (struck fl.now w) := Repository.delete_put fl.now hlive
  unfold strike
  refine (Job.run_bind_of_ok hset).trans ((Job.run_bind_of_ok (Job.run_write _ _ _)).trans ?_)
  exact congrArg (fun ws => (Except.ok (), { fl with store := { fl.store with workloads := ws } })) hgone

/-- A workload that is struck off has no berth any more; the engines are as they were, since taking the unit down
comes before it. -/
theorem estate_strike (hfind : fl.store.workloads.find? id = some w) :
    ∃ fl', (strike id).run.run fl = (.ok (), fl') ∧ (fl.Obliging → fl'.Obliging) ∧
      fl'.estate = { fl.estate with berth? := Function.update fl.estate.berth? id none } := by
  obtain ⟨hberth, hknown⟩ := berth?_removal fl.now fl.now hfind
  exact ⟨_, run_strike hfind, fun h => ⟨h.heard, h.obliges⟩,
    congrArg₂ (fun berths ids => Estate.mk berths ids fl.stock) hberth hknown⟩

/-- What a caller is told who may not manage a workload. -/
def refusal (p : Principal) (id : RecordId) : Failure :=
  .permissionDenied ("user " ++ toString p.userId.toNat ++ " may not manage workload " ++ toString id.toNat)

/-- A workload of the caller's is found. -/
theorem run_owned_of_find? (hfind : fl.store.workloads.find? id = some w) (hp : p.canManage w = true) :
    (owned p id).run.run fl = (.ok w, fl) := by
  have hget : (Job.get Job.workloads id).run.run fl = (.ok w, fl) := Job.run_get_of_find? hfind
  unfold owned
  rw [Job.run_bind_of_ok hget, if_pos hp]
  rfl

/-- **Looking for a workload of the caller's** finds none of the identifier, or another's, or it. -/
theorem run_owned_cases (p : Principal) (id : RecordId) (fl : Fleet) :
    (fl.store.workloads.find? id = none ∧
      (owned p id).run.run fl = (.error (.failed (.notFound (Record.label Workload id))), fl)) ∨
    (∃ w, fl.store.workloads.find? id = some w ∧ p.canManage w = false ∧
      (owned p id).run.run fl = (.error (.failed (refusal p id)), fl)) ∨
    ∃ w, fl.store.workloads.find? id = some w ∧ p.canManage w = true ∧
      (owned p id).run.run fl = (.ok w, fl) := by
  cases hfind : fl.store.workloads.find? id with
  | none =>
    have hget : (Job.get Job.workloads id).run.run fl =
        (.error (.failed (.notFound (Record.label Workload id))), fl) := Job.run_get_of_none hfind
    exact .inl ⟨rfl, Job.run_bind_of_error hget⟩
  | some w =>
    cases hp : p.canManage w with
    | false =>
      have hget : (Job.get Job.workloads id).run.run fl = (.ok w, fl) := Job.run_get_of_find? hfind
      refine .inr (.inl ⟨w, rfl, hp, ?_⟩)
      unfold owned
      rw [Job.run_bind_of_ok hget, if_neg (hp ▸ Bool.false_ne_true)]
      rfl
    | true => exact .inr (.inr ⟨w, rfl, hp, run_owned_of_find? hfind hp⟩)

/-- Looking for a workload leaves the fleet as it is, whether the caller may manage it or not. -/
theorem run_owned (p : Principal) (id : RecordId) (fl : Fleet) : ∃ r, (owned p id).run.run fl = (r, fl) ∧
    ∀ w, r = .ok w → fl.store.workloads.find? id = some w := by
  rcases run_owned_cases p id fl with ⟨_, hrun⟩ | ⟨_, _, _, hrun⟩ | ⟨w, hfind, _, hrun⟩
  · exact ⟨_, hrun, fun _ hw => by cases hw⟩
  · exact ⟨_, hrun, fun _ hw => by cases hw⟩
  · exact ⟨_, hrun, fun _ hw => Except.ok.inj hw ▸ hfind⟩

/-- **A workload is removed with its unit**, which is taken down at its node. -/
theorem estate_takedown (h : fl.Obliging) (hfind : fl.store.workloads.find? id = some w) {unit : String}
    (hunit : w.unit? = some unit) (hn : fl.store.nodes.find? w.nodeId = some n)
    (haddress : n.engineAddress ≠ "") (v : Service) :
    ∃ fl', (unmake v w >>= fun _ => strike id).run.run fl = (.ok (), fl') ∧ fl'.Obliging ∧
      fl'.estate = fl.estate.cleared id n.engineAddress unit w.containerName := by
  obtain ⟨e, fl', hunmake, hbecame, he, hstock⟩ := run_unmake (v := v) h hunit hn haddress
  have hfind' : fl'.store.workloads.find? id = some w := by
    rw [hbecame.store]
    exact hfind
  have hestate : { fl'.estate with berth? := Function.update fl'.estate.berth? id none } =
      fl.estate.cleared id n.engineAddress unit w.containerName := by
    unfold Fleet.estate Estate.cleared
    dsimp only
    rw [hbecame.store, hbecame.stock, hstock]
  obtain ⟨fl'', hrun, hobliging, hstruck⟩ := estate_strike hfind'
  rw [hestate] at hstruck
  rw [Job.run_bind_of_ok hunmake]
  exact ⟨fl'', hrun, hobliging (hbecame.obliging h he), hstruck⟩

/-- **A removal takes a unit down with its workload**, or nothing happens; it leaves no volume behind that goes
with the unit. -/
theorem alters_delete (h : fl.Obliging) (hc : fl.estate.Custody left) (v : Service) (p : Principal)
    (id : RecordId) : ((delete v p id).run.run fl).2.Obliging ∧
      fl.estate.Alters [] ((delete v p id).run.run fl).2.estate := by
  rw [delete_eq]
  obtain ⟨e | w, howned, hfound⟩ := run_owned p id fl
  · rw [Job.run_bind_of_error howned]
    exact ⟨h, .still⟩
  · have hfind := hfound w rfl
    have hberth : fl.store.berth? id = fl.store.berthOf w := Store.berth?_of_find? hfind
    rw [Job.run_bind_of_ok howned]
    cases hunit : w.unit? with
    | none =>
      -- a workload without a unit has no berth to lose
      have hnone : fl.estate.berth? id = none := hberth.trans (Store.berthOf_of_none hunit)
      obtain ⟨fl', hrun, hobliging, hestate⟩ := estate_strike hfind
      rw [Job.run_bind_of_ok (run_unmake_of_none hunit), hrun, hestate, ← hnone, Function.update_eq_self]
      exact ⟨hobliging h, .still⟩
    | some unit =>
      rw [Store.berthOf_of_some hunit] at hberth
      -- custody promises that the node is known and has an address, so the unit is taken down
      obtain ⟨_, ⟨a, haddress, ha⟩, _⟩ := hc.named id _ hberth
      obtain ⟨n, hn, rfl⟩ := Option.map_eq_some_iff.mp haddress
      obtain ⟨fl', hrun, hobliging, hestate⟩ := estate_takedown h hfind hunit hn ha v
      rw [hrun]
      refine ⟨hobliging, ?_⟩
      rw [hestate]
      refine .cleared ?_
      rw [hn] at hberth
      exact hberth

/-- Removals one after another, each failing or not, keep custody of what they were given, by induction on the
identifiers. -/
theorem custody_deleteFrom (v : Service) (p : Principal) : ∀ (ids removed : List RecordId) {fl : Fleet},
    fl.Obliging → fl.estate.Custody left →
    ((deleteFrom v p ids removed).run.run fl).2.estate.Custody left
  | [], _, _, _, hc => hc
  | id :: rest, removed, fl, h, hc => by
    obtain ⟨hobliging, halters⟩ := alters_delete h hc v p id
    have hcustody := hc.alters halters
    rw [List.append_nil] at hcustody
    unfold deleteFrom
    rw [Job.run_bind, Job.run_attempt]
    rcases hrun : (delete v p id).run.run fl with ⟨(f | _ | _) | _, fl'⟩ <;> rw [hrun] at hobliging hcustody
    · dsimp only [Job.heard]
      split
      · exact custody_deleteFrom v p rest _ hobliging hcustody
      · exact hcustody
      · exact custody_deleteFrom v p rest _ hobliging hcustody
    · exact hcustody
    · exact hcustody
    · exact custody_deleteFrom v p rest _ hobliging hcustody

/-! ## Orders -/

/-- A live workload whose record is advanced has the berth of its new record. -/
theorem run_advance (hfind : fl.store.workloads.find? w.id = some w) (patch : WorkloadPatch) :
    ∃ w' fl', (Job.update Job.workloads w.id patch).run.run fl = (.ok w', fl') ∧
      fl'.estate = { fl.estate with
        berth? := Function.update fl.estate.berth? w.id (fl.store.berthOf (Record.patch patch w)) } := by
  refine ⟨_, _, Job.run_update patch hfind, ?_⟩
  have hlive : Record.isLive (Record.touch fl.now (Record.patch patch w)) = true :=
    (Repository.find?_eq_some_iff.mp hfind).2.2
  have hberth : Store.berth? { fl.store with
      workloads := fl.store.workloads.put (Record.touch fl.now (Record.patch patch w)) } = _ :=
    Store.berth?_place (s := fl.store) rfl rfl
  have hknown : Store.known { fl.store with
      workloads := fl.store.workloads.put (Record.touch fl.now (Record.patch patch w)) } = _ :=
    Store.known_of_place (s := fl.store) rfl
  rw [if_pos hlive] at hberth
  have hmem : (Record.touch fl.now (Record.patch patch w)).id ∈ fl.store.known := Store.mem_known hfind
  rw [Set.insert_eq_of_mem hmem] at hknown
  exact congrArg₂ (fun berths ids => Estate.mk berths ids fl.stock) hberth hknown

/-- **A workload whose unit cannot be made** is recorded as failed, and has no berth. -/
theorem run_realize_error {fl' : Fleet} {f : Failure}
    (hrun : (Job.provision v.engine n spec image (Engine.unitName w.name w.id fl.now.unix)).run.run fl =
      (.error (.failed f), fl'))
    (hfind : fl'.store.workloads.find? w.id = some w) :
    (∃ text, ((realize v w n spec image).run.run fl).1 = .error (.failed (.provision text))) ∧
      ((realize v w n spec image).run.run fl).2.estate = fl'.estate := by
  obtain ⟨text, htext⟩ := provisionFailure_eq f
  obtain ⟨w', fl'', hset, hestate⟩ := run_advance hfind (.ofStatus .failed)
  -- the status is all that changes, so the berth is the one that was there
  have hberth : fl'.store.berthOf (Record.patch (WorkloadPatch.ofStatus .failed) w) =
      fl'.estate.berth? w.id := by
    show _ = (fl'.store.workloads.find? w.id).bind _
    rw [hfind]
    rfl
  rw [hberth, Function.update_eq_self] at hestate
  unfold realize
  rw [Job.run_bind_of_ok (Job.run_look _ fl), Job.run_bind_of_ok (Job.run_attempt_of hrun)]
  dsimp only [Job.heard]
  rw [setStatus, Job.run_bind_of_ok hset, htext]
  exact ⟨⟨text, rfl⟩, hestate⟩

/-- **Where a number of the plan does not fit**, the record is left as it was stored, and the order ends there. -/
theorem run_realize_overflow {fl' : Fleet}
    (hrun : (Job.provision v.engine n spec image (Engine.unitName w.name w.id fl.now.unix)).run.run fl =
      (.error .overflow, fl')) : (realize v w n spec image).run.run fl = (.error .overflow, fl') := by
  unfold realize
  rw [Job.run_bind_of_ok (Job.run_look _ fl), Job.run_bind_of_error (Job.run_attempt_of hrun)]

/-- **A workload whose unit is made** is recorded as running, and has its berth. -/
theorem run_realize_ok {fl' : Fleet} {unit : String}
    (hrun : (Job.provision v.engine n spec image (Engine.unitName w.name w.id fl.now.unix)).run.run fl =
      (.ok unit, fl'))
    (hfind : fl'.store.workloads.find? w.id = some w) (hunit : unit ≠ "") :
    (∃ w', ((realize v w n spec image).run.run fl).1 = .ok w') ∧
      ((realize v w n spec image).run.run fl).2.estate = { fl'.estate with
        berth? := Function.update fl'.estate.berth? w.id
          (some ⟨(fl'.store.nodes.find? w.nodeId).map Node.engineAddress, unit,
            some (Engine.unitName w.name w.id fl.now.unix)⟩) } := by
  obtain ⟨w', fl'', hset, hestate⟩ := run_advance hfind
    { status := some .running, containerId := some unit,
      containerName := some (Engine.unitName w.name w.id fl.now.unix) }
  have hberth : fl'.store.berthOf (Record.patch
      { status := some .running, containerId := some unit,
        containerName := some (Engine.unitName w.name w.id fl.now.unix) : WorkloadPatch } w) =
      some ⟨(fl'.store.nodes.find? w.nodeId).map Node.engineAddress, unit,
        some (Engine.unitName w.name w.id fl.now.unix)⟩ := by
    have hsome : (some unit).filter (fun c => !c.isEmpty) = some unit := by simp [hunit]
    exact congrArg (Option.map _) hsome
  rw [hberth] at hestate
  unfold realize
  rw [Job.run_bind_of_ok (Job.run_look _ fl), Job.run_bind_of_ok (Job.run_attempt_of hrun)]
  dsimp only [Job.heard]
  rw [hset]
  exact ⟨⟨w', rfl⟩, hestate⟩

/-- **What becomes of a workload that was stored.** -/
theorem alters_realize (h : fl.Obliging) (hE : fl.estate = E.recorded w.id) (isNew : w.id ∉ E.known)
    (hnew : ∀ a, (E.stock a).unit? (E.stock a).nextId = none) (hfind : fl.store.workloads.find? w.id = some w)
    (hn : fl.store.nodes.find? w.nodeId = some n) :
    ∃ more, E.Alters more ((realize v w n spec image).run.run fl).2.estate ∧
      (more = [] ↔ ¬ (0 < spec.dataDiskGb ∧ n.engineAddress ≠ "" ∧
        ∃ text, ((realize v w n spec image).run.run fl).1 = .error (.failed (.provision text)))) := by
  have hstock : fl.stock = E.stock := congrArg Estate.stock hE
  by_cases haddress : n.engineAddress = ""
  -- no engine is opened, so neither a volume nor a container is made
  · have hrun : (Job.provision v.engine n spec image (Engine.unitName w.name w.id fl.now.unix)).run.run fl =
        (.error (.failed (.incomplete "engine address is empty")), fl) :=
      Job.run_bind_of_error (Job.run_openEngine_empty haddress)
    obtain ⟨_, hestate⟩ := run_realize_error hrun hfind
    rw [hestate, hE]
    refine ⟨[], .recorded isNew, ?_⟩
    simp [haddress]
  cases hplan : Engine.Plan.of? v.engine n spec image (Engine.unitName w.name w.id fl.now.unix) with
  -- the engine is opened, but asked for nothing
  | none =>
    have hopened := Job.run_openEngine (n := n) (h.heard ▸ List.not_mem_nil) haddress
    rw [run_realize_overflow (Job.run_provision_overflow hopened hplan), hE]
    refine ⟨[], .recorded isNew, ?_⟩
    simp
  | some plan =>
    obtain ⟨r, e, fl', hrun, hbecame, _, houtcome⟩ := Job.run_provision h haddress
      (hstock ▸ hnew n.engineAddress) hplan
    have hfind' : fl'.store.workloads.find? w.id = some w := by
      rw [hbecame.store]
      exact hfind
    have hestate' : fl'.estate = { E.recorded w.id with
        stock := Function.update E.stock n.engineAddress e.stock } := by
      unfold Fleet.estate
      rw [hbecame.store, hbecame.stock, hstock]
      exact congrArg (fun E' : Estate => { E' with stock := Function.update E.stock n.engineAddress e.stock }) hE
    rw [hstock] at houtcome
    rcases houtcome with ⟨rfl, hs⟩ | ⟨⟨f, rfl⟩, given, hgiven, hs⟩
    · have hid : (E.stock n.engineAddress).nextId ≠ "" := by
        simp [Engine.Stock.nextId, String.append_eq_empty_iff]
      obtain ⟨⟨w', hr⟩, hestate⟩ := run_realize_ok hrun hfind' hid
      refine ⟨[], ?_, ?_⟩
      · rw [hestate, hestate', hs, hbecame.store, hn, Engine.volumes_of hplan]
        exact .housed isNew haddress fun b hb => Engine.dataVolume_name hb
      · rw [hr]
        simp
    · obtain ⟨⟨text, hr⟩, hestate⟩ := run_realize_error hrun hfind'
      refine ⟨(Engine.Plan.dataVolume v.engine spec (Engine.unitName w.name w.id fl.now.unix)).toList.map
        fun b => (n.engineAddress, b.name), ?_, ?_⟩
      · rw [hestate, hestate', hs]
        exact .stranded isNew (fun b hb => Engine.dataVolume_name hb) hgiven
      · rw [hr, List.map_eq_nil_iff, Option.toList_eq_nil_iff, Engine.dataVolume_eq_none_iff]
        simp [haddress]

/-- An order is turned down, and the fleet stays, or its workload is accepted. -/
theorem run_create_cases (v : Service) (p : Principal) (o : Order) (fl : Fleet) :
    (∃ e, (v.create p o).run.run fl = (.error e, fl) ∧ ∀ text, e ≠ .failed (.provision text)) ∨
    ∃ image spec n, Finds o fl.store image spec n ∧ (v.create p o).run.run fl = (do
      let w ← Job.create Job.workloads (ordered p o image spec n)
      v.realize w n spec image : Job Workload).run.run fl := by
  unfold create
  rcases Job.run_get_bind Job.images o.imageId _ fl with ⟨image, himage, hrun⟩ | hrun
  · rw [hrun]
    rcases Job.run_get_bind Job.specs o.specId _ fl with ⟨spec, hspec, hrun⟩ | hrun
    · rw [hrun]
      rcases Job.run_get_bind Job.nodes o.nodeId _ fl with ⟨n, hn, hrun⟩ | hrun
      · rw [hrun]
        split
        · have hcheck : (checkNode n spec image).run.run fl =
              ((fl.store.checkNode Ledger.packFirst spec image n).mapError .failed, fl) :=
            Job.run_ofExcept _ fl
          cases hnode : fl.store.checkNode Ledger.packFirst spec image n with
          | ok c =>
            rw [hnode] at hcheck
            rw [Job.run_bind_of_ok hcheck]
            exact .inr ⟨image, spec, n, ⟨himage, hspec, hn⟩, rfl⟩
          | error e =>
            obtain ⟨text, rfl⟩ := Store.checkNode_error hnode
            rw [hnode] at hcheck
            rw [Job.run_bind_of_error hcheck]
            exact .inl ⟨_, rfl, nofun⟩
        · exact .inl ⟨_, rfl, nofun⟩
      · rw [hrun]
        exact .inl ⟨_, rfl, nofun⟩
    · rw [hrun]
      exact .inl ⟨_, rfl, nofun⟩
  · rw [hrun]
    exact .inl ⟨_, rfl, nofun⟩

/-- A new workload without a unit is recorded, and that is all: the engines do not know of it yet. -/
theorem estate_gains {s' : Store} (gains : fl.store.Gains w s') (hunit : w.unit? = none)
    (hnone : fl.store.berth? w.id = none) :
    ({ fl with store := s' } : Fleet).estate = fl.estate.recorded w.id := by
  have hberthOf : fl.store.berthOf w = none := by
    rw [Store.berthOf, hunit]
    rfl
  have hberth : s'.berth? = fl.store.berth? := by
    rw [Store.berth?_place gains.nodes gains.rows, hberthOf, ite_self, ← hnone, Function.update_eq_self]
  exact congrArg₂ (fun berths ids => Estate.mk berths ids fl.stock) hberth (Store.known_of_place gains.rows)

/-- **A workload that is accepted is stored**, without a unit, unless its identifier is taken; then the next
identifier has moved on all the same. -/
theorem run_store (p : Principal) (o : Order) (image : Image) (spec : Spec) (n : Node) (fl : Fleet) :
    (∃ text s', (Job.create Job.workloads (ordered p o image spec n)).run.run fl =
        (.error (.failed (.storage text)), { fl with store := s' }) ∧ fl.store.SameRows s') ∨
      ∃ w s', (Job.create Job.workloads (ordered p o image spec n)).run.run fl =
          (.ok w, { fl with store := s' }) ∧ fl.store.Gains w s' ∧ w.unit? = none ∧ w.nodeId = n.id ∧
        Record.isLive w = true ∧ w.name = o.name ∧ w.ownerId = p.userId := by
  have hrun : (Job.create Job.workloads (ordered p o image spec n)).run.run fl = _ :=
    Job.run_write Job.workloads (fun now r => r.create now (ordered p o image spec n)) fl
  rw [show Job.workloads.get fl.store = fl.store.workloads from rfl] at hrun
  rcases Repository.create_cases fl.now fl.store.workloads (a := ordered p o image spec n) rfl with
    ⟨text, he, hrows⟩ | ⟨hnew, hok, hrows⟩
  · rw [he] at hrun
    exact .inl ⟨text, _, hrun, rfl, rfl, rfl, hrows⟩
  · rw [hok] at hrun
    exact .inr ⟨_, _, hrun, ⟨rfl, rfl, rfl, rfl, hnew, hrows⟩, rfl, rfl, rfl, rfl, rfl⟩

/-- **What an order does to the estate**: it leaves a volume behind exactly where it strands it. -/
theorem alters_create (h : fl.Obliging) (hnew : ∀ a, (fl.stock a).unit? (fl.stock a).nextId = none)
    (v : Service) (p : Principal) (o : Order) : ∃ more, fl.estate.Alters more ((v.create p o).run.run fl).2.estate ∧
      (more = [] ↔ ¬ (Call.create p o).Strands v fl) := by
  rcases run_create_cases v p o fl with ⟨e, hturned, he⟩ | ⟨image, spec, n, found, hrun⟩
  · rw [hturned]
    refine ⟨[], .still, iff_of_true rfl ?_⟩
    rintro ⟨_, _, _, stranded⟩
    obtain ⟨text, fails⟩ := stranded.fails
    rw [hturned] at fails
    exact he text (Except.error.inj fails)
  rcases run_store p o image spec n fl with
    ⟨text, s', hstore, hsame⟩ | ⟨w, s', hstore, gains, hunit, hnode, hlive, _⟩
  · rw [Job.run_bind_of_error hstore] at hrun
    have hspared : fl.Spared { fl with store := s' } := ⟨rfl, fun _ => ⟨h.heard, h.obliges⟩⟩
    rw [hrun, hspared.estate hsame.sameBerths]
    refine ⟨[], .still, iff_of_true rfl ?_⟩
    rintro ⟨_, _, _, stranded⟩
    obtain ⟨_, fails⟩ := stranded.fails
    rw [hrun] at fails
    cases fails
  · rw [Job.run_bind_of_ok hstore] at hrun
    have isNew : w.id ∉ fl.store.known := by
      rintro ⟨u, hu, hid⟩
      exact gains.isNew u hu hid
    have hfind := gains.find?_self hlive
    have hn : s'.nodes.find? w.nodeId = some n := by
      rw [gains.nodes, hnode]
      exact found.node_self
    have hobliging : Fleet.Obliging { fl with store := s' } := ⟨h.heard, h.obliges⟩
    have hestate := estate_gains gains hunit (Store.berth?_eq_none isNew)
    obtain ⟨more, halters, hmore⟩ := alters_realize hobliging hestate isNew hnew hfind hn
    rw [← hrun] at halters hmore
    refine ⟨more, halters, hmore.trans (not_congr ⟨?_, ?_⟩)⟩
    · rintro ⟨hasDisk, hasEngine, fails⟩
      exact ⟨image, spec, n, found, hasDisk, hasEngine, fails⟩
    · rintro ⟨_, _, _, found', hasDisk, hasEngine, fails⟩
      obtain ⟨rfl, rfl, rfl⟩ := found.unique found'
      exact ⟨hasDisk, hasEngine, fails⟩

/-! ## All calls -/

namespace Call

/-- The call is made for a person. -/
def isPersonal : {α : Type} → Call α → Bool
  | _, .syncStatus _ | _, .recheckNodes | _, .resyncWorkloads => false
  | _, _ => true

end Call

/-- What spares the stocks and changes no berth keeps custody, and leaves nothing behind. -/
theorem custody_still {α : Type} {t : Job α} (hspared : t.Leads Fleet.Spared)
    (hsame : t.Preserves Store.SameBerths) (hc : fl.estate.Custody left) :
    (t.run.run fl).2.estate.Custody (left ++ []) := by
  rw [List.append_nil, (hspared fl).estate (hsame _ _ _ (Job.run_yields t fl))]
  exact hc

/-- **Every call for a person keeps custody**; volumes are left behind exactly where one strands them, so the
count of orphans follows from the orders alone. -/
theorem custody_call {α : Type} {c : Call α} (h : fl.Obliging) (hc : fl.estate.Custody left)
    (hpersonal : c.isPersonal = true) :
    ∃ more, ((c.job v).run.run fl).2.estate.Custody (left ++ more) ∧ (more = [] ↔ ¬ c.Strands v fl) := by
  cases c with
  | create p o =>
    obtain ⟨more, halters, hmore⟩ := alters_create h (fun a => (hc.orderly a).unit?_nextId) v p o
    exact ⟨more, hc.alters halters, hmore⟩
  | delete p id => exact ⟨[], hc.alters (alters_delete h hc v p id).2, iff_of_true rfl not_false⟩
  | deleteMany p ids =>
    refine ⟨[], ?_, iff_of_true rfl not_false⟩
    rw [List.append_nil]
    exact custody_deleteFrom v p ids [] h hc
  | start p id =>
    have hspared := spared_tend (t := Job.start) (fun n _ => Job.spared_onNode n rfl) p id .running
    exact ⟨[], custody_still hspared (bears_sameBerths.start p id) hc, iff_of_true rfl not_false⟩
  | stop p id =>
    have hspared := spared_tend (t := Job.stop v.engine) (fun n _ => Job.spared_onNode n rfl) p id .stopped
    exact ⟨[], custody_still hspared (bears_sameBerths.stop v p id) hc, iff_of_true rfl not_false⟩
  | restart p id =>
    have hspared := spared_tend (t := Job.restart v.engine) (fun n _ => Job.spared_onNode n rfl) p id .running
    exact ⟨[], custody_still hspared (bears_sameBerths.restart v p id) hc, iff_of_true rfl not_false⟩
  | syncStatus | recheckNodes | resyncWorkloads => cases hpersonal

end FleetControl.Service
