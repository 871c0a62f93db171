import FleetControl.Proofs.Engine.Guest
import FleetControl.Proofs.Service.Orphans
import Mathlib.Logic.Relation

/-!
# Round trips

A workload that is made, tended for a while and removed leaves the engine's containers and volumes as
they were, to the letter (`delete_restores`). In between the workload is lodged (`Lodged`): its record
names its unit, its node's engine hosts the unit besides what it held before, and no other engine holds
anything else. An order that succeeds lodges its workload (`lodged_create`), calls that tend the unit keep
it lodged whether they succeed or fail (`Lodged.tended`), and engines may be set to fail and fall out of
reach as they like until the removal. The removal itself must reach the engine, and the engine must not
refuse to remove.
-/

namespace FleetControl

/-- A property of the fleet is kept. -/
def Fleet.Keeping (P : Fleet → Prop) (fl fl' : Fleet) : Prop := P fl → P fl'

instance (P : Fleet → Prop) : IsPreorder Fleet (Fleet.Keeping P) where
  refl _ := id
  trans _ _ _ h h' := h' ∘ h

namespace Service

open Engine (Hosts unitName volumeName)
open Fleet (Keeping)

variable {v : Service} {p q : Principal} {o : Order} {fl₀ fl fl₁ fl₂ : Fleet} {n : Node} {w : Workload}
  {unit name : String} {volumes : List String}

/-- **A workload is lodged** since the fleet was another: its record names its unit, its node's engine
hosts the unit besides what it held then, and every other engine holds what it held then. -/
structure Lodged (fl₀ : Fleet) (n : Node) (w : Workload) (unit name : String) (volumes : List String)
    (fl : Fleet) : Prop where
  record : ∃ status stamps, fl.store.workloads.find? w.id = some { w with status := status, stamps := stamps }
  hasUnit : w.unit? = some unit
  hasName : w.containerName = some name
  isNamed : name ≠ ""
  mounted : volumes = [] ∨ volumes = [volumeName name]
  node : fl.store.nodes.find? w.nodeId = some n
  address : n.engineAddress ≠ ""
  guest : Hosts (fl₀.engineAt n.engineAddress).holdings unit name volumes (fl.engineAt n.engineAddress)
  others : ∀ a, a ≠ n.engineAddress → (fl.engineAt a).containers = (fl₀.engineAt a).containers ∧
    (fl.engineAt a).volumes = (fl₀.engineAt a).volumes

namespace Lodged

/-- A lodged workload stays lodged where its node's engine becomes another that hosts the unit as well. -/
theorem became (h : Lodged fl₀ n w unit name volumes fl) {e : Engine} {fl' : Fleet}
    (hb : fl.Became n.engineAddress e fl')
    (he : Hosts (fl₀.engineAt n.engineAddress).holdings unit name volumes e) :
    Lodged fl₀ n w unit name volumes fl' where
  record := hb.store ▸ h.record
  hasUnit := h.hasUnit
  hasName := h.hasName
  isNamed := h.isNamed
  mounted := h.mounted
  node := hb.store ▸ h.node
  address := h.address
  guest := by
    rw [hb.engineAt, Function.update_self]
    exact he
  others a ha := by
    rw [hb.engineAt, Function.update_of_ne ha]
    exact h.others a ha

end Lodged

/-! ## Tending -/

/-- What is done with the engine of the node, once it is open; where it does not open nothing is done. -/
theorem keeps_opened {α : Type} {f : String → Job α}
    (hf : (f n.engineAddress).Leads (Keeping (Lodged fl₀ n w unit name volumes))) :
    (Job.openEngine n >>= f).Leads (Keeping (Lodged fl₀ n w unit name volumes)) := by
  intro fl h
  rcases Job.run_openEngine_cases n fl with ⟨e, he⟩ | ⟨_, hok⟩
  · rw [Job.run_bind_of_error he]
    exact h
  · rw [Job.run_bind_of_ok hok]
    exact hf fl h

/-- A call that minds the state of the unit keeps its workload lodged, whatever the engine answers. -/
theorem keeps_onNode {β : Type} (c : Engine.Call β) (hc : c.Minds unit) :
    (Job.onNode n c).Leads (Keeping (Lodged fl₀ n w unit name volumes)) :=
  keeps_opened (Job.leads_tryAct fun fl h => h.became (fl.became_setEngine _ _) (h.guest.answer hc))

/-- To ask for the state of the unit keeps its workload lodged. -/
theorem keeps_unitState : (Job.unitState n unit).Leads (Keeping (Lodged fl₀ n w unit name volumes)) := by
  refine keeps_opened (Job.leads_bind (fun fl h => ?_) fun _ => Job.leads_ofExcept _)
  obtain ⟨fl', hdialog, hbecame⟩ := Job.run_dialog n.engineAddress (Engine.Unit.state unit) fl
  rw [hdialog]
  exact h.became hbecame (h.guest.answer (c := .inspect unit) rfl)

/-- To set the status of a lodged workload leaves its unit and its node in the record. -/
theorem keeps_setStatus (status : Status) :
    (setStatus w.id status).Leads (Keeping (Lodged fl₀ n w unit name volumes)) := by
  intro fl h
  obtain ⟨status', stamps, hfind⟩ := h.record
  have hset : (Job.update Job.workloads w.id (WorkloadPatch.ofStatus status)).run.run fl = _ :=
    Job.run_update _ hfind
  have hlive := (Repository.find?_eq_some_iff.mp hfind).2.2
  rw [setStatus, hset]
  exact { h with record := ⟨status, { stamps with updated := fl.now }, Repository.find?_put_self hlive⟩ }

/-- Whoever runs a workload that is lodged finds its unit and its node, or is turned down for not being its owner. -/
theorem run_ownedUnit (h : Lodged fl₀ n w unit name volumes fl) (p : Principal) :
    (∃ e, (ownedUnit p w.id).run.run fl = (.error e, fl)) ∨
      ∃ w', (ownedUnit p w.id).run.run fl = (.ok (w', unit, n), fl) := by
  obtain ⟨status, stamps, hfind⟩ := h.record
  obtain ⟨r, howned, hr⟩ := run_owned p w.id fl
  unfold ownedUnit
  cases r with
  | error e => exact .inl ⟨e, Job.run_bind_of_error howned⟩
  | ok w' =>
    obtain rfl := Option.some.inj ((hr w' rfl).symm.trans hfind)
    have hunit : unitOf { w with status := status, stamps := stamps } = .ok unit := by
      unfold unitOf
      rw [show Workload.unit? { w with status := status, stamps := stamps } = some unit from h.hasUnit]
    have hnode : (Job.get Job.nodes w.nodeId).run.run fl = (.ok n, fl) := Job.run_get_of_find? h.node
    refine .inr ⟨{ w with status := status, stamps := stamps }, ?_⟩
    rw [Job.run_bind_of_ok howned, hunit]
    exact Job.run_bind_of_ok hnode

/-- Something is done to the unit, and the status is set after it; the workload stays lodged, whatever fails. -/
theorem keeps_tend {t : Node → String → Job Unit}
    (ht : (t n unit).Leads (Keeping (Lodged fl₀ n w unit name volumes))) (p : Principal) (status : Status) :
    (tend t p w.id status).Leads (Keeping (Lodged fl₀ n w unit name volumes)) := by
  intro fl h
  unfold tend
  rcases run_ownedUnit h p with ⟨e, he⟩ | ⟨w', hok⟩
  · rw [Job.run_bind_of_error he]
    exact h
  · rw [Job.run_bind_of_ok hok]
    exact Job.leads_bind ht (fun _ => keeps_setStatus status) fl h

/-- Bringing the status in step asks the engine and writes a status, and the workload stays lodged. -/
theorem keeps_syncStatus :
    (syncStatus w.id).Leads (Keeping (Lodged fl₀ n w unit name volumes)) := by
  intro fl h
  obtain ⟨status, stamps, hfind⟩ := h.record
  unfold syncStatus
  rcases Job.run_get_bind Job.workloads w.id _ fl with ⟨w', hfind', hrun⟩ | hrun
  · obtain rfl := Option.some.inj (hfind'.symm.trans hfind)
    rw [hrun]
    rw [show Workload.unit? { w with status := status, stamps := stamps } = some unit from h.hasUnit]
    dsimp only
    rcases Job.run_get_bind Job.nodes w.nodeId _ fl with ⟨n', hnode, hrun⟩ | hrun
    · rw [hrun]
      obtain rfl := Option.some.inj (h.node.symm.trans hnode)
      refine Job.leads_bind (Job.leads_attempt keeps_unitState) (fun answer => ?_) fl h
      split
      · exact Job.leads_bind (keeps_setStatus _) fun _ => Job.leads_pure _
      · exact Job.leads_pure _
    · rw [hrun]
      exact h
  · rw [hrun]
    exact h

/-- **The workload is tended**: its unit is run or asked about, and in between engines may be set
otherwise, fall out of reach or come back, as long as they hold what they held. -/
inductive Tended (v : Service) (id : RecordId) : Fleet → Fleet → Prop
  | start {fl : Fleet} (p : Principal) : Tended v id fl ((start p id).run.run fl).2
  | stop {fl : Fleet} (p : Principal) : Tended v id fl ((stop v p id).run.run fl).2
  | restart {fl : Fleet} (p : Principal) : Tended v id fl ((restart v p id).run.run fl).2
  | syncStatus {fl : Fleet} : Tended v id fl ((syncStatus id).run.run fl).2
  | meanwhile {fl fl' : Fleet} (store : fl'.store = fl.store)
      (holdings : ∀ a, (fl'.engineAt a).holdings = (fl.engineAt a).holdings) : Tended v id fl fl'

/-- **A workload that is tended stays lodged**, whether the calls succeed or fail, by induction on what is done. -/
theorem Lodged.tended (h : Lodged fl₀ n w unit name volumes fl₁)
    (run : Relation.ReflTransGen (Tended v w.id) fl₁ fl₂) : Lodged fl₀ n w unit name volumes fl₂ := by
  induction run with
  | refl => exact h
  | tail _ last ih =>
    cases last with
    | start p => exact keeps_tend (t := Job.start) (keeps_onNode (.start unit) rfl) p .running _ ih
    | stop p => exact keeps_tend (t := Job.stop v.engine) (keeps_onNode (.stop unit _) rfl) p .stopped _ ih
    | restart p =>
      exact keeps_tend (t := Job.restart v.engine) (keeps_onNode (.restart unit _) rfl) p .running _ ih
    | syncStatus => exact keeps_syncStatus _ ih
    | meanwhile store holdings =>
      refine { ih with record := store ▸ ih.record, node := store ▸ ih.node, guest := ?_, others := ?_ }
      · exact ih.guest.of_holdings (holdings _)
      · intro a ha
        obtain ⟨hcontainers, hvolumes⟩ := ih.others a ha
        exact ⟨(congrArg Engine.Holdings.containers (holdings a)).trans hcontainers,
          (congrArg Engine.Holdings.volumes (holdings a)).trans hvolumes⟩

/-! ## Making -/

/-- A workload whose unit is made was recorded with it. -/
theorem run_realize_eq_ok {image : Image} {spec : Spec} {w₀ : Workload} {fl' : Fleet}
    (h : (realize v w₀ n spec image).run.run fl = (.ok w, fl')) :
    ∃ unit fl'', (Job.provision v.engine n spec image (unitName w₀.name w₀.id fl.now.unix)).run.run fl =
        (.ok unit, fl'') ∧
      (Job.update Job.workloads w₀.id
        { status := some .running, containerId := some unit,
          containerName := some (unitName w₀.name w₀.id fl.now.unix) }).run.run fl'' = (.ok w, fl') := by
  unfold realize at h
  rw [Job.run_bind_of_ok (Job.run_look _ fl), Job.run_bind, Job.run_attempt] at h
  rcases hprovision : (Job.provision v.engine n spec image
    (unitName w₀.name w₀.id fl.now.unix)).run.run fl with ⟨(f | _ | _) | unit, fl''⟩
  · rw [hprovision] at h
    dsimp only [Job.heard] at h
    -- after a failure nothing but a failure comes
    rcases hset : (setStatus w₀.id .failed).run.run fl'' with ⟨e | w', fl₃⟩
    · rw [Job.run_bind_of_error hset] at h
      cases h
    · rw [Job.run_bind_of_ok hset] at h
      cases h
  · rw [hprovision] at h
    cases h
  · rw [hprovision] at h
    cases h
  · rw [hprovision] at h
    exact ⟨unit, fl'', rfl, h⟩

/-- **A workload whose unit is made is lodged.** -/
theorem lodged_realize {image : Image} {spec : Spec} {w₀ : Workload}
    (hfind : fl.store.workloads.find? w₀.id = some w₀) (hn : fl.store.nodes.find? w₀.nodeId = some n)
    (hunit : (fl.engineAt n.engineAddress).containers.lookup (fl.stock n.engineAddress).nextId = none)
    (hvolume : volumeName (unitName w₀.name w₀.id fl.now.unix) ∉ (fl.engineAt n.engineAddress).volumes)
    (h : (realize v w₀ n spec image).run.run fl = (.ok w, fl₁)) :
    ∃ unit name volumes, Lodged fl n w unit name volumes fl₁ := by
  obtain ⟨unit, fl', hprovision, hupdate⟩ := run_realize_eq_ok h
  have hisUnit : unit ≠ "" :=
    Job.provision_ok (hprovision ▸ Job.run_yields (Job.provision v.engine n spec image _) _)
  have hisNamed : unitName w₀.name w₀.id fl.now.unix ≠ "" := by
    simp [unitName, String.append_eq_empty_iff]
  obtain ⟨haddress, p, hp, hmade, hbecame⟩ := Job.run_provision_ok hprovision
  generalize unitName w₀.name w₀.id fl.now.unix = name at *
  have hdescribes := Engine.Plan.describes_of? hp
  have hplan : ∀ b ∈ p.volume, b.name = volumeName name ∧ p.body.volumes = [volumeName name] := by
    intro b hb
    have hdata : Engine.Plan.dataVolume v.engine spec name = some b := hdescribes.volume ▸ hb
    have hname := Engine.dataVolume_name hdata
    rw [Engine.volumes_of hp, hdata, ← hname]
    exact ⟨rfl, rfl⟩
  have hmounted : p.body.volumes = [] ∨ p.body.volumes = [volumeName name] := by
    cases hdata : Engine.Plan.dataVolume v.engine spec name with
    | none =>
      rw [Engine.volumes_of hp, hdata]
      exact .inl rfl
    | some b => exact .inr (hplan b (hdescribes.volume.trans hdata)).2
  have hguest : Engine.Hosts _ unit name p.body.volumes _ := hdescribes.name ▸
    Engine.hosts_provision hunit (hdescribes.name.symm ▸ hvolume) (hdescribes.name.symm ▸ hplan) hmade
  have hfind' : (Job.workloads.get fl'.store).find? w₀.id = some w₀ := by
    rw [hbecame.store]
    exact hfind
  obtain ⟨hw, rfl⟩ := Prod.mk.inj ((Job.run_update _ hfind').symm.trans hupdate)
  obtain rfl := Except.ok.inj hw
  have hlive : Record.isLive w₀ = true := (Repository.find?_eq_some_iff.mp hfind).2.2
  refine ⟨unit, name, _, ⟨_, _, Repository.find?_put_self hlive⟩, ?_, rfl, hisNamed, hmounted, ?_,
    haddress, ?_, ?_⟩
  · show (some unit).filter (fun c => !c.isEmpty) = some unit
    simp [hisUnit]
  · show fl'.store.nodes.find? w₀.nodeId = some n
    rw [hbecame.store]
    exact hn
  · show Hosts _ unit name _ (fl'.engineAt n.engineAddress)
    rw [hbecame.engineAt, Function.update_self]
    exact hguest
  · intro a ha
    show (fl'.engineAt a).containers = _ ∧ (fl'.engineAt a).volumes = _
    rw [hbecame.engineAt, Function.update_of_ne ha]
    exact ⟨rfl, rfl⟩

/-- **An order that succeeds lodges its workload.** -/
theorem lodged_create (hn : fl.store.nodes.find? o.nodeId = some n)
    (hunit : (fl.engineAt n.engineAddress).containers.lookup (fl.stock n.engineAddress).nextId = none)
    (hvolume : volumeName (unitName o.name fl.store.workloads.nextId fl.now.unix) ∉
      (fl.engineAt n.engineAddress).volumes)
    (h : (v.create p o).run.run fl = (.ok w, fl₁)) :
    ∃ unit name volumes, Lodged fl n w unit name volumes fl₁ := by
  rcases run_create_cases v p o fl with ⟨e, hturned, _⟩ | ⟨image, spec, n', found, hrun⟩
  · cases h.symm.trans hturned
  obtain rfl := Option.some.inj (found.node.symm.trans hn)
  rw [hrun] at h
  rcases run_store p o image spec n' fl with
    ⟨text, s', hstore, _⟩ | ⟨w₀, s', hstore, gains, _, hnode, hlive, hname, _⟩
  · rw [Job.run_bind_of_error hstore] at h
    cases h
  rw [Job.run_bind_of_ok hstore] at h
  have hn' : s'.nodes.find? w₀.nodeId = some n' := by
    rw [gains.nodes, hnode]
    exact found.node_self
  rw [← hname, ← show w₀.id = fl.store.workloads.nextId from gains.id] at hvolume
  -- only the records are other than those of the fleet before the order, and a lodging speaks of engines
  have hlodged : ∃ unit name volumes, Lodged { fl with store := s' } n' w unit name volumes fl₁ :=
    lodged_realize (gains.find?_self hlive) hn' hunit hvolume h
  obtain ⟨unit, name, volumes, lodged⟩ := hlodged
  exact ⟨unit, name, volumes, { lodged with }⟩

/-! ## Removing -/

/-- **A workload that is lodged is removed with its unit**, and the engines hold what they held before it. -/
theorem Lodged.delete (h : Lodged fl₀ n w unit name volumes fl) (hq : q.canManage w = true)
    (hheard : n.engineAddress ∉ fl.silent) (hremove : (fl.engineAt n.engineAddress).Heeds "remove")
    (hremoveVolume : (fl.engineAt n.engineAddress).Heeds "remove_volume") :
    ∃ fl', (v.delete q w.id).run.run fl = (.ok (), fl') ∧ ∀ a,
      (fl'.engineAt a).containers = (fl₀.engineAt a).containers ∧
        (fl'.engineAt a).volumes = (fl₀.engineAt a).volumes := by
  obtain ⟨status, stamps, hfind⟩ := h.record
  obtain ⟨fl₁, hteardown, hbecame⟩ :=
    Job.run_teardown_dialog hheard h.address v.engine unit w.containerName
  have howned : (owned q w.id).run.run fl = (.ok { w with status := status, stamps := stamps }, fl) :=
    run_owned_of_find? hfind hq
  have hunmake : (unmake v { w with status := status, stamps := stamps }).run.run fl = (.ok (), fl₁) :=
    run_unmake_of h.hasUnit h.node hteardown
  have hfind₁ : fl₁.store.workloads.find? w.id = some { w with status := status, stamps := stamps } := by
    rw [hbecame.store]
    exact hfind
  have hrun : (v.delete q w.id).run.run fl = (strike w.id).run.run fl₁ := by
    rw [delete_eq, Job.run_bind_of_ok howned, Job.run_bind_of_ok hunmake]
  refine ⟨_, hrun.trans (run_strike hfind₁), fun a => ?_⟩
  -- to strike a workload off is no matter for the engines
  show (fl₁.engineAt a).containers = _ ∧ (fl₁.engineAt a).volumes = _
  rw [hbecame.engineAt, Function.update_apply]
  split
  · rename_i ha
    rw [ha, h.hasName]
    exact h.guest.teardown h.mounted h.isNamed hremove hremoveVolume v.engine
  · rename_i ha
    exact h.others a ha

/-- **A workload that is made, tended and removed leaves no trace on the engines**: containers and volumes
are as they were before the order. The engine may fail as it likes until the removal, which must reach it
and must not be refused what it removes. -/
theorem delete_restores (hn : fl.store.nodes.find? o.nodeId = some n)
    (hunit : (fl.engineAt n.engineAddress).containers.lookup (fl.stock n.engineAddress).nextId = none)
    (hvolume : volumeName (unitName o.name fl.store.workloads.nextId fl.now.unix) ∉
      (fl.engineAt n.engineAddress).volumes)
    (hcreate : (v.create p o).run.run fl = (.ok w, fl₁))
    (htended : Relation.ReflTransGen (Tended v w.id) fl₁ fl₂) (hq : q.canManage w = true)
    (hheard : n.engineAddress ∉ fl₂.silent) (hremove : (fl₂.engineAt n.engineAddress).Heeds "remove")
    (hremoveVolume : (fl₂.engineAt n.engineAddress).Heeds "remove_volume") :
    ∃ fl₃, (v.delete q w.id).run.run fl₂ = (.ok (), fl₃) ∧ ∀ a,
      (fl₃.engineAt a).containers = (fl.engineAt a).containers ∧
        (fl₃.engineAt a).volumes = (fl.engineAt a).volumes := by
  obtain ⟨unit, name, volumes, hlodged⟩ := lodged_create hn hunit hvolume hcreate
  exact (hlodged.tended htended).delete hq hheard hremove hremoveVolume

/-! ## A removal that nothing helps -/

/-- A caller who is no administrator. -/
def tenant : Principal := { userId := 7, isAdmin := false }

/-- The records with a data disk, and an engine that holds a container and a volume already, and refuses to
inspect and to stop. -/
def sulkingFleet : Fleet :=
  { diskFleet with
    engines := [("small",
      { address := "small", containers := [("c9", ⟨"other", default, "running"⟩)], volumes := ["other-data"],
        always := [("inspect", ⟨500, "busy"⟩), ("stop", ⟨500, "busy"⟩)] })] }

/-- The fleet after an order, a start, and a stop that is refused. -/
def sulkingTended : Fleet :=
  ((stop smallService tenant 1).run.run ((start tenant 1).run.run
    ((create smallService tenant (smallOrder 1)).run.run sulkingFleet).2).2).2

example : ((sulkingTended.engineAt "small").containers.map Prod.fst,
    (sulkingTended.engineAt "small").volumes) =
      (["c9", "c1"], ["instance-1-1-0-data", "other-data"]) := by
  decide +kernel

theorem delete_restores_sulking : ∃ w fl₁,
    sulkingFleet.store.nodes.find? (smallOrder 1).nodeId = some { smallNode with dataDiskGb := 10 } ∧
    (sulkingFleet.engineAt "small").containers.lookup (sulkingFleet.stock "small").nextId = none ∧
    volumeName (unitName none sulkingFleet.store.workloads.nextId sulkingFleet.now.unix) ∉
      (sulkingFleet.engineAt "small").volumes ∧
    (create smallService tenant (smallOrder 1)).run.run sulkingFleet = (.ok w, fl₁) ∧
    Relation.ReflTransGen (Tended smallService w.id) fl₁ sulkingTended ∧ tenant.canManage w = true ∧
    "small" ∉ sulkingTended.silent ∧ (sulkingTended.engineAt "small").Heeds "remove" ∧
    (sulkingTended.engineAt "small").Heeds "remove_volume" ∧
    ∃ fl₃, (delete smallService tenant w.id).run.run sulkingTended = (.ok (), fl₃) ∧ ∀ a,
      (fl₃.engineAt a).containers = (sulkingFleet.engineAt a).containers ∧
        (fl₃.engineAt a).volumes = (sulkingFleet.engineAt a).volumes := by
  have hnode : sulkingFleet.store.nodes.find? (smallOrder 1).nodeId =
      some { smallNode with dataDiskGb := 10 } := by decide +kernel
  have hunit : (sulkingFleet.engineAt "small").containers.lookup
      (sulkingFleet.stock "small").nextId = none := by decide +kernel
  have hvolume : volumeName (unitName none sulkingFleet.store.workloads.nextId sulkingFleet.now.unix) ∉
      (sulkingFleet.engineAt "small").volumes := by decide +kernel
  have hmade : ((create smallService tenant (smallOrder 1)).run.run sulkingFleet).1.toOption.map
      (fun w => (w.id, tenant.canManage w)) = some (1, true) := by decide +kernel
  have hend : (sulkingTended.silent, (sulkingTended.engineAt "small").isUnreachable,
      (sulkingTended.engineAt "small").once, (sulkingTended.engineAt "small").always.map Prod.fst) =
      ([], false, [], ["inspect", "stop"]) := by decide +kernel
  obtain ⟨w, hw, hpair⟩ := Option.map_eq_some_iff.mp hmade
  obtain ⟨hid, hmanage⟩ := Prod.mk.inj hpair
  have hcreate : (create smallService tenant (smallOrder 1)).run.run sulkingFleet =
      (.ok w, ((create smallService tenant (smallOrder 1)).run.run sulkingFleet).2) := by
    refine Prod.ext ?_ rfl
    cases hr : ((create smallService tenant (smallOrder 1)).run.run sulkingFleet).1 with
    | error e =>
      rw [hr] at hw
      cases hw
    | ok w' =>
      rw [hr] at hw
      exact congrArg _ (Option.some.inj hw)
  have htended : Relation.ReflTransGen (Tended smallService w.id)
      ((create smallService tenant (smallOrder 1)).run.run sulkingFleet).2 sulkingTended := by
    rw [hid]
    exact (Relation.ReflTransGen.single (.start tenant)).tail (.stop tenant)
  obtain ⟨hsilent, hend⟩ := Prod.mk.inj hend
  obtain ⟨hreached, hend⟩ := Prod.mk.inj hend
  obtain ⟨honce, halways⟩ := Prod.mk.inj hend
  have hheard : "small" ∉ sulkingTended.silent := by
    rw [hsilent]
    exact List.not_mem_nil
  have hheeds : ∀ op ∈ ["remove", "remove_volume"], (sulkingTended.engineAt "small").Heeds op := by
    intro op hop
    refine ⟨hreached, fun x hx => ?_, fun x hx hconcerns => ?_⟩
    · rw [honce] at hx
      cases hx
    · have hkey : x.1 ∈ ["inspect", "stop"] := halways ▸ List.mem_map_of_mem hx
      have hnone : ∀ op ∈ ["remove", "remove_volume"], ∀ key ∈ ["inspect", "stop"],
          ¬ op.toList <+: key.toList := by decide
      exact hnone op hop x.1 hkey hconcerns.starts
  have hremove := hheeds "remove" List.mem_cons_self
  have hremoveVolume := hheeds "remove_volume" (List.mem_cons_of_mem _ List.mem_cons_self)
  exact ⟨w, _, hnode, hunit, hvolume, hcreate, htended, hmanage, hheard, hremove, hremoveVolume,
    delete_restores hnode hunit hvolume hcreate htended hmanage hheard hremove hremoveVolume⟩

end Service

end FleetControl
