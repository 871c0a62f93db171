import FleetControl.Proofs.Service.Custody
import FleetControl.Proofs.Service.Placement

/-!
# Containers and volumes without a workload

Calls for persons are served one after another, on engines that may refuse to create and to start
containers, and nothing else that looks after units. Then no container is without its workload. A volume
is, exactly where an order was stranded: its engine made the data volume and then refused the container or
its start. The failed workload has no unit, so nothing ever removes its volume, not even the removal of
the workload (`no_orphans_iff`).

Between two calls engines may be set otherwise, the clock may move, and containers may stop.
-/

namespace FleetControl

namespace Engine

/-- What failures are set for: the key starts with the name of the call, alone or followed by what it is about. -/
theorem Concerns.starts {op key : String} (h : Concerns op key) : op.toList <+: key.toList := by
  rcases h with rfl | ⟨detail, rfl⟩
  · exact List.prefix_refl _
  · rw [String.append_assoc, String.toList_append]
    exact List.prefix_append _ _

end Engine

namespace Service

open Engine (volumeName)

variable {v : Service} {fl₀ fl : Fleet}

/-- **A call that was served**, and the fleet before it. -/
structure Handled where
  {α : Type}
  before : Fleet
  call : Call α

/-- **A run of calls for persons** from a fleet, each on engines that oblige; in between engines may be
set otherwise, as long as they hold what they held. -/
inductive Operated (v : Service) (fl₀ : Fleet) : List Handled → Fleet → Prop
  | start : Operated v fl₀ [] fl₀
  | meanwhile {steps : List Handled} {fl fl' : Fleet} (earlier : Operated v fl₀ steps fl)
      (store : fl'.store = fl.store) (stock : fl'.stock = fl.stock) : Operated v fl₀ steps fl'
  | call {steps : List Handled} {fl : Fleet} {α : Type} {c : Call α} (earlier : Operated v fl₀ steps fl)
      (obliging : fl.Obliging) (isPersonal : c.isPersonal = true) :
      Operated v fl₀ (steps ++ [⟨fl, c⟩]) ((c.job v).run.run fl).2

/-- **Along a run there is custody**, and volumes are left behind exactly where an order is stranded. -/
theorem Operated.custody (h₀ : fl₀.estate.Custody []) {steps : List Handled} (run : Operated v fl₀ steps fl) :
    ∃ left, fl.estate.Custody left ∧ (left = [] ↔ ∀ x ∈ steps, ¬ x.call.Strands v x.before) := by
  induction run with
  | start => exact ⟨[], h₀, iff_of_true rfl (List.forall_mem_nil _)⟩
  | meanwhile _ store stock ih =>
    obtain ⟨left, hcustody, hleft⟩ := ih
    refine ⟨left, ?_, hleft⟩
    unfold Fleet.estate
    rw [store, stock]
    exact hcustody
  | call _ obliging isPersonal ih =>
    obtain ⟨left, hcustody, hleft⟩ := ih
    obtain ⟨more, hcustody', hmore⟩ := custody_call obliging hcustody isPersonal
    refine ⟨left ++ more, hcustody', ?_⟩
    rw [List.append_eq_nil_iff, hleft, hmore, List.forall_mem_append, List.forall_mem_singleton]

/-- Without workloads, containers and volumes there is custody: nothing is anywhere, so nothing is astray. -/
theorem custody_of_empty (h₀ : ∀ id, fl₀.store.workloads.find? id = none)
    (hempty : ∀ a, (fl₀.engineAt a).containers = [] ∧ (fl₀.engineAt a).volumes = []) :
    fl₀.estate.Custody [] := by
  have hberth : ∀ id, fl₀.estate.berth? id = none := by
    intro id
    show (fl₀.store.workloads.find? id).bind _ = none
    rw [h₀]
    rfl
  have hunit : ∀ a unit, (fl₀.estate.stock a).unit? unit = none := by
    intro a unit
    show ((fl₀.engineAt a).containers.lookup unit).map _ = none
    rw [(hempty a).1]
    rfl
  have hvolumes : ∀ a, (fl₀.estate.stock a).volumes = [] := fun a => (hempty a).2
  constructor
  case orderly =>
    intro a
    refine ⟨?_, fun unit x hx => ?_⟩
    · rw [hvolumes]
      exact List.Pairwise.nil
    · cases (hunit a unit).symm.trans hx
  case named =>
    intro id b hb
    cases (hberth id).symm.trans hb
  case owned =>
    intro a unit x hx
    cases (hunit a unit).symm.trans hx
  case stowed =>
    intro a volume hvolume
    rw [hvolumes] at hvolume
    exact absurd hvolume List.not_mem_nil
  case behind => exact List.forall_mem_nil _

/-- **Each container is the unit of a live workload**, and each volume is the data volume of one exactly
as long as no order is stranded. -/
theorem no_orphans_iff (h₀ : ∀ id, fl₀.store.workloads.find? id = none)
    (hempty : ∀ a, (fl₀.engineAt a).containers = [] ∧ (fl₀.engineAt a).volumes = [])
    {steps : List Handled} (run : Operated v fl₀ steps fl) :
    (∀ a unit c, (fl.engineAt a).containers.lookup unit = some c →
      ∃ id, fl.store.berth? id = some ⟨some a, unit, some c.name⟩) ∧
    ((∀ a, ∀ volume ∈ (fl.engineAt a).volumes, ∃ id unit name,
      fl.store.berth? id = some ⟨some a, unit, some name⟩ ∧ volume = volumeName name) ↔
        ∀ x ∈ steps, ¬ x.call.Strands v x.before) := by
  obtain ⟨left, hcustody, hleft⟩ := run.custody (custody_of_empty h₀ hempty)
  refine ⟨fun a unit c hc => ?_, ?_⟩
  · have hunit : (fl.estate.stock a).unit? unit = some (c.name, c.body.volumes) := congrArg (Option.map _) hc
    exact (hcustody.owned a unit _ hunit).1
  rw [← hleft]
  constructor
  · intro howned
    refine List.eq_nil_iff_forall_not_mem.mpr fun y hy => ?_
    obtain ⟨hmem, id, requested, seconds, _, hnone, hvolume⟩ := hcustody.behind y hy
    obtain ⟨id', unit, name, hberth, hname⟩ := howned y.1 y.2 hmem
    obtain ⟨_, _, requested', seconds', hnamed⟩ := hcustody.named id' _ hberth
    -- the name of the volume gives its workload away, which has no unit
    rw [hvolume, Option.some.inj hnamed] at hname
    obtain rfl := Engine.volumeName_id hname
    cases hnone.symm.trans hberth
  · rintro rfl a volume hvolume
    rcases hcustody.stowed a volume hvolume with hleft | ⟨unit, x, hunit, hmem⟩
    · exact absurd hleft List.not_mem_nil
    · obtain ⟨⟨id, hberth⟩, hnames⟩ := hcustody.owned a unit x hunit
      exact ⟨id, unit, x.1, hberth, hnames volume hmem⟩

/-! ## One order with a data disk -/

/-- Records without workloads: a node with a data disk, and a spec that takes some of it. -/
def diskStore : Store where
  nodes := ⟨[{ smallNode with dataDiskGb := 10 }], 2, List.pairwise_singleton _ _⟩
  specs := ⟨[{ smallSpec 1 1 1 with dataDiskGb := 1 }], 2, List.pairwise_singleton _ _⟩
  images := smallStore.images
  workloads := .empty

/-- The records with a data disk, and engines that answer. -/
def diskFleet : Fleet := { smallFleet with store := diskStore }

/-- The records with a data disk, and an engine that refuses to create containers. -/
def refusingFleet : Fleet :=
  { diskFleet with
    engines := [("small", { address := "small", always := [("create_container", ⟨500, "no space left"⟩)] })] }

theorem obliging_disk : diskFleet.Obliging where
  heard := rfl
  obliges _ := ⟨rfl, fun _ _ => List.forall_mem_nil _, fun _ _ => List.forall_mem_nil _⟩

theorem engineAt_refusing (a : String) : refusingFleet.engineAt a = if a = "small" then
    { address := "small", always := [("create_container", ⟨500, "no space left"⟩)] } else { address := a } := by
  unfold Fleet.engineAt refusingFleet
  dsimp only
  rw [Engine.lookup_cons_if]
  split <;> rfl

theorem obliging_refusing : refusingFleet.Obliging where
  heard := rfl
  obliges a := by
    rw [engineAt_refusing]
    split
    · refine ⟨rfl, fun _ _ => List.forall_mem_nil _, fun op hop x hx hconcerns => ?_⟩
      obtain rfl := List.mem_singleton.mp hx
      have hnone : ∀ op ∈ Engine.upkeep, ¬ op.toList <+: "create_container".toList := by decide
      exact hnone op hop hconcerns.starts
    · exact ⟨rfl, fun _ _ => List.forall_mem_nil _, fun _ _ => List.forall_mem_nil _⟩

/-- A unit is made, and its data volume is kept. -/
theorem no_orphans_small : (∀ id, diskFleet.store.workloads.find? id = none) ∧
    (∀ a, (diskFleet.engineAt a).containers = [] ∧ (diskFleet.engineAt a).volumes = []) ∧
    ∃ fl, Operated smallService diskFleet [⟨diskFleet, .create admin (smallOrder 1)⟩] fl ∧
      (fl.engineAt "small").volumes = ["instance-1-1-0-data"] ∧
      ∀ a, ∀ volume ∈ (fl.engineAt a).volumes, ∃ id unit name,
        fl.store.berth? id = some ⟨some a, unit, some name⟩ ∧ volume = volumeName name := by
  have hnone : ∀ id, diskFleet.store.workloads.find? id = none := fun _ => rfl
  have hempty : ∀ a, (diskFleet.engineAt a).containers = [] ∧ (diskFleet.engineAt a).volumes = [] :=
    fun _ => ⟨rfl, rfl⟩
  have hfacts : (fun q : Except Halt Workload × Fleet => (q.1.isOk, (q.2.engineAt "small").volumes))
      ((create smallService admin (smallOrder 1)).run.run diskFleet) = (true, ["instance-1-1-0-data"]) := by
    decide +kernel
  obtain ⟨hok, hvolumes⟩ := Prod.mk.inj hfacts
  have hrun : Operated smallService diskFleet [⟨diskFleet, .create admin (smallOrder 1)⟩]
      ((create smallService admin (smallOrder 1)).run.run diskFleet).2 := .call .start obliging_disk rfl
  refine ⟨hnone, hempty, _, hrun, hvolumes, (no_orphans_iff hnone hempty hrun).2.mpr ?_⟩
  refine List.forall_mem_singleton.mpr ?_
  rintro ⟨_, _, _, stranded⟩
  obtain ⟨text, fails⟩ := stranded.fails
  rw [fails] at hok
  cases hok

/-- **An order leaves its volume behind**: the engine makes the data volume and refuses the container. -/
theorem order_leaves_volume : (∀ id, refusingFleet.store.workloads.find? id = none) ∧
    (∀ a, (refusingFleet.engineAt a).containers = [] ∧ (refusingFleet.engineAt a).volumes = []) ∧
    ∃ fl, Operated smallService refusingFleet [⟨refusingFleet, .create admin (smallOrder 1)⟩] fl ∧
      "instance-1-1-0-data" ∈ (fl.engineAt "small").volumes ∧ ∀ id, fl.store.berth? id = none := by
  have hfacts : (fun fl : Fleet =>
      ((fl.engineAt "small").volumes, fl.store.workloads.rows.all fun w => w.unit?.isNone))
      ((create smallService admin (smallOrder 1)).run.run refusingFleet).2 =
        (["instance-1-1-0-data"], true) := by
    decide +kernel
  obtain ⟨hvolumes, hunits⟩ := Prod.mk.inj hfacts
  have hrun : Operated smallService refusingFleet [⟨refusingFleet, .create admin (smallOrder 1)⟩]
      ((create smallService admin (smallOrder 1)).run.run refusingFleet).2 := .call .start obliging_refusing rfl
  refine ⟨fun _ => rfl, fun a => ?_, _, hrun, ?_, fun id => ?_⟩
  · rw [engineAt_refusing]
    split
    · exact ⟨rfl, rfl⟩
    · exact ⟨rfl, rfl⟩
  · exact hvolumes ▸ List.mem_singleton_self _
  · refine Option.bind_eq_none_iff.mpr fun w hw => ?_
    have hunit := List.all_eq_true.mp hunits w (Repository.find?_eq_some_iff.mp hw).1
    rw [Store.berthOf, Option.isNone_iff_eq_none.mp hunit]
    rfl

end Service

end FleetControl
