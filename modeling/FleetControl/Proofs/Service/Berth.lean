import FleetControl.Proofs.Fleet.Upkeep
import FleetControl.Proofs.Service.Estate
import FleetControl.Proofs.Service.Writes

/-!
# Berths in the records

What the records say of units depends on three writes (`Store.berth?_place`): a row that is put has its
berth, and no other row's changes. So neither a new workload without a unit, nor a status, nor what a
probe found of a node changes a berth, and a removal takes one away.
-/

namespace FleetControl

namespace Store

variable {s s' s'' : Store} {w w' : Workload} {id : RecordId}

/-- Where the unit of a workload is, if it has one. -/
def berthOf (s : Store) (w : Workload) : Option Berth :=
  w.unit?.map fun unit => ⟨(s.nodes.find? w.nodeId).map Node.engineAddress, unit, w.containerName⟩

/-- **Where the unit of a live workload is.** -/
def berth? (s : Store) (id : RecordId) : Option Berth := (s.workloads.find? id).bind s.berthOf

theorem berth?_of_find? (h : s.workloads.find? id = some w) : s.berth? id = s.berthOf w := by
  rw [berth?, h]
  rfl

theorem berthOf_of_none (h : w.unit? = none) : s.berthOf w = none := by
  rw [berthOf, h]
  rfl

theorem berthOf_of_some {unit : String} (h : w.unit? = some unit) :
    s.berthOf w = some ⟨(s.nodes.find? w.nodeId).map Node.engineAddress, unit, w.containerName⟩ := by
  rw [berthOf, h]
  rfl

/-- The identifiers that were given to workloads. -/
def known (s : Store) : Set RecordId := {id | ∃ w ∈ s.workloads.rows, w.id = id}

/-- **The records say of units what they said.** -/
structure SameBerths (s s' : Store) : Prop where
  berth? : s'.berth? = s.berth?
  known : s'.known = s.known

instance : IsPreorder Store SameBerths where
  refl _ := ⟨rfl, rfl⟩
  trans _ _ _ h h' := ⟨h'.berth?.trans h.berth?, h'.known.trans h.known⟩

/-- **A row that is put has its berth**, if it is live, and no other row's changes: the berths follow from the
rows one by one, as long as the nodes stay. -/
theorem berth?_place (hnodes : s'.nodes = s.nodes)
    (hrows : s'.workloads.rows = Record.place w s.workloads.rows) :
    s'.berth? = Function.update s.berth? w.id (if Record.isLive w then s.berthOf w else none) := by
  have hberthOf : s'.berthOf = s.berthOf := by
    funext w
    unfold berthOf
    rw [hnodes]
  have hfind : ∀ k, s'.workloads.find? k = (s.workloads.put w).find? k := by
    intro k
    unfold Repository.find? Repository.row?
    rw [hrows]
    rfl
  funext k
  unfold berth?
  rw [hfind, Repository.find?_put, hberthOf, Function.update_apply]
  by_cases hk : k = w.id
  · have hid : k = Record.id w := hk
    rw [if_pos hid, if_pos hk]
    split <;> rfl
  · have hid : k ≠ Record.id w := hk
    rw [if_neg hid, if_neg hk]

theorem known_of_place (hrows : s'.workloads.rows = Record.place w s.workloads.rows) :
    s'.known = insert w.id s.known := by
  ext k
  constructor
  · rintro ⟨u, hu, rfl⟩
    rw [hrows] at hu
    rcases Record.mem_place hu with rfl | hu
    · exact Set.mem_insert _ _
    · exact Set.mem_insert_of_mem _ ⟨u, hu, rfl⟩
  · intro hk
    by_cases hid : k = w.id
    · exact ⟨w, hrows ▸ Record.mem_place_self _ _, hid.symm⟩
    · obtain ⟨u, hu, rfl⟩ := hk.resolve_left hid
      exact ⟨u, hrows ▸ (Record.mem_place_of_ne hid).mpr hu, rfl⟩

theorem SameRows.sameBerths (h : s.SameRows s') : s.SameBerths s' where
  berth? := by
    funext k
    unfold Store.berth? berthOf Repository.find? Repository.row?
    rw [h.rows, h.nodes]
  known := by
    unfold Store.known
    rw [h.rows]

/-- The identifier of a live workload is known. -/
theorem mem_known (h : s.workloads.find? id = some w) : id ∈ s.known := by
  obtain ⟨hmem, hid, _⟩ := Repository.find?_eq_some_iff.mp h
  exact ⟨w, hmem, hid⟩

/-- A workload that is not known has no unit, since only rows that stand in the records have berths. -/
theorem berth?_eq_none (h : id ∉ s.known) : s.berth? id = none := by
  unfold berth?
  cases hfind : s.workloads.find? id with
  | none => rfl
  | some w => exact absurd (mem_known hfind) h

/-- A live row is put again with the same unit, on the same node; what else of it is new is no matter here. -/
theorem sameBerths_put (hfind : s.workloads.find? w'.id = some w) (hlive : Record.isLive w' = true)
    (hberth : s.berthOf w' = s.berthOf w) :
    s.SameBerths { s with workloads := s.workloads.put w' } where
  berth? := by
    have hself : s.berthOf w' = s.berth? w'.id := hberth.trans (berth?_of_find? hfind).symm
    have hplace : Store.berth? { s with workloads := s.workloads.put w' } = _ := berth?_place (s := s) rfl rfl
    rw [hplace, if_pos hlive, hself, Function.update_eq_self]
  known := by
    have hplace : Store.known { s with workloads := s.workloads.put w' } = _ := known_of_place (s := s) rfl
    rw [hplace, Set.insert_eq_of_mem (mem_known hfind)]

end Store

namespace Service

open Store (SameBerths)

variable {s s' : Store} {w : Workload} {id : RecordId}

/-- Statuses and what probes find of nodes say nothing of where units are. -/
theorem bears_sameBerths : Bears SameBerths where
  status := by
    intro s w status now hfind _ _
    have hlive : Record.isLive (Record.touch now { w with status := status }) = true :=
      (Repository.find?_eq_some_iff.mp hfind).2.2
    exact Store.sameBerths_put hfind hlive rfl
  connectivity := by
    intro s n now c hfind
    have hlive : Record.isLive n = true := (Repository.find?_eq_some_iff.mp hfind).2.2
    refine ⟨?_, rfl⟩
    have haddress : ∀ k, ((s.nodes.put (Record.touch now { n with connectivity := c })).find? k).map
        Node.engineAddress = (s.nodes.find? k).map Node.engineAddress := by
      intro k
      rw [Repository.find?_put]
      split
      · rename_i hk
        have hk : k = n.id := hk
        have hlive' : Record.isLive (Record.touch now { n with connectivity := c }) = true := hlive
        rw [if_pos hlive', hk, hfind]
        rfl
      · rfl
    funext k
    unfold Store.berth? Store.berthOf
    simp only [haddress]

/-- **A removal takes a berth away**, that of its workload, in the second of its two writes; the first leaves the
workload live, and so its berth. -/
theorem berth?_removal (now later : Time.Instant) (hfind : s.workloads.find? id = some w) :
    ({ s with workloads := s.workloads.put (Record.markDeleted later (marked now w)) } : Store).berth? =
      Function.update s.berth? id none ∧
    ({ s with workloads := s.workloads.put (Record.markDeleted later (marked now w)) } : Store).known =
      s.known := by
  obtain ⟨_, rfl, _⟩ := Repository.find?_eq_some_iff.mp hfind
  refine ⟨Store.berth?_place (w := Record.markDeleted later (marked now w)) rfl rfl, ?_⟩
  refine (Store.known_of_place (w := Record.markDeleted later (marked now w)) rfl).trans ?_
  exact Set.insert_eq_of_mem (Store.mem_known hfind)

end Service

/-- **What the records say of units, and what the engines hold.** -/
def Fleet.estate (fl : Fleet) : Estate := ⟨fl.store.berth?, fl.store.known, fl.stock⟩

/-- Where neither records nor stocks say otherwise the estate is as it was, to which all calls but orders and
removals come down. -/
theorem Fleet.Spared.estate {fl fl' : Fleet} (h : fl.Spared fl') (hs : fl.store.SameBerths fl'.store) :
    fl'.estate = fl.estate := by
  unfold Fleet.estate
  rw [hs.berth?, hs.known, h.stock]

end FleetControl
