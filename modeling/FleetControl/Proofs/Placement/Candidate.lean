import FleetControl.Placement.Candidate

/-!
# What a candidate reports

A node has four amounts that workloads share (`Resource`). A candidate was found by checks that all
passed, and what it reports follows from them (`Candidate.Describes`): what is left of each amount, how
many cards the spec's claim could use, and the largest free memory on one card.
-/

namespace FleetControl

/-- **An amount of a node** that workloads share. -/
inductive Resource where
  | cpuCores
  | memory
  | systemDisk
  | dataDisk
deriving DecidableEq, Repr

namespace Resource

def total (n : Node) : Resource → UInt64
  | cpuCores => n.cpuCores
  | memory => n.memoryGb
  | systemDisk => n.systemDiskGb
  | dataDisk => n.dataDiskGb

def used (u : Usage) : Resource → UInt64
  | cpuCores => u.cpuCores
  | memory => u.memoryGb
  | systemDisk => u.systemDiskGb
  | dataDisk => u.dataDiskGb

def asked (spec : Spec) : Resource → UInt64
  | cpuCores => spec.cpuCores
  | memory => spec.memoryGb
  | systemDisk => spec.systemDiskGb
  | dataDisk => spec.dataDiskGb

def available (c : Candidate) : Resource → UInt64
  | cpuCores => c.availableCpu
  | memory => c.availableMemoryGb
  | systemDisk => c.availableSystemDiskGb
  | dataDisk => c.availableDataDiskGb

end Resource

namespace Candidate

variable {n : Node} {u : Usage} {spec : Spec} {isPartitioned : Bool} {pick : Strategy} {c : Candidate}

/-- What is left of an amount covers what is asked for where both together are within it. On the left nothing is
added, and so nothing can overflow; on the right the numbers are exact. -/
theorem rest_covers_iff {total used required : UInt64} :
    used ≤ total ∧ required ≤ total - used ↔ used.toNat + required.toNat ≤ total.toNat := by
  constructor
  · rintro ⟨hle, hreq⟩
    have hsub := UInt64.toNat_sub_of_le _ _ hle
    rw [UInt64.le_iff_toNat_le] at hle hreq
    omega
  · intro hsum
    have hle : used ≤ total := UInt64.le_iff_toNat_le.mpr (by omega)
    have hsub := UInt64.toNat_sub_of_le _ _ hle
    exact ⟨hle, UInt64.le_iff_toNat_le.mpr (by omega)⟩

/-- **The check of one amount** passes exactly where what is in use and what is asked for are within the node's
total together, and then it gives the rest before the placement, not after it. -/
theorem remaining_eq_some_iff {total used required free : UInt64} :
    remaining total used required = some free ↔
      used.toNat + required.toNat ≤ total.toNat ∧ total - used = free := by
  unfold remaining
  split
  · rename_i hfits
    rw [Option.some_inj, and_iff_right (rest_covers_iff.mp hfits)]
  · rename_i hfits
    exact iff_of_false nofun fun h => hfits (rest_covers_iff.mpr h.1)

/-- **A candidate describes a node for a spec**, on top of what is committed there. -/
structure Describes (n : Node) (u : Usage) (spec : Spec) (isPartitioned : Bool) (pick : Strategy)
    (c : Candidate) : Prop where
  nodeId : c.nodeId = n.id
  model : modelFits n spec = true
  amounts : ∀ r : Resource, (r.used u).toNat + (r.asked spec).toNat ≤ (r.total n).toNat ∧
    r.available c = r.total n - r.used u
  cards : ∃ usable, cardsFor u.cards spec isPartitioned n.perCardGb pick = some usable ∧
    c.availableGpus = UInt64.ofNat usable
  gpuMemory : c.availableGpuMemoryGb = if u.cards.cardCount = 0 then n.perCardGb else u.cards.maxHeadroom

/-- **A candidate that was found describes its node**: the four amounts suffice, the cards are those that were
counted for the claim, and the figures are the rests as they were when the node was looked at. -/
theorem describes_of (h : of? n u spec isPartitioned pick = some c) :
    c.Describes n u spec isPartitioned pick := by
  unfold of? at h
  split at h
  · cases h
  · rename_i hmodel
    obtain ⟨cpu, hcpu, h⟩ := Option.bind_eq_some_iff.mp h
    obtain ⟨memory, hmemory, h⟩ := Option.bind_eq_some_iff.mp h
    obtain ⟨system, hsystem, h⟩ := Option.bind_eq_some_iff.mp h
    obtain ⟨data, hdata, h⟩ := Option.bind_eq_some_iff.mp h
    obtain ⟨usable, husable, h⟩ := Option.bind_eq_some_iff.mp h
    obtain rfl := Option.some.inj h
    refine ⟨rfl, by simpa using hmodel, fun r => ?_, ⟨usable, husable, rfl⟩, rfl⟩
    cases r with
    | cpuCores => exact (remaining_eq_some_iff.mp hcpu).imp_right Eq.symm
    | memory => exact (remaining_eq_some_iff.mp hmemory).imp_right Eq.symm
    | systemDisk => exact (remaining_eq_some_iff.mp hsystem).imp_right Eq.symm
    | dataDisk => exact (remaining_eq_some_iff.mp hdata).imp_right Eq.symm

end Candidate

end FleetControl
