import FleetControl.Proofs.Placement.Feasible
import FleetControl.Proofs.Service.Placement

/-!
# Candidates of other records and other queries

**One workload more makes no candidate** (`candidates_storing`). A record that is created under the next
identifier is replayed last, so what was committed on each node stays committed as it was: every
candidate that is left was one before, and none has more to offer. Removing a workload is another
matter, since the claims after it are packed anew.

**Naming an image is not always a narrowing** (`candidates_without_image_iff`). Without an image a spec
that can be split is asked for slices, whatever image will be run; an image that cannot be split asks
for whole cards. A node whose cards are smaller than the slice is a candidate with that image, and is
none without one.
-/

namespace FleetControl

/-- The records after a workload's record was created. -/
def Store.storing (now : Time.Instant) (w : Workload) (s : Store) : Store :=
  { s with workloads := (s.workloads.create now w).2 }

namespace Store

variable {s : Store} {w : Workload} {now : Time.Instant} {pick : Strategy} {n : Node} {spec : Spec}
  {image : Image} {c : Candidate}

/-- A record that is created without an identifier is one workload more, under the next identifier. -/
theorem gains_storing (now : Time.Instant) (hfresh : s.workloads.Fresh) (hid : w.id = 0) :
    s.Gains (Record.stampCreated now { w with id := s.workloads.nextId }) (s.storing now w) := by
  have hnew : ∀ v ∈ s.workloads.rows, Record.id v ≠ s.workloads.nextId := fun v hv =>
    UInt64.ne_of_lt (hfresh v hv)
  refine ⟨rfl, rfl, rfl, rfl, hnew, ?_⟩
  rcases Repository.create_cases now s.workloads (a := w) hid with ⟨_, herr, _⟩ | ⟨_, _, hrows⟩
  · have hrow : s.workloads.row? s.workloads.nextId = none := by
      refine List.find?_eq_none.mpr fun v hv => ?_
      rw [beq_iff_eq]
      exact hnew v hv
    have hassign : Repository.assign s.workloads.nextId w =
        (s.workloads.nextId, s.workloads.nextId + 1) := if_pos hid
    simp only [Repository.create, hassign, hrow, reduceCtorEq] at herr
  · exact hrows

/-- **One workload more makes no candidate**, and leaves none with more to offer. -/
theorem candidates_storing (hfresh : s.workloads.Fresh) (hid : w.id = 0)
    (hsum : ∀ n ∈ s.listedNodes, ∀ r, (s.storing now w).demand r n < 2 ^ 64) (spec : Spec)
    (image : Option Image) :
    ∀ c' ∈ (s.storing now w).candidates Ledger.packFirst spec image,
      ∃ c ∈ s.candidates Ledger.packFirst spec image, c'.AtMost c := by
  intro c' hc'
  obtain ⟨n, hn, htakes⟩ := mem_candidates.mp hc'
  have hn : n ∈ s.listedNodes := hn
  have hgains := gains_storing now hfresh hid
  have hlight : (s.usage Ledger.packFirst n).Lighter ((s.storing now w).usage Ledger.packFirst n) := by
    cases hf : (Record.stampCreated now { w with id := s.workloads.nextId } : Workload).footprint? with
    | none =>
      rw [usage_congr hgains.catalog (hgains.footprints_of_none hf)]
      exact ⟨fun _ => UInt64.le_refl _, .refl _⟩
    | some f =>
      exact usage_lighter Ledger.packFirst_sound hgains.catalog (hgains.footprints_of_fresh hfresh hf)
        (hsum n hn)
  have hcount : (s.usage Ledger.packFirst n).cards.cardCount < UInt64.size := by
    rw [cardCount_usage]
    exact n.gpuCount.toNat_lt
  obtain ⟨c, hc, hle⟩ := Candidate.of?_of_lighter Ledger.packFirst_sound Ledger.packFirst_eager hlight
    hcount htakes
  exact ⟨c, mem_candidates.mpr ⟨n, hn, hc⟩, hle⟩

/-! ## Queries that name an image -/

/-- **A candidate with an image is one without an image, unless the image cannot be split, the spec can,
and its slice is larger than the cards of the node.** -/
theorem candidates_without_image_iff (hc : c ∈ s.candidates Ledger.packFirst spec (some image)) :
    (∃ c' ∈ s.candidates Ledger.packFirst spec none, c'.nodeId = c.nodeId) ↔
      ¬ (spec.supportsSplit = true ∧ image.supportsSplit = false ∧
        ∃ n, s.nodes.find? c.nodeId = some n ∧ 0 < n.perCardGb ∧
          n.perCardGb < spec.gpuMemoryGb / spec.gpuCount) := by
  obtain ⟨n, hn, htakes⟩ := mem_candidates.mp hc
  have hid : c.nodeId = n.id := (Candidate.describes_of htakes).nodeId
  have hfind : s.nodes.find? c.nodeId = some n := hid ▸ (mem_listedNodes.mp hn).1
  have hper := perCardGb_usage s Ledger.packFirst n
  have hsound := Ledger.packFirst_sound
  have heager := Ledger.packFirst_eager
  rw [hid, exists_candidate_iff hn, ← hid]
  by_cases hsplit : spec.supportsSplit = true ∧ image.supportsSplit = false
  -- the request is for whole cards with the image, and for slices without it
  · obtain ⟨hspec, himage⟩ := hsplit
    have hwith : spec.partitions (some image) = false := by simp [Spec.partitions, himage]
    have hwithout : spec.partitions none = true := by simp [Spec.partitions, hspec]
    have hslice : (∃ n, s.nodes.find? c.nodeId = some n ∧ 0 < n.perCardGb ∧
        n.perCardGb < spec.gpuMemoryGb / spec.gpuCount) ↔
          0 < n.perCardGb ∧ n.perCardGb < spec.gpuMemoryGb / spec.gpuCount := by
      rw [hfind]
      simp
    obtain ⟨hmodel, hamounts, hwhole⟩ := (Candidate.isSome_of?_iff hsound heager).mp ⟨c, htakes⟩
    rw [hwith, ← hper] at hwhole
    have hiff := Candidate.forall_enough_iff hwhole
    rw [hper] at hiff
    rw [hslice, and_iff_right hspec, and_iff_right himage, ← hiff, takes?,
      Candidate.isSome_of?_iff hsound heager, hwithout, and_iff_right hmodel, and_iff_right hamounts]
  -- the request is the same with the image and without it
  · have hflag : spec.partitions none = spec.partitions (some image) := by
      unfold Spec.partitions
      cases hspec : spec.supportsSplit with
      | false => rfl
      | true =>
        have himage : image.supportsSplit = true := by simpa [hspec] using hsplit
        simp [himage]
    refine iff_of_true ⟨c, ?_⟩ fun h => hsplit ⟨h.1, h.2.1⟩
    rw [takes?, hflag]
    exact htakes

end Store

namespace Service

/-- A workload of one gigabyte, yet to be stored. -/
def smallWorkload : Workload := { Workload.blank with imageId := 1, specId := 1, nodeId := 1, ownerId := 1 }

/-- On the small records the node stays a candidate beside a workload of one gigabyte. -/
theorem candidates_storing_small : smallStore.workloads.Fresh ∧ smallWorkload.id = 0 ∧
    (∀ n ∈ smallStore.listedNodes, ∀ r, (smallStore.storing .epoch smallWorkload).demand r n < 2 ^ 64) ∧
    ∃ c' ∈ (smallStore.storing .epoch smallWorkload).candidates Ledger.packFirst (smallSpec 3 2 2) none,
      ∃ c ∈ smallStore.candidates Ledger.packFirst (smallSpec 3 2 2) none, c'.AtMost c := by
  have hfresh : smallStore.workloads.Fresh := fun _ hw => absurd hw List.not_mem_nil
  have hsum : ∀ n ∈ smallStore.listedNodes, ∀ r,
      (smallStore.storing .epoch smallWorkload).demand r n < 2 ^ 64 := by
    intro n hn r
    have hrow : n ∈ [smallNode] := (Repository.find?_eq_some_iff.mp (Store.mem_listedNodes.mp hn).1).1
    obtain rfl := List.mem_singleton.mp hrow
    cases r <;> decide +kernel
  have hids : ((smallStore.storing .epoch smallWorkload).candidates Ledger.packFirst
      (smallSpec 3 2 2) none).map (·.nodeId) = [1] := by
    rw [Store.candidates_eq]
    decide +kernel
  obtain ⟨c', hc', _⟩ := List.exists_of_mem_map (hids ▸ List.mem_singleton_self (1 : RecordId))
  exact ⟨hfresh, rfl, hsum, c', hc', Store.candidates_storing hfresh rfl hsum _ _ c' hc'⟩

/-- On the small records the node is a candidate for two gigabytes with the image and without it. -/
theorem candidates_without_image_small :
    ∃ c ∈ smallStore.candidates Ledger.packFirst (smallSpec 2 1 2) (some smallImage),
      ∃ c' ∈ smallStore.candidates Ledger.packFirst (smallSpec 2 1 2) none, c'.nodeId = c.nodeId := by
  have hids : (smallStore.candidates Ledger.packFirst (smallSpec 2 1 2) (some smallImage)).map
      (·.nodeId) = [1] := by
    rw [Store.candidates_eq]
    decide +kernel
  obtain ⟨c, hc, _⟩ := List.exists_of_mem_map (hids ▸ List.mem_singleton_self (1 : RecordId))
  refine ⟨c, hc, (Store.candidates_without_image_iff hc).mpr ?_⟩
  rintro ⟨_, himage, _⟩
  cases himage

/-- An image that cannot be split. -/
def plainImage : Image := { smallImage with supportsSplit := false }

/-- The small node, a spec of four gigabytes on one card, and an image that cannot be split. -/
def plainStore : Store where
  nodes := smallStore.nodes
  specs := ⟨[smallSpec 1 1 4], 2, List.pairwise_singleton _ _⟩
  images := ⟨[plainImage], 2, List.pairwise_singleton _ _⟩
  workloads := .empty

/-- **With the image the node is a candidate, and without an image there is none.** -/
theorem image_widens : plainStore.specs.find? 1 = some (smallSpec 1 1 4) ∧
    plainStore.images.find? 1 = some plainImage ∧
    ∃ c ∈ plainStore.candidates Ledger.packFirst (smallSpec 1 1 4) (some plainImage),
      ∀ c' ∈ plainStore.candidates Ledger.packFirst (smallSpec 1 1 4) none, c'.nodeId ≠ c.nodeId := by
  have hids : (plainStore.candidates Ledger.packFirst (smallSpec 1 1 4) (some plainImage)).map
      (·.nodeId) = [1] := by
    rw [Store.candidates_eq]
    decide +kernel
  have hnone : (plainStore.candidates Ledger.packFirst (smallSpec 1 1 4) none).map (·.nodeId) = [] := by
    rw [Store.candidates_eq]
    decide +kernel
  obtain ⟨c, hc, _⟩ := List.exists_of_mem_map (hids ▸ List.mem_singleton_self (1 : RecordId))
  refine ⟨rfl, rfl, c, hc, fun c' hc' => ?_⟩
  rw [List.map_eq_nil_iff.mp hnone] at hc'
  exact absurd hc' List.not_mem_nil

end Service

end FleetControl
