import FleetControl.Proofs.Placement.Decision

/-!
# What the reported GPU memory is good for

A candidate reports the largest free memory on one card. Where the node has a card that figure is exact: a
slice of that size can be allocated on one card, and no larger one (`allocate_slice_iff`). A node without cards
is reported with the capacity of a card all the same, which no claim can use (`unusable_headroom`). Those are
all the cases (`headroom_usable_iff`).
-/

namespace FleetControl

namespace Ledger

variable {l : Ledger} {pick : Strategy}

/-- One slice is allocated exactly where it fits a card, whichever card the strategy prefers. -/
theorem allocate_one_iff (hp : pick.Sound) (he : pick.Eager) (slice : UInt64) :
    (l.allocate pick (.partitioned 1 slice)).1.isSome = true ↔
      ∃ card < l.cardCount, slice ≤ l.headroom card := by
  rw [allocate_isSome_iff hp he, usableCards_eq]
  show 0 < (l.fitting (.partitioned 1 slice)).length ↔ _
  rw [List.length_pos_iff_exists_mem]
  exact exists_congr fun card => mem_fitting

/-- Where there is a card, one of them has the largest free memory. Without a card the largest is nothing, and no
card has it. -/
theorem le_maxHeadroom_iff (hcards : 0 < l.cardCount) {slice : UInt64} :
    slice ≤ l.maxHeadroom ↔ ∃ card < l.cardCount, slice ≤ l.headroom card := by
  constructor
  · intro hle
    by_contra hnone
    have hless : ∀ card < l.cardCount, (l.headroom card).toNat < slice.toNat := fun card hcard =>
      UInt64.lt_iff_toNat_lt.mp (UInt64.not_le.mp fun h => hnone ⟨card, hcard, h⟩)
    have hfirst := hless 0 hcards
    have hpred : (slice - 1).toNat = slice.toNat - 1 :=
      UInt64.toNat_sub_of_le _ _ (UInt64.le_iff_toNat_le.mpr (Nat.one_le_of_lt hfirst))
    -- no card has as much free as the slice, so the largest free memory is less
    have hmax : l.maxHeadroom ≤ slice - 1 := maxHeadroom_le_iff.mpr fun card hcard => by
      have hlt := hless card hcard
      rw [UInt64.le_iff_toNat_le, hpred]
      omega
    rw [UInt64.le_iff_toNat_le] at hle hmax
    omega
  · rintro ⟨card, hcard, hle⟩
    exact UInt64.le_trans hle (maxHeadroom_le_iff.mp (UInt64.le_refl _) card hcard)

/-- **The largest free memory on one card is the largest slice that can be allocated**, on a node that has a card
at all. -/
theorem allocate_slice_iff (hp : pick.Sound) (he : pick.Eager) (hcards : 0 < l.cardCount) (slice : UInt64) :
    (l.allocate pick (.partitioned 1 slice)).1.isSome = true ↔ slice ≤ l.maxHeadroom :=
  (allocate_one_iff hp he slice).trans (le_maxHeadroom_iff hcards).symm

end Ledger

namespace Usage

/-- **What some workloads come to on a node**, each of a spec and on shared cards or not. -/
def after (n : Node) (pick : Strategy) (placed : List (Spec × Bool)) : Usage :=
  placed.foldl (fun u w => u.add w.1 w.2 pick) (.untouched n)

/-- One more workload takes memory of cards, and no card. -/
theorem cardCount_add (u : Usage) (spec : Spec) (isPartitioned : Bool) (pick : Strategy) :
    (u.add spec isPartitioned pick).cards.cardCount = u.cards.cardCount := by
  unfold add claimed
  dsimp only
  split
  · rfl
  · exact Ledger.cardCount_replay u.cards pick _

/-- Workloads take memory of cards, and no card. -/
theorem cardCount_after (n : Node) (pick : Strategy) (placed : List (Spec × Bool)) :
    (after n pick placed).cards.cardCount = n.gpuCount.toNat := by
  have hfold : ∀ u : Usage, (placed.foldl (fun u w => u.add w.1 w.2 pick) u).cards.cardCount =
      u.cards.cardCount := by
    induction placed with
    | nil => exact fun _ => rfl
    | cons w rest ih => exact fun u => (ih _).trans (cardCount_add u w.1 w.2 pick)
  exact (hfold _).trans List.length_replicate

end Usage

namespace Candidate

variable {n : Node} {u : Usage} {spec : Spec} {isPartitioned : Bool} {pick place : Strategy}

/-- **Exactly when the GPU memory that is reported can be used**: what a candidate reports, if it is not
nothing, is the largest slice that can be allocated on one card, unless the node has no card and a capacity
of cards. What is placed on a node leaves it as many cards as it has. -/
theorem headroom_usable_iff (hp : place.Sound) (he : place.Eager) (n : Node) (u : Usage) (spec : Spec)
    (isPartitioned : Bool) (pick : Strategy) :
    ((∀ c, of? n u spec isPartitioned pick = some c → 0 < c.availableGpuMemoryGb → ∀ slice,
        (u.cards.allocate place (.partitioned 1 slice)).1.isSome = true ↔ slice ≤ c.availableGpuMemoryGb) ↔
      0 < u.cards.cardCount ∨ n.perCardGb = 0 ∨ of? n u spec isPartitioned pick = none) ∧
    ∀ (m : Node) (filler : Strategy) (placed : List (Spec × Bool)),
      (Usage.after m filler placed).cards.cardCount = m.gpuCount.toNat := by
  refine ⟨⟨fun husable => ?_, fun hcases c hc hpos slice => ?_⟩, Usage.cardCount_after⟩
  · by_contra hnone
    simp only [not_or, Nat.not_lt, Nat.le_zero] at hnone
    obtain ⟨hcards, hper, hfound⟩ := hnone
    obtain ⟨c, hc⟩ := Option.ne_none_iff_exists'.mp hfound
    have hreported : c.availableGpuMemoryGb = n.perCardGb := (describes_of hc).gpuMemory.trans (if_pos hcards)
    have hpos : 0 < c.availableGpuMemoryGb := hreported ▸ UInt64.pos_iff_ne_zero.mpr hper
    obtain ⟨card, hcard, _⟩ :=
      (Ledger.allocate_one_iff hp he _).mp ((husable c hc hpos _).mpr (UInt64.le_refl _))
    omega
  · have hcards : 0 < u.cards.cardCount := by
      rcases hcases with hcards | hper | hnone
      · exact hcards
      -- without a card the capacity of cards is reported, which is not nothing
      · refine Nat.pos_of_ne_zero fun hzero => ?_
        rw [(describes_of hc).gpuMemory, if_pos hzero, hper] at hpos
        exact absurd hpos (by decide)
      · rw [hnone] at hc
        cases hc
    rw [(describes_of hc).gpuMemory, if_neg hcards.ne']
    exact Ledger.allocate_slice_iff hp he hcards slice

/-- With 35 GB placed on one of two cards of 40 GB the other is reported, and is the most that a slice can be. -/
theorem headroom_usable_two_cards :
    let u := Usage.after twoCards Ledger.packFirst [(cardSpec 1 35, true)]
    (Strategy.Sound Ledger.lastFit ∧ Strategy.Eager Ledger.lastFit) ∧
    ∃ c, of? twoCards u (cardSpec 1 10) true Ledger.packFirst = some c ∧ c.availableGpuMemoryGb = 40 ∧
      (u.cards.allocate Ledger.lastFit (.partitioned 1 40)).1.isSome = true ∧
      ¬ (u.cards.allocate Ledger.lastFit (.partitioned 1 41)).1.isSome = true := by
  intro u
  have hfound : (of? twoCards u (cardSpec 1 10) true Ledger.packFirst).isSome = true := by decide +kernel
  obtain ⟨c, hc⟩ := Option.isSome_iff_exists.mp hfound
  obtain ⟨husable, hcount⟩ := headroom_usable_iff Ledger.lastFit_sound Ledger.lastFit_eager twoCards u
    (cardSpec 1 10) true Ledger.packFirst
  have hcards : 0 < u.cards.cardCount := by
    rw [hcount]
    decide
  have hreported : c.availableGpuMemoryGb = 40 :=
    (describes_of hc).gpuMemory.trans ((if_neg hcards.ne').trans (by decide +kernel))
  have hslice := husable.mpr (.inl hcards) c hc (by rw [hreported]; decide)
  refine ⟨⟨Ledger.lastFit_sound, Ledger.lastFit_eager⟩, c, hc, hreported, (hslice 40).mpr ?_, fun h => ?_⟩
  · rw [hreported]
    decide
  · have hle := (hslice 41).mp h
    rw [hreported] at hle
    exact absurd hle (by decide)

/-- A node without cards, for which a capacity of cards is on record. -/
def cardless : Node :=
  { Node.blank .epoch with cpuCores := 32, memoryGb := 256, gpuCount := 0, perCardGb := 40 }

/-- **Memory that is reported and cannot be used**: 40 GB on a node without cards. -/
theorem unusable_headroom : ∃ c,
    of? cardless (.after cardless Ledger.packFirst []) (cardSpec 0 0) false Ledger.packFirst = some c ∧
      0 < c.availableGpuMemoryGb ∧
      ((Usage.after cardless Ledger.packFirst []).cards.allocate Ledger.packFirst
        (.partitioned 1 c.availableGpuMemoryGb)).1 = none := by
  have hfound : (of? cardless (.after cardless Ledger.packFirst []) (cardSpec 0 0) false
      Ledger.packFirst).isSome = true := by
    decide +kernel
  obtain ⟨c, hc⟩ := Option.isSome_iff_exists.mp hfound
  have hreported : c.availableGpuMemoryGb = 40 := (describes_of hc).gpuMemory
  refine ⟨c, hc, ?_, ?_⟩
  · rw [hreported]
    decide
  · rw [hreported]
    decide +kernel

end Candidate

end FleetControl
