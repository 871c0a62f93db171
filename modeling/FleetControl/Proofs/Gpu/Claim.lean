import FleetControl.Gpu.Claim

/-!
# What a request claims

A request makes no claim, one for whole cards, or one for slices. Each of the three is told from the
request by one condition, and a claim is always for the cards that were asked for (`cards_of?`).
-/

namespace FleetControl.Claim

variable {cards memoryGb perCardGb k slice : UInt64} {isPartitioned : Bool} {c : Claim}

/-- **No claim is made exactly where no card is asked for**, whatever memory is. -/
theorem of?_eq_none_iff : of? cards memoryGb isPartitioned perCardGb = none ↔ cards = 0 := by
  unfold of?
  split
  · rename_i hzero
    exact iff_of_true rfl hzero
  · rename_i hzero
    refine iff_of_false ?_ hzero
    dsimp only
    split <;> exact nofun

/-- **A claim for slices** is made where the request may be split, at least a gigabyte falls to each card, and the
capacity of a card is known; the slice is the memory divided by the cards, rounded down. -/
theorem of?_eq_partitioned_iff : of? cards memoryGb isPartitioned perCardGb = some (.partitioned k slice) ↔
    (k = cards ∧ slice = memoryGb / cards) ∧ isPartitioned = true ∧ 0 < memoryGb / cards ∧ 0 < perCardGb := by
  unfold of?
  split
  · rename_i hzero
    refine iff_of_false nofun fun h => ?_
    have hslice : 0 < memoryGb / cards := h.2.2.1
    rw [hzero, UInt64.div_zero] at hslice
    exact absurd hslice (by decide)
  · dsimp only
    split
    · rename_i hslice
      rw [and_iff_left hslice, Option.some_inj, partitioned.injEq]
      exact and_congr eq_comm eq_comm
    · rename_i hslice
      exact iff_of_false nofun fun h => hslice h.2

/-- **A claim for whole cards** is made wherever cards are asked for and slices are not to be had. -/
theorem of?_eq_whole_iff : of? cards memoryGb isPartitioned perCardGb = some (.whole k) ↔
    k = cards ∧ cards ≠ 0 ∧ ¬ (isPartitioned = true ∧ 0 < memoryGb / cards ∧ 0 < perCardGb) := by
  unfold of?
  split
  · rename_i hzero
    exact iff_of_false nofun fun h => h.2.1 hzero
  · rename_i hzero
    dsimp only
    split
    · rename_i hslice
      exact iff_of_false nofun fun h => h.2.2 hslice
    · rename_i hslice
      rw [and_iff_left ⟨hzero, hslice⟩, Option.some_inj, whole.injEq]
      exact eq_comm

/-- A request that may be split, on cards of known capacity, is for whole cards only where there is less than
a gigabyte for each: as much memory as cards makes a slice. -/
theorem memoryGb_lt_of_whole (h : of? cards memoryGb isPartitioned perCardGb = some (.whole k))
    (hsplit : isPartitioned = true) (hper : 0 < perCardGb) : memoryGb < cards := by
  obtain ⟨_, hne, hslice⟩ := of?_eq_whole_iff.mp h
  refine UInt64.not_le.mp fun hle => hslice ⟨hsplit, ?_, hper⟩
  rw [UInt64.le_iff_toNat_le] at hle
  rw [UInt64.lt_iff_toNat_lt, UInt64.toNat_div]
  exact Nat.div_pos hle (Nat.pos_of_ne_zero fun hzero => hne (UInt64.toNat_inj.mp hzero))

/-- **A claim is for as many cards as were asked for**, whichever kind it is. -/
theorem cards_of? (h : of? cards memoryGb isPartitioned perCardGb = some c) : c.cards = cards := by
  cases c with
  | whole k => exact (of?_eq_whole_iff.mp h).1
  | partitioned k slice => exact (of?_eq_partitioned_iff.mp h).1.1

end FleetControl.Claim
