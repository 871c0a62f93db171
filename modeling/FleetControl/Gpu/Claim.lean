import FleetControl.Record.Spec
import FleetControl.Record.Image

/-!
# Claims on GPU cards

A workload claims whole cards, or an equal slice of the memory of several distinct cards. Which of
the two it is follows from its spec, its image and the capacity of a card.
-/

namespace FleetControl

/-- **What a workload takes of a node's cards.** -/
inductive Claim where
  /-- Each card entirely. -/
  | whole (cards : UInt64)
  /-- A slice of memory on each of several distinct cards. -/
  | partitioned (cards sliceGb : UInt64)
deriving Repr, DecidableEq, Inhabited

namespace Claim

/-- **The claim of a request** for cards and memory over all of them; none when no card is asked for.
A slice must be positive and the capacity of a card known, or else whole cards are claimed. -/
def of? (cards memoryGb : UInt64) (isPartitioned : Bool) (perCardGb : UInt64) : Option Claim :=
  if cards = 0 then none
  else
    let slice := memoryGb / cards
    if isPartitioned ∧ 0 < slice ∧ 0 < perCardGb then some (partitioned cards slice)
    else some (whole cards)

/-- How many cards are claimed. -/
def cards : Claim → UInt64
  | whole n => n
  | partitioned n _ => n

end Claim

/-- Whether a workload of this spec and image shares its cards' memory; no image is no objection. -/
def Spec.partitions (s : Spec) (image : Option Image) : Bool :=
  s.supportsSplit && image.all (·.supportsSplit)

end FleetControl
