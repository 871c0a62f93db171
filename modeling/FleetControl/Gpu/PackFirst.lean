import FleetControl.Gpu.Ledger

/-!
# Packing slices first

`packFirst` fills partly used cards before it opens new ones. Of the partly used cards that fit, the
one with the least free memory wins, a tie going to the lower card. Whole cards are taken lowest
first.
-/

namespace FleetControl.Ledger

/-- Cards not chosen yet, in order. -/
def openCards (l : Ledger) (chosen : List Nat) : List Nat :=
  (List.range l.cardCount).filter fun card => !chosen.contains card

/-- Of cards in order, the first of those with the least free memory. -/
def tightest (l : Ledger) : List Nat → Option Nat
  | [] => none
  | card :: rest =>
    match tightest l rest with
    | none => some card
    | some other => if l.headroom other < l.headroom card then some other else some card

/-- **Pick a card the packing way.** -/
def packFirst : Strategy := fun l c chosen =>
  let cards := l.openCards chosen
  match c with
  | .whole _ => cards.find? l.isUnused
  | .partitioned _ slice =>
    let partly := cards.filter fun card => !l.isUnused card && slice ≤ l.headroom card
    (l.tightest partly).or
      (cards.find? fun card => l.isUnused card && slice ≤ l.perCardGb)

end FleetControl.Ledger
