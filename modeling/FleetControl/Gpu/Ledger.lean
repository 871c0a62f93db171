import FleetControl.Gpu.Claim

/-!
# The ledger of a node's cards

A ledger keeps the memory committed on each card of a node. Which card the next part of a claim lands
on is for a `Strategy` to say; the ledger asks it card by card and commits what it answered. A claim
that is allocated lands in full or not at all; a claim that is replayed lands as far as it fits.
-/

namespace FleetControl

/-- **Memory committed on each card of a node.** -/
structure Ledger where
  /-- Capacity of one card. -/
  perCardGb : UInt64
  /-- Committed memory, card by card. -/
  usage : List UInt64
deriving Repr, DecidableEq, Inhabited

/-- **Which card the next part of a claim lands on**, given the cards chosen so far. -/
abbrev Strategy := Ledger → Claim → List Nat → Option Nat

namespace Ledger

/-- A ledger of untouched cards. -/
def untouched (cards perCardGb : UInt64) : Ledger := ⟨perCardGb, List.replicate cards.toNat 0⟩

/-- How many cards there are. -/
def cardCount (l : Ledger) : Nat := l.usage.length

/-- Free memory beside what is used. -/
def free (l : Ledger) (used : UInt64) : UInt64 := if used ≤ l.perCardGb then l.perCardGb - used else 0

/-- Free memory on a card; none on a card that does not exist. -/
def headroom (l : Ledger) (card : Nat) : UInt64 :=
  match l.usage[card]? with
  | none => 0
  | some used => l.free used

/-- A card with nothing committed. -/
def isUnused (l : Ledger) (card : Nat) : Bool := l.usage[card]? == some 0

/-- Memory committed on all cards together. -/
def totalUsed (l : Ledger) : UInt64 := l.usage.foldl (· + ·) 0

/-- How many cards have nothing committed. -/
def unusedCards (l : Ledger) : Nat := l.usage.countP (· == 0)

/-- How many cards have that much free. -/
def cardsWithHeadroom (l : Ledger) (sliceGb : UInt64) : Nat :=
  l.usage.countP fun used => sliceGb ≤ l.free used

/-- The largest free memory on one card. -/
def maxHeadroom (l : Ledger) : UInt64 := l.usage.foldl (fun m used => max m (l.free used)) 0

/-- The cards a strategy picks, at most `n` after those already chosen. -/
def planFrom (l : Ledger) (pick : Strategy) (c : Claim) : Nat → List Nat → List Nat
  | 0, chosen => chosen
  | n + 1, chosen =>
    match pick l c chosen with
    | none => chosen
    | some card => planFrom l pick c n (chosen ++ [card])

/-- **The cards a claim would land on**, perhaps fewer than it asks for. -/
def plan (l : Ledger) (pick : Strategy) (c : Claim) : List Nat := l.planFrom pick c c.cards.toNat []

/-- What a card holds once its part of a claim is committed. -/
def filled (l : Ledger) (c : Claim) (used : UInt64) : UInt64 :=
  match c with
  | .whole _ => l.perCardGb
  | .partitioned _ slice => min (used + slice) l.perCardGb

/-- Commit a claim's part on one card; nothing happens on a card that does not exist. -/
def commitOne (c : Claim) (l : Ledger) (card : Nat) : Ledger :=
  { l with usage := l.usage.modify card (l.filled c) }

/-- Commit a claim on cards. -/
def commit (l : Ledger) (c : Claim) (cards : List Nat) : Ledger := cards.foldl (commitOne c) l

/-- **Place a claim if every card fits**; the ledger stays as it is otherwise. -/
def allocate (l : Ledger) (pick : Strategy) (c : Claim) : Option (List Nat) × Ledger :=
  let cards := l.plan pick c
  if cards.length < c.cards.toNat then (none, l) else (some cards, l.commit c cards)

/-- **Place as much of a claim as fits.** Records may describe more than a node holds; the excess is
dropped. -/
def replay (l : Ledger) (pick : Strategy) (c : Claim) : List Nat × Ledger :=
  let cards := l.plan pick c
  (cards, l.commit c cards)

end Ledger

end FleetControl
