import FleetControl.Telemetry.Stats

/-!
# The cache of statistics

A sample is kept for a while under the engine's address and the unit. Stale samples are not given
out, and are thrown away when another sample comes in.
-/

namespace FleetControl.Telemetry

/-- A sample and when it was kept, by the steady clock. -/
structure Kept where
  stats : Stats
  since : Nat
deriving Repr, Inhabited

/-- **Kept samples by key**, each for a time of `ttl`. -/
structure Cache where
  ttl : Nat
  entries : List (String × Kept) := []
deriving Repr, Inhabited

namespace Cache

/-- The key of a unit on an engine. -/
def key (address unit : String) : String := address ++ "|" ++ unit

/-- A sample is fresh as long as it is younger than `ttl`. -/
def isFresh (c : Cache) (now : Nat) (k : Kept) : Bool := now - k.since < c.ttl

/-- **The sample of a key**, if it is fresh. -/
def get? (c : Cache) (now : Nat) (k : String) : Option Stats :=
  ((c.entries.lookup k).filter (c.isFresh now)).map (·.stats)

/-- **Keep a sample**, and throw stale ones away. -/
def insert (c : Cache) (now : Nat) (k : String) (s : Stats) : Cache :=
  let fresh := c.entries.filter fun (k', e) => c.isFresh now e && k' != k
  { c with entries := fresh ++ [(k, ⟨s, now⟩)] }

end Cache

end FleetControl.Telemetry
