/-!
# Products that must fit

Two numbers of 64 bits have a product that may need more of them. Here there is a product only where it
fits into 64 bits again, with a sign or without.
-/

namespace FleetControl.Number

/-- **The product of two numbers with a sign**, if it fits. -/
def mulSigned? (a b : Int64) : Option Int64 :=
  let product := a.toInt * b.toInt
  if Int64.minValue.toInt ≤ product ∧ product ≤ Int64.maxValue.toInt then some (.ofInt product) else none

/-- **The product of two numbers without a sign**, if it fits. -/
def mulUnsigned? (a b : UInt64) : Option UInt64 :=
  let product := a.toNat * b.toNat
  if product < UInt64.size then some (.ofNat product) else none

end FleetControl.Number
