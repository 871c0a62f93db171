import FleetControl.Number.Checked

/-!
# When there is a product

A checked product is the exact one (`mulSigned?_eq_some_iff`, `mulUnsigned?_eq_some_iff`), and there is one
exactly where the exact product is within the range (`exists_mulSigned?_iff`, `exists_mulUnsigned?_iff`). So
what is known of the exact product is known of whatever the program goes on with.
-/

namespace FleetControl.Number

/-- **A checked product with a sign is the exact one.** The range need not be mentioned: an exact product that
some number of 64 bits equals is within it. -/
theorem mulSigned?_eq_some_iff {a b c : Int64} : mulSigned? a b = some c ↔ c.toInt = a.toInt * b.toInt := by
  unfold mulSigned?
  dsimp only
  constructor
  · intro h
    split at h
    · rename_i hfits
      have hmin : Int64.minValue.toInt = -2 ^ 63 := by decide
      have hmax : Int64.maxValue.toInt = 2 ^ 63 - 1 := by decide
      rw [← Option.some.inj h, Int64.toInt_ofInt_of_le (by omega) (by omega)]
    · cases h
  · intro h
    rw [← h, if_pos ⟨Int64.le_toInt c, Int64.toInt_le c⟩, Int64.ofInt_toInt]

/-- **There is a product with a sign exactly where the exact one is within the range.** -/
theorem exists_mulSigned?_iff {a b : Int64} : (∃ c, mulSigned? a b = some c) ↔
    Int64.minValue.toInt ≤ a.toInt * b.toInt ∧ a.toInt * b.toInt ≤ Int64.maxValue.toInt := by
  unfold mulSigned?
  dsimp only
  split
  · rename_i hfits
    exact iff_of_true ⟨_, rfl⟩ hfits
  · rename_i hfits
    exact iff_of_false (fun ⟨_, h⟩ => nomatch h) hfits

/-- **A checked product without a sign is the exact one**, as it is with a sign. -/
theorem mulUnsigned?_eq_some_iff {a b c : UInt64} :
    mulUnsigned? a b = some c ↔ c.toNat = a.toNat * b.toNat := by
  unfold mulUnsigned?
  dsimp only
  constructor
  · intro h
    split at h
    · rename_i hfits
      rw [← Option.some.inj h, UInt64.toNat_ofNat_of_lt' hfits]
    · cases h
  · intro h
    rw [← h, if_pos c.toNat_lt_size, UInt64.ofNat_toNat]

/-- **There is a product without a sign exactly where the exact one is within the range**, whose other end is
zero. -/
theorem exists_mulUnsigned?_iff {a b : UInt64} :
    (∃ c, mulUnsigned? a b = some c) ↔ a.toNat * b.toNat < UInt64.size := by
  unfold mulUnsigned?
  dsimp only
  split
  · rename_i hfits
    exact iff_of_true ⟨_, rfl⟩ hfits
  · rename_i hfits
    exact iff_of_false (fun ⟨_, h⟩ => nomatch h) hfits

end FleetControl.Number
