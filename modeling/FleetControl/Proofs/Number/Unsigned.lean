import FleetControl.Number.Unsigned
import FleetControl.Proofs.Text.Blank

/-!
# Whole numbers are read back

A whole number in decimal digits is read back as itself, as long as it is in the range that the reader
allows (`unsigned?_repr`). Digits are no sign and no blank, so neither the sign nor trimming gets in the way.
-/

namespace FleetControl.Number

variable {n : Nat} {c : Char}

/-- A whole number is written in digits. -/
theorem isDigit_of_mem_repr (hc : c ∈ n.repr.toList) : c.isDigit = true := by
  rw [Nat.toList_repr] at hc
  exact Nat.isDigit_of_mem_toDigits (by decide) (by decide) hc

/-- A whole number is written in at least one digit; an empty text is no number to the reader. -/
theorem repr_ne_nil (n : Nat) : n.repr.toList ≠ [] := by
  rw [Nat.toList_repr]
  exact Nat.toDigits_ne_nil

/-- A digit is no blank, so trimming takes no digit off a number. -/
theorem isBlank_of_isDigit (h : c.isDigit = true) : Text.isBlank c = false := by
  have hrange : 48 ≤ c.toNat ∧ c.toNat ≤ 57 := by
    rw [Char.isDigit, Bool.and_eq_true, decide_eq_true_iff, decide_eq_true_iff] at h
    exact h
  simp only [Text.isBlank, Bool.or_eq_false_iff, Bool.and_eq_false_iff, decide_eq_false_iff_not, beq_eq_false_iff_ne]
  omega

/-- A whole number is read as it is written, with nothing to trim. -/
theorem trimmed_repr (n : Nat) : Text.Trimmed n.repr.toList :=
  Text.trimmed_of_forall (repr_ne_nil n) fun _ hc => isBlank_of_isDigit (isDigit_of_mem_repr hc)

/-- **Digits have the value of their place notation**, which is how the library reads them. -/
theorem digitsFrom_eq : ∀ {cs : List Char} (acc : Nat), (∀ c ∈ cs, c.isDigit = true) →
    digitsFrom acc cs = some (Nat.ofDigitChars 10 cs acc)
  | [], _, _ => rfl
  | c :: cs, acc, h => by
    have hdigit : digit? c = some (c.toNat - '0'.toNat) := if_pos (h c List.mem_cons_self)
    rw [digitsFrom, hdigit, Option.bind_some, digitsFrom_eq _ fun d hd => h d (List.mem_cons_of_mem c hd),
      Nat.mul_comm acc 10]
    rfl

/-- The digits of a whole number say that number. -/
theorem digits?_repr (n : Nat) : digits? n.repr.toList = some n := by
  have hvalue : digitsFrom 0 n.repr.toList = _ := digitsFrom_eq 0 fun _ hc => isDigit_of_mem_repr hc
  rw [Nat.toList_repr, Nat.ofDigitChars_ten_toDigits, ← Nat.toList_repr] at hvalue
  cases hcs : n.repr.toList with
  | nil => exact absurd hcs (repr_ne_nil n)
  | cons c cs =>
    rw [hcs] at hvalue
    exact hvalue

/-- **A whole number is read back**, within the range of the reader, and refused beyond it. -/
theorem unsigned?_repr (top n : Nat) : unsigned? top n.repr.toList = if n ≤ top then some n else none := by
  have hread : unsigned? top n.repr.toList = (digits? n.repr.toList).filter (· ≤ top) := by
    unfold unsigned?
    split
    · rename_i rest hplus
      -- a plus sign is no digit
      have hdigit := isDigit_of_mem_repr (n := n) (c := '+') (hplus ▸ List.mem_cons_self)
      exact absurd hdigit (by decide)
    · rfl
  rw [hread, digits?_repr, Option.filter_some]
  simp only [decide_eq_true_eq]

/-- A 64-bit number is read back, since none is beyond the range of its reader. -/
theorem readU64?_repr (n : UInt64) : readU64? n.toNat.repr = some n := by
  have hfits : n.toNat ≤ UInt64.size - 1 := Nat.le_sub_one_of_lt n.toNat_lt_size
  rw [readU64?, unsigned?_repr, if_pos hfits, Option.map_some, UInt64.ofNat_toNat]

end FleetControl.Number
