import FleetControl.Proofs.Engine.Plan
import FleetControl.Proofs.Number.Checked
import FleetControl.Proofs.Placement.Feasible

/-!
# The amounts of a plan

A plan multiplies what a spec asks for: cores by a thousand million, gigabytes by the bytes in one, and the
memory on a card by a hundred for the share of its cores. The products are kept in 64 bits, and there is a
plan only where all of them fit (`exists_of?_iff_countable`). A plan that there is asks for exactly what the
spec does (`Exact`).

That a node can take a spec bounds the spec's amounts by the node's, so there is a plan for every accepted
spec on a node whose own amounts are countable (`exact_of_accepted`), but nothing bounds those. A spec that
takes all of a large node is accepted and then has no plan (`inexact_accepted`).

**What it does not establish.** A spec that asks for memory on cards without asking for a card is accepted
with any such memory, so a countable node is not enough to have a plan for it.
-/

namespace FleetControl

namespace Engine.Plan

/-! ## Amounts that fit -/

/-- A number below the half of its range means the same with a sign. -/
theorem toInt_toInt64 {x : UInt64} (h : x.toNat ≤ Int64.maxValue.toInt) : x.toInt64.toInt = x.toNat := by
  have hmax : Int64.maxValue.toInt * 2 < UInt64.size := by decide
  have hbits : x.toInt64.toInt = (x.toNat : Int).bmod UInt64.size := BitVec.toInt_eq_toNat_bmod _
  rw [hbits, Int.bmod_eq_of_le_mul_two (by omega) (by omega)]

/-- **A product with a sign is there exactly where it is within the positive half of the range**: a number without
a sign and a positive factor have no product in the other half. -/
theorem exists_mulSigned?_toInt64_iff {x : UInt64} {k : Int64} (hx : x.toNat ≤ Int64.maxValue.toInt)
    (hk : 0 ≤ k.toInt) :
    (∃ y, Number.mulSigned? x.toInt64 k = some y) ↔ x.toNat * k.toInt ≤ Int64.maxValue.toInt := by
  have hmin : Int64.minValue.toInt ≤ 0 := by decide
  rw [Number.exists_mulSigned?_iff, toInt_toInt64 hx]
  exact and_iff_right (hmin.trans (Int.mul_nonneg (Int.natCast_nonneg _) hk))

/-- **Amounts whose products fit**: of cores and memory with a sign, of the memory on a card without. -/
structure Countable (cores memoryGb cardGb : UInt64) : Prop where
  cores : (cores.toNat : Int) * 1000000000 ≤ Int64.maxValue.toInt
  memory : (memoryGb.toNat : Int) * 1073741824 ≤ Int64.maxValue.toInt
  card : cardGb.toNat * 100 < UInt64.size

/-- Less of each amount is countable where more of it is. -/
theorem Countable.mono {cores cores' memoryGb memoryGb' cardGb cardGb' : UInt64}
    (h : Countable cores' memoryGb' cardGb') (hcores : cores ≤ cores') (hmemory : memoryGb ≤ memoryGb')
    (hcard : cardGb ≤ cardGb') : Countable cores memoryGb cardGb := by
  rw [UInt64.le_iff_toNat_le] at hcores hmemory hcard
  obtain ⟨hcores', hmemory', hcard'⟩ := h
  exact ⟨by omega, by omega, by omega⟩

/-- The memory on a card that a plan limits its unit to; none where cards are not shared. -/
def limitedGb (n : Node) (s : Spec) (i : Image) : UInt64 := if isPartitioned n s i then slice s else 0

/-- The share of a card that a spec asks for, in hundredths: at least one, and at most all. -/
def percent (n : Node) (s : Spec) : Nat := min 100 (max 1 ((slice s).toNat * 100 / n.perCardGb.toNat))

/-- **The amounts of a spec that a signed number can hold.** -/
structure Moderate (s : Spec) : Prop where
  cores : s.cpuCores.toNat ≤ Int64.maxValue.toInt
  memory : s.memoryGb.toNat ≤ Int64.maxValue.toInt
  cards : s.gpuCount.toNat ≤ Int64.maxValue.toInt

/-- **A plan asks for exactly what the spec does.** -/
structure Exact (n : Node) (s : Spec) (i : Image) (p : Plan) : Prop where
  cores : p.body.host.nanoCpus.toInt = s.cpuCores.toNat * 1000000000
  memory : p.body.host.memory.toInt = s.memoryGb.toNat * 1073741824
  cards : (p.body.host.devices.map (·.count.toInt)).sum = s.gpuCount.toNat
  share : isPartitioned n s i = true →
    envValue? "CUDA_DEVICE_SM_LIMIT" p.body.env = some (toString (percent n s))

variable {c : EngineSettings} {n : Node} {s : Spec} {i : Image} {name : String} {p : Plan}

/-! ## Where there is a plan -/

/-- **There is an environment exactly where a hundred times the limited memory fits.** Where no card is shared that is
nothing, and it fits. -/
theorem exists_env?_iff : (∃ env, env? c n s i = some env) ↔ (limitedGb n s i).toNat * 100 < UInt64.size := by
  unfold env? limitedGb
  split
  · constructor
    · rintro ⟨env, henv⟩
      obtain ⟨share, hshare, _⟩ := Option.map_eq_some_iff.mp henv
      obtain ⟨product, hproduct, _⟩ := Option.map_eq_some_iff.mp hshare
      exact Number.exists_mulUnsigned?_iff.mp ⟨product, hproduct⟩
    · intro hfits
      obtain ⟨product, hproduct⟩ := Number.exists_mulUnsigned?_iff (b := 100) |>.mpr hfits
      unfold share?
      rw [hproduct]
      exact ⟨_, rfl⟩
  · exact iff_of_true ⟨_, rfl⟩ (by decide)

/-- **There is a plan exactly where the products fit.** -/
theorem exists_of?_iff_countable (hs : Moderate s) : (∃ p, of? c n s i name = some p) ↔
    Countable s.cpuCores s.memoryGb (limitedGb n s i) := by
  have hcores := exists_mulSigned?_toInt64_iff (k := 1000000000) hs.cores (by decide)
  have hmemory := exists_mulSigned?_toInt64_iff (k := gigabyte) hs.memory (by decide)
  rw [exists_of?_iff, hcores, hmemory, exists_env?_iff]
  constructor
  · rintro ⟨hcores, hmemory, hcard⟩
    exact ⟨hcores, hmemory, hcard⟩
  · rintro ⟨hcores, hmemory, hcard⟩
    exact ⟨hcores, hmemory, hcard⟩

/-- **As many cards are asked for as the spec has**: one request for all of them, and none where there are none. -/
theorem sum_devices (hp : of? c n s i name = some p) (hcards : s.gpuCount.toNat ≤ Int64.maxValue.toInt) :
    (p.body.host.devices.map (·.count.toInt)).sum = s.gpuCount.toNat := by
  rw [(describes_of? hp).devices]
  split
  · show s.gpuCount.toInt64.toInt + 0 = _
    rw [toInt_toInt64 hcards, Int.add_zero]
  · rename_i hnone
    have hzero : s.gpuCount = 0 := UInt64.le_zero_iff.mp (UInt64.not_lt.mp hnone)
    rw [hzero]
    rfl

/-- **A share that there is, is that of the spec**: it was divided out of the exact product. -/
theorem toNat_share {share : UInt64} (h : share? n s = some share) : share.toNat = percent n s := by
  obtain ⟨product, hproduct, rfl⟩ := Option.map_eq_some_iff.mp h
  have hexact : product.toNat = (slice s).toNat * 100 := Number.mulUnsigned?_eq_some_iff.mp hproduct
  rw [UInt64.toNat_min, UInt64.toNat_max, UInt64.toNat_div, hexact, Nat.min_comm, Nat.max_comm]
  rfl

/-- **A plan that there is, is exact**, for no number in it was cut to fit. -/
theorem exact_of (hs : Moderate s) (hp : of? c n s i name = some p) : Exact n s i p where
  cores := by
    rw [Number.mulSigned?_eq_some_iff.mp (describes_of? hp).nanoCpus, toInt_toInt64 hs.cores]
    rfl
  memory := by
    rw [Number.mulSigned?_eq_some_iff.mp (describes_of? hp).memory, toInt_toInt64 hs.memory]
    rfl
  cards := sum_devices hp hs.cards
  share hpart := by
    obtain ⟨share, hshare, henv⟩ := exists_share_of hp hpart
    rw [henv, env_limitEnv, if_neg (by decide), if_neg (by decide), if_pos rfl, toNat_share hshare]

/-! ## Accepted specs -/

/-- **The slice of an accepted spec is within a card**, whichever way its cards are picked. -/
theorem slice_le_of_accepted {u : Usage} {pick : Strategy} {cand : Candidate}
    (hper : u.cards.perCardGb = n.perCardGb)
    (h : Candidate.of? n u s (s.partitions (some i)) pick = some cand) (hcards : s.gpuCount ≠ 0) :
    isPartitioned n s i = true → slice s ≤ n.perCardGb := by
  intro hpart
  obtain ⟨hsplit, _, hpos⟩ := isPartitioned_iff.mp hpart
  obtain ⟨usable, husable, _⟩ := (Candidate.describes_of h).cards
  rw [slice_of_claim hcards]
  by_cases hslice : 0 < s.gpuMemoryGb / s.gpuCount
  · have hclaim := Claim.of?_eq_partitioned_iff.mpr ⟨⟨rfl, rfl⟩, hsplit, hslice, hpos⟩
    exact hper ▸ Candidate.slice_le_of_enough hcards (Candidate.enough_of_cardsFor hclaim husable)
  -- less than a gigabyte for each card is no slice
  · exact UInt64.le_trans (UInt64.not_lt.mp hslice) UInt64.zero_le

/-- **The amounts of an accepted spec are countable where those of its node are**, if it asks for a card or shares
none: what is accepted is within the node, and a slice is within a card. -/
theorem countable_of_accepted {st : Store} {pick : Strategy} {cand : Candidate}
    (hcheck : st.checkNode pick s i n = .ok cand) (hshared : s.gpuCount = 0 → isPartitioned n s i = false)
    (hnode : Countable n.cpuCores n.memoryGb n.perCardGb) :
    Countable s.cpuCores s.memoryGb (limitedGb n s i) := by
  have htakes : Candidate.of? n (st.usage pick n) s (s.partitions (some i)) pick = some cand :=
    Store.checkNode_eq_ok_iff.mp hcheck
  have hwithin : ∀ r : Resource, r.asked s ≤ r.total n := fun r =>
    UInt64.le_iff_toNat_le.mpr (Nat.le_of_add_left_le ((Candidate.describes_of htakes).amounts r).1)
  refine hnode.mono (hwithin .cpuCores) (hwithin .memory) ?_
  unfold limitedGb
  split
  · rename_i hpart
    have hcards : s.gpuCount ≠ 0 := fun hzero => Bool.false_ne_true ((hshared hzero).symm.trans hpart)
    exact slice_le_of_accepted (Store.perCardGb_usage st pick n) htakes hcards hpart
  · exact UInt64.zero_le

/-- **The plan of an accepted spec.** If there is one it asks for exactly what the spec does, and there is one
exactly where no product is too large. If the spec asks for a card, or shares none, there is one on every
node whose own amounts are countable. -/
theorem exact_of_accepted {st : Store} {pick : Strategy} {cand : Candidate} (c : EngineSettings) (name : String)
    (hcheck : st.checkNode pick s i n = .ok cand) (hs : Moderate s) :
    (∀ p, of? c n s i name = some p → Exact n s i p) ∧
      ((∃ p, of? c n s i name = some p) ↔ Countable s.cpuCores s.memoryGb (limitedGb n s i)) ∧
      ((s.gpuCount = 0 → isPartitioned n s i = false) → Countable n.cpuCores n.memoryGb n.perCardGb →
        ∃ p, of? c n s i name = some p ∧ Exact n s i p) := by
  refine ⟨fun p => exact_of hs, exists_of?_iff_countable hs, fun hshared hnode => ?_⟩
  obtain ⟨p, hp⟩ := (exists_of?_iff_countable hs).mpr (countable_of_accepted hcheck hshared hnode)
  exact ⟨p, hp, exact_of hs hp⟩

/-- A node with one card. -/
def oneCard (memoryGb perCardGb : UInt64) : Node :=
  { Node.blank .epoch with cpuCores := 64, memoryGb, gpuCount := 1, perCardGb }

/-- A spec for one card, with the memory that is shared on it. -/
def oneCardSpec (memoryGb gpuMemoryGb : UInt64) : Spec :=
  { Spec.blank .epoch with cpuCores := 8, memoryGb, gpuCount := 1, gpuMemoryGb, supportsSplit := true }

def splitImage : Image := { Image.blank .epoch with supportsSplit := true }

/-- Half of the 512 gigabytes of a node, and half of the 40 of its card. -/
theorem exact_of_accepted_half :
    let n := oneCard 512 40
    let s := oneCardSpec 256 20
    ∃ cand p, Store.empty.checkNode Ledger.packFirst s splitImage n = .ok cand ∧ Moderate s ∧
      Countable n.cpuCores n.memoryGb n.perCardGb ∧ percent n s = 50 ∧
      of? {} n s splitImage "unit" = some p ∧ Exact n s splitImage p := by
  intro n s
  have hok : (Store.empty.checkNode Ledger.packFirst s splitImage n).isOk = true := by decide +kernel
  cases hcheck : Store.empty.checkNode Ledger.packFirst s splitImage n with
  | error e =>
    rw [hcheck] at hok
    cases hok
  | ok cand =>
    have hs : Moderate s := ⟨by decide, by decide, by decide⟩
    have hnode : Countable n.cpuCores n.memoryGb n.perCardGb := ⟨by decide, by decide, by decide⟩
    obtain ⟨_, _, hexact⟩ := exact_of_accepted {} "unit" hcheck hs
    obtain ⟨p, hp, hexact⟩ := hexact nofun hnode
    exact ⟨cand, p, rfl, hs, hnode, by decide, hp, hexact⟩

/-- **Accepted without a plan**, where there is much of everything: all of a node's memory is too many bytes, and a
hundred times the memory of its card is too large a number, although the share that is due is all of the
card. -/
theorem inexact_accepted :
    let n := oneCard 17179869184 4611686018427387904
    let whole := oneCardSpec 17179869184 20
    let shared := oneCardSpec 32 4611686018427387904
    ((Store.empty.checkNode Ledger.packFirst whole splitImage n).isOk = true ∧ Moderate whole ∧
      of? {} n whole splitImage "unit" = none) ∧
    (Store.empty.checkNode Ledger.packFirst shared splitImage n).isOk = true ∧ Moderate shared ∧
      percent n shared = 100 ∧ of? {} n shared splitImage "unit" = none := by
  intro n whole shared
  have hwhole : Moderate whole := ⟨by decide, by decide, by decide⟩
  have hshared : Moderate shared := ⟨by decide, by decide, by decide⟩
  exact ⟨⟨by decide +kernel, hwhole, by decide +kernel⟩, by decide +kernel, hshared, by decide, by decide +kernel⟩

end Engine.Plan

end FleetControl
