import FleetControl.Proofs.Gpu.Claim
import FleetControl.Proofs.Placement.Growth
import FleetControl.Proofs.Placement.Room

/-!
# Which nodes can take a spec

A node can take a spec exactly where the models of card agree, each of four amounts suffices beside what
is used, and enough cards are usable for the claim (`isSome_of?_iff`).

All of it goes one way with what is committed: on a node where less is committed (`Usage.Lighter`), a
spec that fits still fits, and no reported figure is smaller (`of?_of_lighter`).
-/

namespace FleetControl

/-- **On the same cards, no more is committed than in the second usage.** -/
structure Usage.Lighter (u u' : Usage) : Prop where
  amounts : ∀ r : Resource, r.used u ≤ r.used u'
  cards : u.cards.Lighter u'.cards

namespace Candidate

variable {n : Node} {u u' : Usage} {spec : Spec} {isPartitioned : Bool} {pick : Strategy} {c c' : Candidate}
  {l l' : Ledger}

/-! ## Cards for a spec -/

/-- **Cards are found for a spec exactly where enough are usable for its claim**, and what is found is their
number; a spec without a claim is found none, and is content with that. -/
theorem cardsFor_eq_some_iff (hp : pick.Sound) (he : pick.Eager) {perCardGb : UInt64} {usable : Nat} :
    cardsFor l spec isPartitioned perCardGb pick = some usable ↔
      match Claim.of? spec.gpuCount spec.gpuMemoryGb isPartitioned perCardGb with
      | none => usable = 0
      | some claim => claim.cards.toNat ≤ usableCards l claim ∧ usable = usableCards l claim := by
  unfold cardsFor
  cases hclaim : Claim.of? spec.gpuCount spec.gpuMemoryGb isPartitioned perCardGb with
  | none =>
    simp only [Option.some_inj]
    exact eq_comm
  | some claim =>
    have halloc := Ledger.allocate_isSome_iff (l := l) (c := claim) hp he
    have hcards : claim.cards = spec.gpuCount := Claim.cards_of? hclaim
    dsimp only
    rw [hcards] at halloc ⊢
    cases hcase : (l.allocate pick claim).1 with
    | none =>
      rw [hcase] at halloc
      refine iff_of_false nofun fun h => ?_
      exact absurd (halloc.mpr h.1) (by decide)
    | some cards =>
      rw [hcase] at halloc
      have henough : spec.gpuCount.toNat ≤ usableCards l claim := halloc.mp rfl
      rw [if_neg (Nat.not_lt.mpr henough), Option.some_inj, and_iff_right henough]
      exact eq_comm

/-- Whichever way cards are picked, enough of those that are found are usable for the claim. Nothing is asked of
the strategy here, for the number of usable cards is counted without it. -/
theorem enough_of_cardsFor {perCardGb : UInt64} {usable : Nat} {claim : Claim}
    (hclaim : Claim.of? spec.gpuCount spec.gpuMemoryGb isPartitioned perCardGb = some claim)
    (h : cardsFor l spec isPartitioned perCardGb pick = some usable) :
    spec.gpuCount.toNat ≤ usableCards l claim := by
  unfold cardsFor at h
  rw [hclaim] at h
  dsimp only at h
  split at h
  · cases h
  · split at h
    · cases h
    · rename_i hnot
      exact Nat.le_of_not_lt hnot

/-- No more cards are found than there are. -/
theorem usable_le_cardCount (hp : pick.Sound) (he : pick.Eager) {perCardGb : UInt64} {usable : Nat}
    (h : cardsFor l spec isPartitioned perCardGb pick = some usable) : usable ≤ l.cardCount := by
  have hcards := (cardsFor_eq_some_iff hp he).mp h
  split at hcards
  · rw [hcards]
    exact Nat.zero_le _
  · rw [hcards.2]
    exact Ledger.usableCards_le l _

/-- **Exactly when a node can take a spec**, which the strategy has no say in: the models agree, each amount
suffices beside what is in use, and as many cards are usable as the claim wants. -/
theorem isSome_of?_iff (hp : pick.Sound) (he : pick.Eager) :
    (∃ c, of? n u spec isPartitioned pick = some c) ↔
      modelFits n spec = true ∧
      (∀ r : Resource, (r.used u).toNat + (r.asked spec).toNat ≤ (r.total n).toNat) ∧
      ∀ claim, Claim.of? spec.gpuCount spec.gpuMemoryGb isPartitioned n.perCardGb = some claim →
        claim.cards.toNat ≤ usableCards u.cards claim := by
  constructor
  · rintro ⟨c, hc⟩
    obtain ⟨_, hmodel, hamounts, ⟨usable, husable, _⟩, _⟩ := describes_of hc
    refine ⟨hmodel, fun r => (hamounts r).1, fun claim hclaim => ?_⟩
    have hcards := (cardsFor_eq_some_iff hp he).mp husable
    rw [hclaim] at hcards
    exact hcards.1
  · rintro ⟨hmodel, hamounts, hcards⟩
    have hleft : ∀ r : Resource, remaining (r.total n) (r.used u) (r.asked spec) =
        some (r.total n - r.used u) := fun r => remaining_eq_some_iff.mpr ⟨hamounts r, rfl⟩
    have husable : ∃ usable, cardsFor u.cards spec isPartitioned n.perCardGb pick = some usable := by
      simp only [cardsFor_eq_some_iff hp he]
      cases hclaim : Claim.of? spec.gpuCount spec.gpuMemoryGb isPartitioned n.perCardGb with
      | none => exact ⟨0, rfl⟩
      | some claim => exact ⟨_, hcards claim hclaim, rfl⟩
    obtain ⟨usable, husable⟩ := husable
    have hcpu : remaining n.cpuCores u.cpuCores spec.cpuCores = _ := hleft .cpuCores
    have hmemory : remaining n.memoryGb u.memoryGb spec.memoryGb = _ := hleft .memory
    have hsystem : remaining n.systemDiskGb u.systemDiskGb spec.systemDiskGb = _ := hleft .systemDisk
    have hdata : remaining n.dataDiskGb u.dataDiskGb spec.dataDiskGb = _ := hleft .dataDisk
    unfold of?
    rw [hmodel, hcpu, hmemory, hsystem, hdata, husable]
    exact ⟨_, rfl⟩

/-! ## Whole cards and slices -/

/-- Wherever a whole card is free, a slice of it is: a card in no use has room for any slice within it. -/
theorem usableCards_whole_le {cards slice : UInt64} (hle : slice ≤ l.perCardGb) :
    usableCards l (.whole cards) ≤ usableCards l (.partitioned cards slice) := by
  refine List.countP_mono_left fun used _ hzero => ?_
  have hzero : used = 0 := beq_iff_eq.mp hzero
  rw [decide_eq_true_iff, UInt64.le_iff_toNat_le, Ledger.toNat_free, hzero]
  exact UInt64.le_iff_toNat_le.mp hle

/-- A slice that is larger than a card finds room on none. -/
theorem usableCards_partitioned_eq_zero {cards slice : UInt64} (hlt : l.perCardGb < slice) :
    usableCards l (.partitioned cards slice) = 0 := by
  refine List.countP_eq_zero.mpr fun used _ hroom => ?_
  rw [decide_eq_true_iff, UInt64.le_iff_toNat_le, Ledger.toNat_free] at hroom
  rw [UInt64.lt_iff_toNat_lt] at hlt
  omega

/-- A slice that finds room on some card is no larger than one, so where one card at least is asked for, an
accepted slice is within a card. -/
theorem slice_le_of_enough {cards slice : UInt64} (hne : cards ≠ 0)
    (henough : cards.toNat ≤ usableCards l (.partitioned cards slice)) : slice ≤ l.perCardGb := by
  by_contra hlarge
  rw [usableCards_partitioned_eq_zero (UInt64.not_le.mp hlarge), Nat.le_zero] at henough
  exact hne (UInt64.toNat_inj.mp henough)

/-- **Where a request fits with whole cards, it fits with slices**, unless its slice is larger than a card: the
request is for more memory than so many cards have, and whole cards were never asked for that. -/
theorem forall_enough_iff {cards memoryGb : UInt64}
    (hwhole : ∀ claim, Claim.of? cards memoryGb false l.perCardGb = some claim →
      claim.cards.toNat ≤ usableCards l claim) :
    (∀ claim, Claim.of? cards memoryGb true l.perCardGb = some claim →
      claim.cards.toNat ≤ usableCards l claim) ↔
        ¬ (0 < l.perCardGb ∧ l.perCardGb < memoryGb / cards) := by
  cases hclaim : Claim.of? cards memoryGb true l.perCardGb with
  | none =>
    have hslice : memoryGb / cards = 0 := by
      rw [Claim.of?_eq_none_iff.mp hclaim]
      exact UInt64.div_zero
    rw [hslice]
    exact iff_of_true nofun fun h => absurd h.2 (UInt64.not_lt.mpr UInt64.zero_le)
  | some claim =>
    simp only [Option.some_inj, forall_eq']
    cases claim with
    | whole k =>
      obtain ⟨rfl, hne, hslice⟩ := Claim.of?_eq_whole_iff.mp hclaim
      refine iff_of_true (hwhole _ (Claim.of?_eq_whole_iff.mpr ⟨rfl, hne, nofun⟩)) fun h => ?_
      exact hslice ⟨rfl, UInt64.lt_trans h.1 h.2, h.1⟩
    | partitioned k slice =>
      obtain ⟨⟨rfl, rfl⟩, _, hslice, hper⟩ := Claim.of?_eq_partitioned_iff.mp hclaim
      have hne : k ≠ 0 := by
        rintro rfl
        rw [UInt64.div_zero] at hslice
        exact absurd hslice (by decide)
      have henough : k.toNat ≤ usableCards l (.whole k) :=
        hwhole _ (Claim.of?_eq_whole_iff.mpr ⟨rfl, hne, nofun⟩)
      rw [and_iff_right hper, UInt64.not_lt]
      constructor
      · intro hfits
        exact slice_le_of_enough hne hfits
      · intro hle
        exact henough.trans (usableCards_whole_le hle)

/-! ## More is committed -/

/-- **The first candidate is for the node of the second and has no more to offer.** -/
structure AtMost (c' c : Candidate) : Prop where
  nodeId : c'.nodeId = c.nodeId
  availableGpus : c'.availableGpus ≤ c.availableGpus
  availableCpu : c'.availableCpu ≤ c.availableCpu
  availableMemoryGb : c'.availableMemoryGb ≤ c.availableMemoryGb
  availableSystemDiskGb : c'.availableSystemDiskGb ≤ c.availableSystemDiskGb
  availableDataDiskGb : c'.availableDataDiskGb ≤ c.availableDataDiskGb
  availableGpuMemoryGb : c'.availableGpuMemoryGb ≤ c.availableGpuMemoryGb

/-- On a ledger that holds less, a spec finds its cards as well, and at least as many of them. -/
theorem cardsFor_of_lighter (hp : pick.Sound) (he : pick.Eager) (h : l.Lighter l') {perCardGb : UInt64}
    {usable' : Nat} (hfound : cardsFor l' spec isPartitioned perCardGb pick = some usable') :
    ∃ usable, cardsFor l spec isPartitioned perCardGb pick = some usable ∧ usable' ≤ usable := by
  simp only [cardsFor_eq_some_iff hp he] at hfound ⊢
  cases hclaim : Claim.of? spec.gpuCount spec.gpuMemoryGb isPartitioned perCardGb with
  | none =>
    rw [hclaim] at hfound
    exact ⟨0, rfl, Nat.le_of_eq hfound⟩
  | some claim =>
    rw [hclaim] at hfound
    obtain ⟨henough, rfl⟩ := hfound
    have hle := h.usableCards_le claim
    exact ⟨_, ⟨henough.trans hle, rfl⟩, hle⟩

/-- **Where less is committed, a spec that fits still fits**, and nothing that is reported is less; the cards are
fewer than a 64-bit count can hold, or their reported number could come round. -/
theorem of?_of_lighter (hp : pick.Sound) (he : pick.Eager) (h : u.Lighter u')
    (hcards : u.cards.cardCount < UInt64.size) (hc' : of? n u' spec isPartitioned pick = some c') :
    ∃ c, of? n u spec isPartitioned pick = some c ∧ c'.AtMost c := by
  obtain ⟨hid', hmodel, hamounts', ⟨usable', husable', hgpus'⟩, hmemory'⟩ := describes_of hc'
  have hfits : ∀ r : Resource, (r.used u).toNat ≤ (r.used u').toNat := fun r =>
    UInt64.le_iff_toNat_le.mp (h.amounts r)
  obtain ⟨usable, husable, hle⟩ := cardsFor_of_lighter hp he h.cards husable'
  have hsome : ∃ c, of? n u spec isPartitioned pick = some c := by
    refine (isSome_of?_iff hp he).mpr ⟨hmodel, fun r => ?_, fun claim hclaim => ?_⟩
    · exact (Nat.add_le_add_right (hfits r) _).trans (hamounts' r).1
    · have hcards := (cardsFor_eq_some_iff hp he).mp husable
      rw [hclaim] at hcards
      exact hcards.1
  obtain ⟨c, hc⟩ := hsome
  obtain ⟨hid, _, hamounts, ⟨usable₁, husable₁, hgpus⟩, hmemory⟩ := describes_of hc
  obtain rfl : usable = usable₁ := Option.some.inj (husable.symm.trans husable₁)
  have hleft : ∀ r : Resource, r.available c' ≤ r.available c := by
    intro r
    obtain ⟨hsum', havailable'⟩ := hamounts' r
    have hused := hfits r
    have hle' : r.used u' ≤ r.total n := UInt64.le_iff_toNat_le.mpr (by omega)
    have hle : r.used u ≤ r.total n := UInt64.le_iff_toNat_le.mpr (by omega)
    rw [havailable', (hamounts r).2, UInt64.le_iff_toNat_le, UInt64.toNat_sub_of_le _ _ hle',
      UInt64.toNat_sub_of_le _ _ hle]
    omega
  refine ⟨c, hc, hid'.trans hid.symm, ?_, hleft .cpuCores, hleft .memory, hleft .systemDisk,
    hleft .dataDisk, ?_⟩
  · have hmost : usable ≤ u.cards.cardCount := usable_le_cardCount hp he husable
    rw [hgpus', hgpus, UInt64.le_iff_toNat_le, UInt64.toNat_ofNat_of_lt' (by omega),
      UInt64.toNat_ofNat_of_lt' (by omega)]
    exact hle
  · rw [hmemory', hmemory, h.cards.cardCount]
    split
    · exact UInt64.le_refl _
    · exact h.cards.maxHeadroom_le

end Candidate

namespace Store

variable {s s' : Store} {pick : Strategy} {n : Node} {f : Footprint}

/-! ## What the residents of a node ask for -/

/-- How much of an amount a resident asks for; nothing where it has no live spec. -/
def asks (s : Store) (r : Resource) (f : Footprint) : Nat :=
  ((s.specs.find? f.specId).map fun spec => (r.asked spec).toNat).getD 0

/-- **How much of an amount a node's residents ask for together**, as an exact number. -/
def demand (s : Store) (r : Resource) (n : Node) : Nat := ((s.residents n).map (s.asks r)).sum

/-- One resident adds what it asks for to an amount in use, as 64 bits add. -/
theorem used_account (s : Store) (pick : Strategy) (u : Usage) (f : Footprint) (r : Resource) :
    (r.used (s.account pick u f)).toNat = ((r.used u).toNat + s.asks r f) % 2 ^ 64 := by
  unfold account asks
  cases s.specs.find? f.specId with
  | none => exact (Nat.mod_eq_of_lt (r.used u).toNat_lt).symm
  | some spec => cases r <;> exact UInt64.toNat_add _ _

/-- Residents one after another add what they ask for together, by induction over them. -/
theorem used_foldl_account (s : Store) (pick : Strategy) (r : Resource) :
    ∀ (fs : List Footprint) (u : Usage), (r.used (fs.foldl (s.account pick) u)).toNat =
      ((r.used u).toNat + (fs.map (s.asks r)).sum) % 2 ^ 64
  | [], u => (Nat.mod_eq_of_lt (r.used u).toNat_lt).symm
  | f :: rest, u => by
    rw [List.foldl_cons, used_foldl_account s pick r rest, used_account, List.map_cons, List.sum_cons,
      Nat.mod_add_mod, Nat.add_assoc]

/-- **The amount in use is what the residents ask for**, as far as it can be counted: beyond 64 bits it comes
round, and is no longer the demand itself. -/
theorem used_usage (s : Store) (pick : Strategy) (n : Node) (r : Resource) :
    (r.used (s.usage pick n)).toNat = s.demand r n % 2 ^ 64 := by
  have hzero : (r.used (.untouched n)).toNat = 0 := by cases r <;> rfl
  rw [usage_eq, used_foldl_account, hzero, Nat.zero_add]
  rfl

/-- Residents take room on cards and add or remove none. -/
theorem cardCount_usage (s : Store) (pick : Strategy) (n : Node) :
    (s.usage pick n).cards.cardCount = n.gpuCount.toNat := by
  rw [cards_usage, Ledger.cardCount_replayAll, Ledger.cardCount, Ledger.untouched]
  exact List.length_replicate

/-- No card of a node holds more than its capacity, whoever lives there. -/
theorem bounded_usage (s : Store) (pick : Strategy) (n : Node) : (s.usage pick n).cards.Bounded := by
  rw [cards_usage]
  exact (Ledger.untouched_bounded _ _).replayAll pick _

/-- With the same specs, a footprint asks for the same. -/
theorem SameCatalog.asks (h : SameCatalog s s') (r : Resource) : s'.asks r = s.asks r := by
  funext f
  unfold Store.asks
  rw [h.specs]

/-- **One more footprint at the end only adds to what is committed**, where the amounts can be counted: it is
accounted for last, on what the others have left. -/
theorem usage_lighter (hp : pick.Sound) (h : SameCatalog s s') (hf : s'.footprints = s.footprints ++ [f])
    (hsum : ∀ r, s'.demand r n < 2 ^ 64) : (s.usage pick n).Lighter (s'.usage pick n) := by
  have hdemand : ∀ r, s.demand r n ≤ s'.demand r n := by
    intro r
    unfold demand residents
    rw [h.asks, hf, List.filter_append, List.map_append, List.sum_append]
    exact Nat.le_add_right _ _
  constructor
  · intro r
    have hle := hdemand r
    have hlt := hsum r
    rw [UInt64.le_iff_toNat_le, used_usage, used_usage, Nat.mod_eq_of_lt hlt, Nat.mod_eq_of_lt (by omega)]
    exact hle
  · rw [usage_append h hf]
    split
    · rw [cards_account f (perCardGb_usage s pick n)]
      cases s.claim? n f with
      | none => exact .refl _
      | some claim => exact Ledger.lighter_replay hp (bounded_usage s pick n) claim
    · exact .refl _

end Store

end FleetControl
