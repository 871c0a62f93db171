import FleetControl.Proofs.Placement.Feasible

/-!
# What a candidate is decided by

Whether a node is a candidate is asked twice of its cards: the claim is allocated in a trial, and the cards
that are usable for it are counted. Both come to the same: enough cards fit (`Feasible`), and how a strategy
ranks them changes neither the answer nor a figure in it (`of?_decides`). The cards that a candidate reports
are the most for which the same claim could be allocated.

What is not asked is whether whole cards hold the memory that a spec requires. A slice is compared with the
room on a card; a whole card is taken as it is, so the requirement has no say as long as whole cards are
claimed, and a candidate may have less memory than is required of it (`uncovered_candidate`). Only where a
request may be split on cards of known capacity is the requirement always covered, since there whole cards
are claimed only for requirements that are too small to be divided (`covered_iff`).
-/

namespace FleetControl

/-- The same claim for another number of cards. -/
def Claim.withCards (n : UInt64) : Claim → Claim
  | whole _ => whole n
  | partitioned _ slice => partitioned n slice

/-- **Take the highest card that fits** and is not chosen yet. -/
def Ledger.lastFit : Strategy := fun l c chosen =>
  ((l.fitting c).filter fun card => !chosen.contains card).getLast?

namespace Ledger

/-- Taking from the top gives only cards that fit and were not chosen before. -/
theorem lastFit_sound : Strategy.Sound lastFit := by
  intro l c chosen card h
  obtain ⟨hfit, hnew⟩ := List.mem_filter.mp (List.mem_of_getLast? h)
  exact ⟨by simpa using hnew, mem_fitting.mp hfit⟩

/-- Taking from the top finds a card wherever one fits, so it is as good a strategy as any. -/
theorem lastFit_eager : Strategy.Eager lastFit := by
  intro l c chosen h card hfit
  have hnone := List.filter_eq_nil_iff.mp (List.getLast?_eq_none_iff.mp h) card (mem_fitting.mpr hfit)
  simpa using hnone

end Ledger

namespace Candidate

variable {n : Node} {u : Usage} {spec : Spec} {isPartitioned : Bool} {pick pick' : Strategy} {c : Candidate}
  {l : Ledger}

/-- **A node has what a spec asks for**, on top of what is committed there. -/
structure Feasible (n : Node) (u : Usage) (spec : Spec) (isPartitioned : Bool) : Prop where
  model : spec.gpuCount = 0 ∨ spec.gpuModel = none ∨ n.gpuName = none ∨ spec.gpuModel = n.gpuName
  amounts : ∀ r : Resource, r.used u ≤ r.total n ∧ r.asked spec ≤ r.total n - r.used u
  cards : spec.gpuCount = 0 ∨ ∃ claim,
    Claim.of? spec.gpuCount spec.gpuMemoryGb isPartitioned n.perCardGb = some claim ∧
      spec.gpuCount.toNat ≤ (u.cards.fitting claim).length

/-! ## What decides -/

/-- **The models of card agree** where the spec asks for no card, where either side names no model, or where both
name the same. -/
theorem modelFits_iff : modelFits n spec = true ↔
    spec.gpuCount = 0 ∨ spec.gpuModel = none ∨ n.gpuName = none ∨ spec.gpuModel = n.gpuName := by
  have hzero : (!spec.requiresGpu) = true ↔ spec.gpuCount = 0 := by
    rw [Spec.requiresGpu, Bool.not_eq_true', decide_eq_false_iff_not, UInt64.not_lt, UInt64.le_zero_iff]
  rw [modelFits, Bool.or_eq_true, hzero]
  refine or_congr_right ?_
  cases spec.gpuModel with
  | none => simp
  | some wanted =>
    cases n.gpuName with
    | none => simp
    | some offered => simp

/-- Enough cards are usable where the spec asks for none, or where as many cards as it asks for fit its claim. A
card that fits is one that a strategy may take, so the count speaks of no strategy. -/
theorem enough_cards_iff : (∀ claim, Claim.of? spec.gpuCount spec.gpuMemoryGb isPartitioned n.perCardGb =
      some claim → claim.cards.toNat ≤ usableCards l claim) ↔
    (spec.gpuCount = 0 ∨ ∃ claim,
      Claim.of? spec.gpuCount spec.gpuMemoryGb isPartitioned n.perCardGb = some claim ∧
        spec.gpuCount.toNat ≤ (l.fitting claim).length) := by
  cases hclaim : Claim.of? spec.gpuCount spec.gpuMemoryGb isPartitioned n.perCardGb with
  | none => exact iff_of_true nofun (.inl (Claim.of?_eq_none_iff.mp hclaim))
  | some claim =>
    have hne : spec.gpuCount ≠ 0 := fun hzero => by
      rw [Claim.of?_eq_none_iff.mpr hzero] at hclaim
      cases hclaim
    simp only [Option.some_inj, forall_eq', hne, false_or, exists_eq_left', Claim.cards_of? hclaim,
      Ledger.usableCards_eq]

/-- **There is a candidate exactly where the node is feasible**, for every strategy that takes only what fits and
finds what there is. -/
theorem isSome_of?_iff_feasible (hp : pick.Sound) (he : pick.Eager) :
    (∃ c, of? n u spec isPartitioned pick = some c) ↔ Feasible n u spec isPartitioned := by
  rw [isSome_of?_iff hp he, modelFits_iff, enough_cards_iff]
  constructor
  · rintro ⟨hmodel, hamounts, hcards⟩
    exact ⟨hmodel, fun r => rest_covers_iff.mpr (hamounts r), hcards⟩
  · rintro ⟨hmodel, hamounts, hcards⟩
    exact ⟨hmodel, fun r => rest_covers_iff.mp (hamounts r), hcards⟩

/-- **A claim is allocated for any number of cards up to those that are usable for it**, and for no more; this is
what makes the reported number of cards the largest one. -/
theorem allocate_withCards_iff (hp : pick.Sound) (he : pick.Eager) (claim : Claim) (k : UInt64) :
    (l.allocate pick (claim.withCards k)).1.isSome = true ↔ k.toNat ≤ usableCards l claim := by
  rw [Ledger.allocate_isSome_iff hp he]
  cases claim <;> rfl

/-- The cards that are reported are the most that the claim could have, as long as the count of cards is itself
within 64 bits. -/
theorem availableGpus_of (hp : pick.Sound) (he : pick.Eager) (hcount : u.cards.cardCount < UInt64.size)
    (h : of? n u spec isPartitioned pick = some c) : (spec.gpuCount = 0 → c.availableGpus = 0) ∧
      ∀ claim, Claim.of? spec.gpuCount spec.gpuMemoryGb isPartitioned n.perCardGb = some claim → ∀ k,
        (u.cards.allocate pick (claim.withCards k)).1.isSome = true ↔ k ≤ c.availableGpus := by
  obtain ⟨usable, husable, hgpus⟩ := (describes_of h).cards
  have hcards := (cardsFor_eq_some_iff hp he).mp husable
  constructor
  · intro hzero
    rw [Claim.of?_eq_none_iff.mpr hzero] at hcards
    rw [hgpus, hcards]
    rfl
  · intro claim hclaim k
    rw [hclaim] at hcards
    have hlt : usable < UInt64.size := (usable_le_cardCount hp he husable).trans_lt hcount
    rw [allocate_withCards_iff hp he, hgpus, UInt64.le_iff_toNat_le, UInt64.toNat_ofNat_of_lt' hlt, hcards.2]

/-- **The strategy has no say**, as long as it takes only what fits and finds the cards that there are: the same
nodes are candidates, with the same figures. -/
theorem of?_congr_pick (hp : pick.Sound) (he : pick.Eager) (hp' : pick'.Sound) (he' : pick'.Eager) :
    of? n u spec isPartitioned pick' = of? n u spec isPartitioned pick := by
  have hcards : cardsFor u.cards spec isPartitioned n.perCardGb pick' =
      cardsFor u.cards spec isPartitioned n.perCardGb pick := by
    refine Option.ext fun usable => ?_
    rw [cardsFor_eq_some_iff hp he, cardsFor_eq_some_iff hp' he']
  unfold of?
  rw [hcards]

/-- **A candidate is decided by what is there**, and by no strategy: a node is one exactly where it has what
the spec asks for; what is reported of each amount is what is left of it, and of cards the most for which
the same claim could be allocated, none where no card is asked for; and every other strategy that finds the
cards that fit gives the same candidate. A ledger has no more cards than a machine number can count. -/
theorem of?_decides (n : Node) (u : Usage) (spec : Spec) (isPartitioned : Bool) (hp : pick.Sound)
    (he : pick.Eager) (hcount : u.cards.cardCount < UInt64.size) :
    ((∃ c, of? n u spec isPartitioned pick = some c) ↔ Feasible n u spec isPartitioned) ∧
      (∀ c, of? n u spec isPartitioned pick = some c →
        (∀ r : Resource, r.available c = r.total n - r.used u) ∧
        (spec.gpuCount = 0 → c.availableGpus = 0) ∧
        ∀ claim, Claim.of? spec.gpuCount spec.gpuMemoryGb isPartitioned n.perCardGb = some claim → ∀ k,
          (u.cards.allocate pick (claim.withCards k)).1.isSome = true ↔ k ≤ c.availableGpus) ∧
      ∀ pick' : Strategy, pick'.Sound → pick'.Eager →
        of? n u spec isPartitioned pick' = of? n u spec isPartitioned pick :=
  ⟨isSome_of?_iff_feasible hp he,
    fun _ hc => ⟨fun r => ((describes_of hc).amounts r).2, availableGpus_of hp he hcount hc⟩,
    fun _ hp' he' => of?_congr_pick hp he hp' he'⟩

/-- A node with two cards of 40 GB. -/
def twoCards : Node :=
  { Node.blank .epoch with cpuCores := 32, memoryGb := 256, gpuName := some "A100", gpuCount := 2, perCardGb := 40 }

/-- A spec for some cards with some memory over all of them. -/
def cardSpec (gpuCount gpuMemoryGb : UInt64) : Spec :=
  { Spec.blank .epoch with gpuModel := some "A100", gpuCount, gpuMemoryGb, cpuCores := 8, memoryGb := 64 }

/-- Two slices of 10 GB beside 5 GB on one of the cards: the two strategies take the cards in different
order, and the node is the same candidate with both. -/
theorem of?_decides_two_cards :
    let u : Usage := { Usage.untouched twoCards with cards := ⟨40, [5, 0]⟩ }
    (Strategy.Sound Ledger.packFirst ∧ Strategy.Eager Ledger.packFirst ∧ Strategy.Sound Ledger.lastFit ∧
      Strategy.Eager Ledger.lastFit ∧ u.cards.cardCount < UInt64.size) ∧
    u.cards.plan Ledger.packFirst (.partitioned 2 10) ≠ u.cards.plan Ledger.lastFit (.partitioned 2 10) ∧
    ∃ c, of? twoCards u (cardSpec 2 20) true Ledger.packFirst = some c ∧
      of? twoCards u (cardSpec 2 20) true Ledger.lastFit = some c := by
  intro u
  have hcount : u.cards.cardCount < UInt64.size := by decide
  obtain ⟨hiff, _, hsame⟩ := of?_decides twoCards u (cardSpec 2 20) true Ledger.packFirst_sound
    Ledger.packFirst_eager hcount
  obtain ⟨c, hc⟩ := hiff.mpr
    { model := .inr (.inr (.inr rfl))
      amounts := fun r => by cases r <;> decide
      cards := .inr ⟨.partitioned 2 10, by decide, by decide⟩ }
  exact ⟨⟨Ledger.packFirst_sound, Ledger.packFirst_eager, Ledger.lastFit_sound, Ledger.lastFit_eager, hcount⟩,
    by decide, c, hc, (hsame _ Ledger.lastFit_sound Ledger.lastFit_eager).trans hc⟩

/-! ## What has no say -/

/-- **A requirement has no say beyond the claim that it leads to**, so two amounts of memory that lead to one
claim have the same candidates. -/
theorem of?_congr_claim {memoryGb other : UInt64}
    (h : Claim.of? spec.gpuCount memoryGb isPartitioned n.perCardGb =
      Claim.of? spec.gpuCount other isPartitioned n.perCardGb) :
    of? n u { spec with gpuMemoryGb := memoryGb } isPartitioned pick =
      of? n u { spec with gpuMemoryGb := other } isPartitioned pick := by
  have hcards : cardsFor u.cards { spec with gpuMemoryGb := memoryGb } isPartitioned n.perCardGb pick =
      cardsFor u.cards { spec with gpuMemoryGb := other } isPartitioned n.perCardGb pick := by
    unfold cardsFor
    rw [h]
  unfold of?
  rw [hcards]
  rfl

/-- **Exactly when the cards of candidates cover what is required of them.** Where whole cards are claimed
the requirement has no say. So they cover every requirement only where the request may be split on cards of
known capacity, where they hold all that a requirement can be, or where the node is no candidate. -/
theorem covered_iff (hgpu : 0 < spec.gpuCount) :
    (∀ memoryGb other : UInt64,
      Claim.of? spec.gpuCount memoryGb isPartitioned n.perCardGb = some (.whole spec.gpuCount) →
      Claim.of? spec.gpuCount other isPartitioned n.perCardGb = some (.whole spec.gpuCount) →
        of? n u { spec with gpuMemoryGb := memoryGb } isPartitioned pick =
          of? n u { spec with gpuMemoryGb := other } isPartitioned pick) ∧
    ((∀ (memoryGb : UInt64) (c : Candidate),
      Claim.of? spec.gpuCount memoryGb isPartitioned n.perCardGb = some (.whole spec.gpuCount) →
      of? n u { spec with gpuMemoryGb := memoryGb } isPartitioned pick = some c →
        memoryGb.toNat ≤ spec.gpuCount.toNat * n.perCardGb.toNat) ↔
      (isPartitioned = true ∧ 0 < n.perCardGb) ∨
        UInt64.size ≤ spec.gpuCount.toNat * n.perCardGb.toNat + 1 ∨
          of? n u { spec with gpuMemoryGb := 0 } isPartitioned pick = none) := by
  have hne : spec.gpuCount ≠ 0 := fun hzero => absurd (hzero ▸ hgpu) (by decide)
  refine ⟨fun memoryGb other h h' => of?_congr_claim (h.trans h'.symm), ?_⟩
  have hzero : Claim.of? spec.gpuCount 0 isPartitioned n.perCardGb = some (.whole spec.gpuCount) :=
    Claim.of?_eq_whole_iff.mpr ⟨rfl, hne, fun h => absurd h.2.1 (by simp)⟩
  constructor
  · intro hcover
    by_cases hsplit : isPartitioned = true ∧ 0 < n.perCardGb
    · exact .inl hsplit
    -- every requirement is for whole cards, and the largest of all is covered by a candidate
    · refine .inr ?_
      have hlargest : Claim.of? spec.gpuCount (-1) isPartitioned n.perCardGb = some (.whole spec.gpuCount) :=
        Claim.of?_eq_whole_iff.mpr ⟨rfl, hne, fun h => hsplit ⟨h.1, h.2.2⟩⟩
      cases hfound : of? n u { spec with gpuMemoryGb := 0 } isPartitioned pick with
      | none => exact .inr rfl
      | some c =>
        have hle := hcover (-1) c hlargest ((of?_congr_claim (hlargest.trans hzero.symm)).trans hfound)
        have hmax : (-1 : UInt64).toNat + 1 = UInt64.size := by decide
        exact .inl (by omega)
  · rintro (⟨rfl, hper⟩ | hlarge | hnone) memoryGb c hclaim hc
    · have hlt := UInt64.lt_iff_toNat_lt.mp (Claim.memoryGb_lt_of_whole hclaim rfl hper)
      have hmul := Nat.mul_le_mul_left spec.gpuCount.toNat (UInt64.lt_iff_toNat_lt.mp hper)
      rw [UInt64.toNat_zero] at hmul
      omega
    · have hlt := memoryGb.toNat_lt
      have hsize : UInt64.size = 2 ^ 64 := rfl
      omega
    · rw [of?_congr_claim (hclaim.trans hzero.symm), hnone] at hc
      cases hc

/-- On two cards of 40 GB that may be split, 1 GB over both is for whole cards, and all that is for whole cards
is covered. -/
theorem covered_two_cards : 0 < (cardSpec 2 0).gpuCount ∧
    Claim.of? 2 1 true twoCards.perCardGb = some (.whole 2) ∧
    (∃ c, of? twoCards (.untouched twoCards) (cardSpec 2 1) true Ledger.packFirst = some c) ∧
    ∀ (memoryGb : UInt64) (c : Candidate), Claim.of? 2 memoryGb true twoCards.perCardGb = some (.whole 2) →
      of? twoCards (.untouched twoCards) (cardSpec 2 memoryGb) true Ledger.packFirst = some c →
        memoryGb.toNat ≤ 2 * 40 := by
  have hgpu : 0 < (cardSpec 2 0).gpuCount := by decide
  have hfound : (of? twoCards (.untouched twoCards) (cardSpec 2 1) true Ledger.packFirst).isSome = true := by
    decide +kernel
  exact ⟨hgpu, by decide, Option.isSome_iff_exists.mp hfound,
    (covered_iff hgpu).2.mpr (.inl ⟨rfl, by decide⟩)⟩

/-- **A candidate with less memory than is required of it**: one card of 40 GB for 9999 GB. -/
theorem uncovered_candidate : 0 < (cardSpec 1 9999).gpuCount ∧
    Claim.of? (cardSpec 1 9999).gpuCount (cardSpec 1 9999).gpuMemoryGb false twoCards.perCardGb =
      some (.whole 1) ∧
    (∃ c, of? twoCards (.untouched twoCards) (cardSpec 1 9999) false Ledger.packFirst = some c) ∧
    ¬ (cardSpec 1 9999).gpuMemoryGb.toNat ≤
      (cardSpec 1 9999).gpuCount.toNat * twoCards.perCardGb.toNat := by
  have hfound : (of? twoCards (.untouched twoCards) (cardSpec 1 9999) false Ledger.packFirst).isSome = true := by
    decide +kernel
  exact ⟨by decide, by decide, Option.isSome_iff_exists.mp hfound, by decide⟩

end Candidate

end FleetControl
