import FleetControl.Placement.Candidate
import FleetControl.Proofs.Gpu.Account

/-!
# Room for a claim

Whether a card fits the next part of a claim depends on what the card holds and on nothing else
(`fits_iff`). A strategy that goes on as long as a card fits (`Strategy.Eager`) therefore finds as many
cards as the claim asks for or as there are (`length_plan`), and a claim is allocated exactly where
enough cards fit it (`allocate_isSome_iff`); which of them the strategy prefers is of no account.

So a ledger whose cards hold less (`Ledger.Lighter`) takes every claim that one whose cards hold more
takes. What the preference does decide is how the cards are left for the claims that come later.
-/

namespace FleetControl

/-- **A card that holds so much fits the claim**: it holds nothing, or has room for the slice. -/
def Claim.Allows (perCardGb : UInt64) (held : Nat) : Claim → Prop
  | whole _ => held = 0
  | partitioned _ slice => slice.toNat ≤ perCardGb.toNat - held

instance (perCardGb : UInt64) (held : Nat) : ∀ c : Claim, Decidable (c.Allows perCardGb held)
  | .whole _ => inferInstanceAs (Decidable (held = 0))
  | .partitioned _ slice => inferInstanceAs (Decidable (slice.toNat ≤ perCardGb.toNat - held))

/-- A card that holds less fits as well. -/
theorem Claim.Allows.mono {perCardGb : UInt64} {held held' : Nat} {c : Claim} (hle : held ≤ held')
    (h : c.Allows perCardGb held') : c.Allows perCardGb held := by
  cases c with
  | whole n =>
    have hzero : held' = 0 := h
    exact Nat.eq_zero_of_le_zero (hzero ▸ hle)
  | partitioned n slice =>
    have hroom : slice.toNat ≤ perCardGb.toNat - held' := h
    show slice.toNat ≤ perCardGb.toNat - held
    omega

/-- **A strategy that picks a card as long as one fits** that is not chosen yet. -/
def Strategy.Eager (pick : Strategy) : Prop :=
  ∀ l c chosen, pick l c chosen = none → ∀ card, l.Fits c card → card ∈ chosen

namespace Ledger

variable {l l' : Ledger} {c : Claim} {pick : Strategy} {card : Nat}

/-! ## Cards that fit -/

/-- The free memory of a card is what is missing to its capacity, as an exact number. -/
theorem toNat_free (l : Ledger) (used : UInt64) :
    (l.free used).toNat = l.perCardGb.toNat - used.toNat := by
  unfold free
  split
  · rename_i hle
    exact UInt64.toNat_sub_of_le _ _ hle
  · rename_i hlt
    have hlt := UInt64.lt_iff_toNat_lt.mp (UInt64.not_le.mp hlt)
    rw [UInt64.toNat_zero]
    omega

/-- A card that exists has an entry, which is what it holds. -/
theorem getElem?_usage (h : card < l.cardCount) :
    ∃ used, l.usage[card]? = some used ∧ l.holdsGb card = used.toNat := by
  have hget : l.usage[card]? = some l.usage[card] := List.getElem?_eq_getElem h
  exact ⟨_, hget, by rw [holdsGb, hget]; rfl⟩

/-- The headroom of a card that exists is what is missing to its capacity, as an exact number. -/
theorem toNat_headroom (h : card < l.cardCount) :
    (l.headroom card).toNat = l.perCardGb.toNat - l.holdsGb card := by
  obtain ⟨used, hget, hheld⟩ := getElem?_usage h
  rw [hheld, ← toNat_free, headroom, hget]

/-- A card is untouched where it exists and holds nothing; nothing else marks it. -/
theorem isUnused_iff : l.isUnused card = true ↔ card < l.cardCount ∧ l.holdsGb card = 0 := by
  rw [isUnused, beq_iff_eq]
  constructor
  · intro h
    exact ⟨(List.getElem?_eq_some_iff.mp h).1, by rw [holdsGb, h]; rfl⟩
  · rintro ⟨hlt, hzero⟩
    obtain ⟨used, hget, hheld⟩ := getElem?_usage hlt
    rw [hget, Option.some_inj, ← UInt64.toNat_inj, ← hheld, hzero]
    rfl

/-- **A card fits by what it holds**, and by nothing else: neither its number nor its history has a part in it. -/
theorem fits_iff : l.Fits c card ↔ card < l.cardCount ∧ c.Allows l.perCardGb (l.holdsGb card) := by
  cases c with
  | whole n => exact isUnused_iff
  | partitioned n slice =>
    refine and_congr_right fun hlt => ?_
    rw [UInt64.le_iff_toNat_le, toNat_headroom hlt]
    rfl

instance (l : Ledger) (c : Claim) (card : Nat) : Decidable (l.Fits c card) :=
  decidable_of_iff _ fits_iff.symm

/-- The cards that fit a claim. -/
def fitting (l : Ledger) (c : Claim) : List Nat := (List.range l.cardCount).filter fun card => l.Fits c card

/-- The cards that fit are those that a strategy may take. -/
theorem mem_fitting : card ∈ l.fitting c ↔ l.Fits c card := by
  rw [fitting, List.mem_filter, List.mem_range, decide_eq_true_iff]
  exact and_iff_right_of_imp fun h => (fits_iff.mp h).1

/-- The cards that fit are listed once each. -/
theorem fitting_nodup (l : Ledger) (c : Claim) : (l.fitting c).Nodup := List.nodup_range.filter _

/-- A count over the cards is one over what they hold. -/
theorem countP_usage (l : Ledger) (p : Nat → Bool) :
    (l.usage.countP fun used => p used.toNat) =
      (List.range l.cardCount).countP fun card => p (l.holdsGb card) := by
  have hmap : l.usage.map UInt64.toNat = (List.range l.cardCount).map l.holdsGb := by
    refine List.ext_getElem (by simp [cardCount]) fun i hi _ => ?_
    have hlt : i < l.usage.length := by simpa using hi
    simp [holdsGb, hlt]
  have hcount := congrArg (List.countP p) hmap
  rwa [List.countP_map, List.countP_map] at hcount

/-- **The usable cards are those that fit.** The count reads the usage of each card, the other side goes by the
numbers of the cards. -/
theorem usableCards_eq (l : Ledger) (c : Claim) : Candidate.usableCards l c = (l.fitting c).length := by
  have hcount : Candidate.usableCards l c =
      l.usage.countP fun used => decide (c.Allows l.perCardGb used.toNat) := by
    cases c with
    | whole n =>
      refine List.countP_congr fun used _ => ?_
      rw [beq_iff_eq, decide_eq_true_iff, ← UInt64.toNat_inj]
      rfl
    | partitioned n slice =>
      refine List.countP_congr fun used _ => ?_
      rw [decide_eq_true_iff, decide_eq_true_iff, UInt64.le_iff_toNat_le, toNat_free]
      rfl
  rw [hcount, countP_usage l fun held => decide (c.Allows l.perCardGb held), fitting,
    ← List.countP_eq_length_filter]
  refine List.countP_congr fun card hcard => ?_
  rw [decide_eq_true_iff, decide_eq_true_iff, fits_iff]
  exact (and_iff_right (List.mem_range.mp hcard)).symm

/-- No more cards are usable than there are. -/
theorem usableCards_le (l : Ledger) (c : Claim) : Candidate.usableCards l c ≤ l.cardCount := by
  rw [usableCards_eq, fitting]
  exact (List.length_filter_le _ _).trans_eq List.length_range

/-! ## Plans -/

/-- A plan goes on until it has all the cards that it asks for, or all that fit; the induction is on the cards
that it may still add. -/
theorem planFrom_eager (he : pick.Eager) (l : Ledger) (c : Claim) : ∀ (n : Nat) (chosen : List Nat),
    (l.planFrom pick c n chosen).length = n + chosen.length ∨
      ∀ card, l.Fits c card → card ∈ l.planFrom pick c n chosen
  | 0, _ => .inl (Nat.zero_add _).symm
  | n + 1, chosen => by
    unfold planFrom
    split
    · rename_i hnone
      exact .inr (he l c chosen hnone)
    · refine (planFrom_eager he l c n _).imp_left fun hlen => ?_
      rw [hlen, List.length_append, List.length_singleton]
      omega

/-- **A plan has as many cards as the claim asks for, or as there are usable**, whichever are preferred. -/
theorem length_plan (hp : pick.Sound) (he : pick.Eager) (l : Ledger) (c : Claim) :
    (l.plan pick c).length = min c.cards.toNat (Candidate.usableCards l c) := by
  have hasked := length_plan_le hp l c
  have hfit : (l.plan pick c).length ≤ (l.fitting c).length := by
    refine (List.subperm_of_subset (plan_nodup hp l c) fun card hcard => ?_).length_le
    exact mem_fitting.mpr (plan_fits hp card hcard)
  rw [usableCards_eq]
  rcases planFrom_eager he l c c.cards.toNat [] with hlen | hall
  · have hlen : (l.plan pick c).length = c.cards.toNat := hlen
    omega
  · have hle : (l.fitting c).length ≤ (l.plan pick c).length := by
      refine (List.subperm_of_subset (fitting_nodup l c) fun card hcard => ?_).length_le
      exact hall card (mem_fitting.mp hcard)
    omega

/-- **A claim is allocated exactly where enough cards are usable**, for every strategy that takes only what fits
and goes on as long as something does. -/
theorem allocate_isSome_iff (hp : pick.Sound) (he : pick.Eager) :
    (l.allocate pick c).1.isSome = true ↔ c.cards.toNat ≤ Candidate.usableCards l c := by
  have hlen := length_plan hp he l c
  by_cases hlt : (l.plan pick c).length < c.cards.toNat
  · simp only [allocate, if_pos hlt, Option.isSome_none, Bool.false_eq_true, false_iff]
    omega
  · simp only [allocate, if_neg hlt, Option.isSome_some, true_iff]
    omega

/-! ## Ledgers whose cards hold less -/

/-- **Of two ledgers on the same cards, the first holds no more on any card.** -/
structure Lighter (l l' : Ledger) : Prop where
  perCardGb : l'.perCardGb = l.perCardGb
  cardCount : l'.cardCount = l.cardCount
  holdsGb : ∀ card, l.holdsGb card ≤ l'.holdsGb card

/-- A ledger holds no more than itself. -/
theorem Lighter.refl (l : Ledger) : l.Lighter l := ⟨rfl, rfl, fun _ => Nat.le_refl _⟩

/-- A ledger that holds no more than a second holds no more than what the second holds no more than. -/
theorem Lighter.trans {l'' : Ledger} (h₁ : l.Lighter l') (h₂ : l'.Lighter l'') : l.Lighter l'' :=
  ⟨h₂.perCardGb.trans h₁.perCardGb, h₂.cardCount.trans h₁.cardCount, fun card =>
    (h₁.holdsGb card).trans (h₂.holdsGb card)⟩

/-- A replay only adds. -/
theorem lighter_replay (hp : pick.Sound) (hb : l.Bounded) (c : Claim) :
    l.Lighter (l.replay pick c).2 where
  perCardGb := perCardGb_replay l pick c
  cardCount := cardCount_replay l pick c
  holdsGb card := by
    have hadd := holdsGb_commit hb (plan_nodup hp l c) (plan_fits hp) card
    show l.holdsGb card ≤ (l.commit c (l.plan pick c)).holdsGb card
    omega

/-- What fits a card that holds more fits it when it holds less. -/
theorem Lighter.fits (h : l.Lighter l') (hfit : l'.Fits c card) : l.Fits c card := by
  obtain ⟨hlt, hallows⟩ := fits_iff.mp hfit
  rw [h.cardCount] at hlt
  rw [h.perCardGb] at hallows
  exact fits_iff.mpr ⟨hlt, hallows.mono (h.holdsGb card)⟩

/-- **Where cards hold more, no more of them are usable**, for any claim. -/
theorem Lighter.usableCards_le (h : l.Lighter l') (c : Claim) :
    Candidate.usableCards l' c ≤ Candidate.usableCards l c := by
  rw [usableCards_eq, usableCards_eq]
  refine (List.subperm_of_subset (fitting_nodup l' c) fun card hcard => ?_).length_le
  exact mem_fitting.mpr (h.fits (mem_fitting.mp hcard))

/-- A largest value is within a bound where all the values are. -/
theorem foldl_max_le_iff {α : Type} {f : α → UInt64} {bound : UInt64} : ∀ {as : List α} {start : UInt64},
    as.foldl (fun m a => max m (f a)) start ≤ bound ↔ start ≤ bound ∧ ∀ a ∈ as, f a ≤ bound
  | [], _ => by simp
  | a :: rest, start => by
    rw [List.foldl_cons, foldl_max_le_iff, List.forall_mem_cons, ← and_assoc]
    refine and_congr_left fun _ => ?_
    simp only [UInt64.le_iff_toNat_le, UInt64.toNat_max]
    omega

/-- **The largest headroom is within a bound** where that of every card is; on a ledger without cards it is
nothing, which is within every bound. -/
theorem maxHeadroom_le_iff {bound : UInt64} :
    l.maxHeadroom ≤ bound ↔ ∀ card < l.cardCount, l.headroom card ≤ bound := by
  have hget : ∀ card used, l.usage[card]? = some used → l.headroom card = l.free used := by
    intro card used hget
    rw [headroom, hget]
  rw [maxHeadroom, foldl_max_le_iff, and_iff_right UInt64.zero_le]
  constructor
  · intro h card hlt
    obtain ⟨used, hused, _⟩ := getElem?_usage hlt
    rw [hget card used hused]
    exact h used (List.mem_of_getElem? hused)
  · intro h used hmem
    obtain ⟨card, hused⟩ := List.mem_iff_getElem?.mp hmem
    rw [← hget card used hused]
    exact h card (List.getElem?_eq_some_iff.mp hused).1

/-- Where cards hold more, the largest headroom is no larger. -/
theorem Lighter.maxHeadroom_le (h : l.Lighter l') : l'.maxHeadroom ≤ l.maxHeadroom := by
  refine maxHeadroom_le_iff.mpr fun card hlt => ?_
  have hlt' : card < l.cardCount := h.cardCount ▸ hlt
  have hheld := h.holdsGb card
  have hmax := maxHeadroom_le_iff.mp (UInt64.le_refl l.maxHeadroom) card hlt'
  rw [UInt64.le_iff_toNat_le] at hmax ⊢
  rw [toNat_headroom hlt'] at hmax
  rw [toNat_headroom hlt, h.perCardGb]
  omega

/-! ## Packing -/

/-- A tightest card is found as soon as there is a card. -/
theorem tightest_eq_none : ∀ {cards : List Nat}, l.tightest cards = none → cards = []
  | [], _ => rfl
  | card :: rest, h => by
    unfold tightest at h
    split at h
    · cases h
    · split at h <;> cases h

/-- **The packing strategy picks a card as long as one fits.** -/
theorem packFirst_eager : Strategy.Eager packFirst := by
  intro l c chosen hnone card hfit
  by_contra hnew
  have hlt : card < l.cardCount := (fits_iff.mp hfit).1
  have hopen : card ∈ l.openCards chosen := by
    rw [openCards, List.mem_filter, List.mem_range]
    exact ⟨hlt, by simpa using hnew⟩
  cases c with
  | whole n => exact List.find?_eq_none.mp hnone card hopen hfit
  | partitioned n slice =>
    obtain ⟨hpartly, hunused⟩ := Option.or_eq_none_iff.mp hnone
    have hroom : slice ≤ l.headroom card := hfit.2
    by_cases hzero : l.isUnused card = true
    -- an untouched card has room for as much as a card holds
    · have hper : slice ≤ l.perCardGb := by
        rw [UInt64.le_iff_toNat_le, toNat_headroom hlt, (isUnused_iff.mp hzero).2] at hroom
        exact UInt64.le_iff_toNat_le.mpr hroom
      refine List.find?_eq_none.mp hunused card hopen ?_
      rw [hzero, Bool.true_and, decide_eq_true_iff]
      exact hper
    · have hmem : card ∈ (l.openCards chosen).filter fun card => !l.isUnused card && slice ≤ l.headroom card := by
        rw [List.mem_filter]
        exact ⟨hopen, by simp [hzero, hroom]⟩
      rw [tightest_eq_none hpartly] at hmem
      exact absurd hmem List.not_mem_nil

end Ledger

end FleetControl
