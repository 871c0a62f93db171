import FleetControl.Proofs.Gpu.Account

/-!
# Histories of a ledger

A ledger serves calls one after another, and each call returns the cards that its claim got. A whole
card is exclusive when no other call of the history, before or after, gets it too.

Nothing in a ledger marks a card as exclusive: a card is taken when its usage is not zero. So
exclusiveness follows from the account of each card (`Grant.room_of_mem_history`) as long as every
claim takes something of its cards, and that fails exactly where the capacity of a card is unknown: a
whole claim on a card of no capacity leaves the card untouched, and the next call gets it again
(`exclusive_history_iff`).
-/

namespace FleetControl

namespace Claim

/-- The claim is for whole cards. -/
def IsWhole (c : Claim) : Prop := c = whole c.cards

/-- **The claim is one that a request makes** on cards of that capacity. -/
def MadeFor (perCardGb : UInt64) (c : Claim) : Prop :=
  ∃ cards memoryGb isPartitioned, of? cards memoryGb isPartitioned perCardGb = some c

variable {c : Claim} {perCardGb : UInt64}

/-- A whole claim takes all of each of its cards. -/
theorem IsWhole.partGb_eq (h : c.IsWhole) : c.partGb perCardGb = perCardGb := by
  rw [h]
  rfl

/-- Where the capacity of a card is known, every claim takes something of its cards. -/
theorem MadeFor.partGb_pos (h : MadeFor perCardGb c) (hpos : 0 < perCardGb) :
    0 < c.partGb perCardGb := by
  obtain ⟨cards, memoryGb, isPartitioned, h⟩ := h
  unfold of? at h
  split at h
  · cases h
  · simp only at h
    split at h
    · rename_i hslice
      obtain rfl := Option.some.inj h
      exact hslice.2.1
    · obtain rfl := Option.some.inj h
      exact hpos

/-- Where the capacity of a card is not known, whole cards are claimed. -/
theorem MadeFor.isWhole (h : MadeFor 0 c) : c.IsWhole := by
  obtain ⟨cards, memoryGb, isPartitioned, h⟩ := h
  unfold of? at h
  split at h
  · cases h
  · simp only at h
    split at h
    · rename_i hslice
      exact absurd hslice.2.2 (by decide)
    · obtain rfl := Option.some.inj h
      rfl

end Claim

namespace Ledger

/-- **A call on a ledger.** -/
inductive Call where
  | allocate (c : Claim)
  | replay (c : Claim)
deriving Repr, DecidableEq

namespace Call

def claim : Call → Claim
  | allocate c => c
  | replay c => c

/-- The cards that a call returns, none where it fails, and the ledger after it. -/
def serve (pick : Strategy) (l : Ledger) : Call → List Nat × Ledger
  | allocate c => ((l.allocate pick c).1.getD [], (l.allocate pick c).2)
  | replay c => l.replay pick c

end Call

/-- A claim and the cards that it got. -/
structure Grant where
  claim : Claim
  cards : List Nat
deriving Repr, DecidableEq

/-- **What a ledger grants**, call by call. -/
def history (pick : Strategy) : Ledger → List Call → List Grant
  | _, [] => []
  | l, call :: rest =>
    ⟨call.claim, (call.serve pick l).1⟩ :: history pick (call.serve pick l).2 rest

/-- **A card that a whole claim got is no other claim's**, earlier or later. -/
def Exclusive (grants : List Grant) : Prop :=
  grants.Pairwise fun a b => a.claim.IsWhole ∨ b.claim.IsWhole → List.Disjoint a.cards b.cards

variable {pick : Strategy} {l : Ledger}

/-! ## One call -/

/-- A call returns the cards of its claim's plan, or none. -/
theorem Call.serve_cards (pick : Strategy) (l : Ledger) (call : Call) :
    (call.serve pick l).1 = l.plan pick call.claim ∨ (call.serve pick l).1 = [] := by
  cases call with
  | replay c => exact .inl rfl
  | allocate c =>
    simp only [serve, Ledger.allocate, claim]
    split
    · exact .inr rfl
    · exact .inl rfl

/-- **A call commits its claim on the cards that it returns**, and does nothing else: a failed allocation returns
none and leaves the ledger as it was. -/
theorem Call.serve_ledger (pick : Strategy) (l : Ledger) (call : Call) :
    (call.serve pick l).2 = l.commit call.claim (call.serve pick l).1 := by
  cases call with
  | replay c => rfl
  | allocate c =>
    simp only [serve, Ledger.allocate, claim]
    split <;> rfl

/-- The cards of a call are distinct and fit. -/
theorem Call.serve_sound (hp : pick.Sound) (l : Ledger) (call : Call) :
    (call.serve pick l).1.Nodup ∧ ∀ card ∈ (call.serve pick l).1, l.Fits call.claim card := by
  rcases call.serve_cards pick l with h | h <;> rw [h]
  · exact ⟨plan_nodup hp l call.claim, plan_fits hp⟩
  · exact ⟨List.nodup_nil, fun _ hc => absurd hc List.not_mem_nil⟩

/-- A call keeps a ledger within its capacity. -/
theorem Bounded.serve (hb : l.Bounded) (pick : Strategy) (call : Call) :
    (call.serve pick l).2.Bounded := by
  rw [call.serve_ledger]
  exact hb.commit _ _

theorem perCardGb_serve (pick : Strategy) (l : Ledger) (call : Call) :
    (call.serve pick l).2.perCardGb = l.perCardGb := by
  rw [call.serve_ledger, perCardGb_commit]

/-- **A call adds exactly a part of its claim to each card that it returns**, and nothing to another. -/
theorem holdsGb_serve (hp : pick.Sound) (hb : l.Bounded) (call : Call) (card : Nat) :
    (call.serve pick l).2.holdsGb card = l.holdsGb card +
      if card ∈ (call.serve pick l).1 then (call.claim.partGb l.perCardGb).toNat else 0 := by
  rw [call.serve_ledger]
  exact holdsGb_commit hb (call.serve_sound hp l).1 (call.serve_sound hp l).2 card

/-! ## Whole histories -/

/-- **A card that is granted has room for the grant on top of what it held before all of the
history**: what earlier calls took of it stays taken. -/
theorem Grant.room_of_mem_history (hp : pick.Sound) : ∀ {calls : List Call} {l : Ledger} {g : Grant}
    {card : Nat}, l.Bounded → g ∈ l.history pick calls → card ∈ g.cards →
      l.holdsGb card + (g.claim.partGb l.perCardGb).toNat ≤ l.perCardGb.toNat
  | [], _, _, _, _, hg, _ => absurd hg List.not_mem_nil
  | call :: rest, l, g, card, hb, hg, hcard => by
    rcases List.mem_cons.mp hg with rfl | hg
    · exact ((call.serve_sound hp l).2 card hcard).room hb
    · have ih := room_of_mem_history hp (hb.serve pick call) hg hcard
      have hadd := holdsGb_serve hp hb call card
      rw [perCardGb_serve] at ih
      omega

/-- What is granted in a history is granted for a claim of one of its calls. -/
theorem Grant.claim_of_mem_history : ∀ {calls : List Call} {l : Ledger} {g : Grant},
    g ∈ l.history pick calls → ∃ call ∈ calls, g.claim = call.claim
  | [], _, _, hg => absurd hg List.not_mem_nil
  | call :: rest, l, g, hg => by
    rcases List.mem_cons.mp hg with rfl | hg
    · exact ⟨call, List.mem_cons_self, rfl⟩
    · obtain ⟨other, ho, hclaim⟩ := claim_of_mem_history hg
      exact ⟨other, List.mem_cons_of_mem _ ho, hclaim⟩

/-- **Whole cards are exclusive where every claim takes something of its cards.** A grant on a card leaves no room
for a whole claim on it afterwards, and a whole grant leaves room for nothing. -/
theorem exclusive_history (hp : pick.Sound) : ∀ {calls : List Call} {l : Ledger}, l.Bounded →
    (∀ call ∈ calls, 0 < call.claim.partGb l.perCardGb) → Exclusive (l.history pick calls)
  | [], _, _, _ => List.Pairwise.nil
  | call :: rest, l, hb, hpos => by
    have hb' := hb.serve pick call
    have hpos' : ∀ other ∈ rest, 0 < other.claim.partGb (call.serve pick l).2.perCardGb := by
      intro other ho
      rw [perCardGb_serve]
      exact hpos other (List.mem_cons_of_mem _ ho)
    refine List.pairwise_cons.mpr ⟨fun g hg hwhole card hfirst hlater => ?_,
      exclusive_history hp hb' hpos'⟩
    -- the later grant has to find room on top of the part of the first, and one of the two is a card
    have hroom := Grant.room_of_mem_history hp hb' hg hlater
    have hadd := holdsGb_serve hp hb call card
    rw [if_pos (show card ∈ (call.serve pick l).1 from hfirst)] at hadd
    obtain ⟨other, ho, hclaim⟩ := Grant.claim_of_mem_history hg
    have hlate := UInt64.lt_iff_toNat_lt.mp (hpos' other ho)
    have hcall := UInt64.lt_iff_toNat_lt.mp (hpos call List.mem_cons_self)
    rw [← hclaim] at hlate
    rw [perCardGb_serve] at hroom hlate
    rw [UInt64.toNat_zero] at hcall hlate
    rcases hwhole with hwhole | hwhole
    · have hcard : call.claim.partGb l.perCardGb = l.perCardGb := hwhole.partGb_eq
      rw [hcard] at hadd hcall
      omega
    · have hcard : g.claim.partGb l.perCardGb = l.perCardGb := hwhole.partGb_eq
      rw [hcard] at hroom
      omega

/-! ## Cards of unknown capacity -/

/-- What was chosen stays chosen. -/
theorem mem_planFrom {c : Claim} {card : Nat} : ∀ {n : Nat} {chosen : List Nat}, card ∈ chosen →
    card ∈ l.planFrom pick c n chosen
  | 0, _, h => h
  | n + 1, chosen, h => by
    unfold planFrom
    split
    · exact h
    · exact mem_planFrom (List.mem_append_left _ h)

/-- Where nothing is in use, the first card picked for a whole claim is the first card. -/
theorem packFirst_whole_first (hb : l.Bounded) (hzero : l.perCardGb = 0) {n : UInt64} {card : Nat}
    (h : packFirst l (.whole n) [] = some card) : card = 0 := by
  have hopen := List.mem_of_find?_eq_some h
  obtain ⟨k, hk⟩ : ∃ k, l.cardCount = k + 1 :=
    Nat.exists_eq_succ_of_ne_zero (Nat.ne_of_gt (Nat.zero_lt_of_lt (mem_openCards hopen).1))
  have hfirst : l.isUnused 0 := by
    have hlt : 0 < l.usage.length := by
      show 0 < l.cardCount
      omega
    have hle := hb _ (List.getElem_mem hlt)
    rw [hzero] at hle
    rw [isUnused, List.getElem?_eq_getElem hlt, UInt64.le_zero_iff.mp hle]
    rfl
  have hcards : l.openCards [] = 0 :: (List.range k).map Nat.succ := by
    simp [openCards, hk, List.range_succ_eq_map]
  simp only [packFirst, hcards, List.find?_cons_of_pos hfirst, Option.some.injEq] at h
  exact h.symm

/-- **Every call that gets cards of no capacity gets the first card**: none is ever in use, so the search begins
at the first each time. -/
theorem Call.zero_mem_serve (hb : l.Bounded) (hzero : l.perCardGb = 0) {call : Call}
    (hwhole : call.claim.IsWhole) (h : (call.serve packFirst l).1 ≠ []) :
    0 ∈ (call.serve packFirst l).1 := by
  rcases call.serve_cards packFirst l with hplan | hnone
  · rw [hplan] at h ⊢
    rw [plan] at h ⊢
    cases hn : call.claim.cards.toNat with
    | zero => rw [hn] at h; exact absurd rfl h
    | succ n =>
      rw [hn] at h
      unfold planFrom at h ⊢
      split
      · rename_i hpick
        simp only [hpick, ne_eq, not_true] at h
      · rename_i card hpick
        rw [hwhole] at hpick
        obtain rfl := packFirst_whole_first hb hzero hpick
        exact mem_planFrom (List.mem_append_right _ List.mem_cons_self)
  · exact absurd hnone h

/-- Grants of cards of no capacity all share the first card. -/
theorem Grant.zero_mem_of_mem_history : ∀ {calls : List Call} {l : Ledger} {g : Grant}, l.Bounded →
    l.perCardGb = 0 → (∀ call ∈ calls, call.claim.IsWhole) → g ∈ l.history packFirst calls →
      g.cards ≠ [] → 0 ∈ g.cards
  | [], _, _, _, _, _, hg, _ => absurd hg List.not_mem_nil
  | call :: rest, l, g, hb, hzero, hwhole, hg, hne => by
    rcases List.mem_cons.mp hg with rfl | hg
    · exact call.zero_mem_serve hb hzero (hwhole call List.mem_cons_self) hne
    · exact zero_mem_of_mem_history (hb.serve packFirst call)
        ((perCardGb_serve packFirst l call).trans hzero)
        (fun other ho => hwhole other (List.mem_cons_of_mem _ ho)) hg hne

/-- The grants that got cards. -/
def served (grants : List Grant) : List Grant := grants.filter fun g => g.cards ≠ []

/-- No two of the grants got cards. -/
theorem length_served_le_one_iff {grants : List Grant} : (served grants).length ≤ 1 ↔
    grants.Pairwise fun a b => a.cards = [] ∨ b.cards = [] := by
  have hfalse : ∀ {xs : List Grant}, xs.length ≤ 1 ↔ xs.Pairwise fun _ _ => False := by
    intro xs
    match xs with
    | [] => simp
    | [a] => simp
    | a :: b :: rest =>
      refine ⟨fun h => absurd h (by simp), fun h => ?_⟩
      exact ((List.pairwise_cons.mp h).1 b List.mem_cons_self).elim
  rw [hfalse, served, List.pairwise_filter]
  refine List.Pairwise.iff fun a b => ?_
  by_cases ha : a.cards = [] <;> by_cases hb : b.cards = [] <;> simp [ha, hb]

/-- **Exactly when whole cards are exclusive**: in a history of claims that requests make, no card
that a whole claim got is another claim's, unless the capacity of a card is unknown and more than one
call got cards. -/
theorem exclusive_history_iff (cards perCardGb : UInt64) (calls : List Call)
    (hmade : ∀ call ∈ calls, call.claim.MadeFor perCardGb) :
    Exclusive ((untouched cards perCardGb).history packFirst calls) ↔
      0 < perCardGb ∨ (served ((untouched cards perCardGb).history packFirst calls)).length ≤ 1 := by
  have hb := untouched_bounded cards perCardGb
  constructor
  · intro hex
    by_cases hpos : 0 < perCardGb
    · exact .inl hpos
    · obtain rfl : perCardGb = 0 := UInt64.le_zero_iff.mp (UInt64.not_lt.mp hpos)
      have hwhole : ∀ call ∈ calls, call.claim.IsWhole := fun call hc => (hmade call hc).isWhole
      -- two grants with cards would share the first card, and both are for whole cards
      refine .inr (length_served_le_one_iff.mpr (hex.imp_of_mem fun {a b} ha hb' hdis => ?_))
      by_contra hne
      obtain ⟨hna, hnb⟩ := not_or.mp hne
      obtain ⟨call, hcall, hclaim⟩ := Grant.claim_of_mem_history ha
      exact hdis (.inl (hclaim ▸ hwhole call hcall))
        (Grant.zero_mem_of_mem_history hb rfl hwhole ha hna)
        (Grant.zero_mem_of_mem_history hb rfl hwhole hb' hnb)
  · rintro (hpos | hone)
    · exact exclusive_history packFirst_sound hb fun call hc => (hmade call hc).partGb_pos hpos
    · refine (length_served_le_one_iff.mp hone).imp fun {a b} hnone _ card ha hb' => ?_
      rcases hnone with hnone | hnone
      · exact absurd (hnone ▸ ha) List.not_mem_nil
      · exact absurd (hnone ▸ hb') List.not_mem_nil

/-- Two cards of 40 GB: a whole claim gets the first, a slice the second, and a whole claim after
them gets none. -/
theorem exclusive_two_cards :
    (∀ call ∈ [Call.allocate (.whole 1), .replay (.partitioned 1 10), .replay (.whole 1)],
      call.claim.MadeFor 40) ∧
    Exclusive ((untouched 2 40).history packFirst
      [.allocate (.whole 1), .replay (.partitioned 1 10), .replay (.whole 1)]) := by
  have hmade : ∀ call ∈ [Call.allocate (.whole 1), .replay (.partitioned 1 10), .replay (.whole 1)],
      call.claim.MadeFor 40 := by
    intro call hc
    simp only [List.mem_cons, List.not_mem_nil, or_false] at hc
    rcases hc with rfl | rfl | rfl
    · exact ⟨1, 40, false, by decide⟩
    · exact ⟨1, 10, true, by decide⟩
    · exact ⟨1, 40, false, by decide⟩
  exact ⟨hmade, (exclusive_history_iff 2 40 _ hmade).mpr (.inl (by decide))⟩

/-- **A card of unknown capacity is granted twice**: the first whole claim leaves it untouched. -/
theorem not_exclusive_of_unknown_capacity :
    (∀ call ∈ [Call.allocate (.whole 1), .allocate (.whole 1)], call.claim.MadeFor 0) ∧
    ¬ Exclusive ((untouched 1 0).history packFirst [.allocate (.whole 1), .allocate (.whole 1)]) := by
  refine ⟨fun call hc => ?_, fun hex => ?_⟩
  · simp only [List.mem_cons, List.not_mem_nil, or_false, or_self] at hc
    exact hc ▸ ⟨1, 0, false, by decide⟩
  · have hgrants : (untouched 1 0).history packFirst [.allocate (.whole 1), .allocate (.whole 1)] =
        [⟨.whole 1, [0]⟩, ⟨.whole 1, [0]⟩] := by decide
    rw [hgrants] at hex
    exact (List.pairwise_cons.mp hex).1 _ List.mem_cons_self (.inl rfl) List.mem_cons_self
      List.mem_cons_self

end Ledger

end FleetControl
