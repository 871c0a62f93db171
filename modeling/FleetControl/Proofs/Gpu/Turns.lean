import FleetControl.Proofs.Gpu.History

/-!
# Turns of a ledger

A ledger consults a strategy for each card and trusts the answer. Here every call comes with a strategy of
its own (`Turn`): a strategy that remembers what it answered, or one that errs now and then, is another
strategy in each turn.

**Whatever is answered** (`safe_after`): cards that were used already, named twice or do not exist do no
harm to a ledger. No card is added or lost, none holds more than its capacity or less than before, and a
card that was not granted holds what it held. All of that is in how a claim is committed; the one thing a
caller has to see to is that no sum of memory overflows (`RunsWithoutOverflow`).

**Where the answers fit** (`exact_after`): each card holds the sum of the parts that were granted on it.
No part is cut short at the capacity of a card, and none is lost or counted twice.
-/

namespace FleetControl

/-- Memory that is added to each card of a claim; a whole card is filled, not added to. -/
def Claim.sliceGb : Claim → UInt64
  | whole _ => 0
  | partitioned _ slice => slice

namespace Ledger

/-- **A call and the strategy that it consults.** -/
structure Turn where
  pick : Strategy
  call : Call

/-- The cards that a turn is granted, none where its call fails, and the ledger after it. -/
def Turn.serve (t : Turn) (l : Ledger) : List Nat × Ledger := t.call.serve t.pick l

/-- **The ledger after some turns.** -/
def after : Ledger → List Turn → Ledger
  | l, [] => l
  | l, t :: rest => after (t.serve l).2 rest

/-- **What the turns are granted**, turn by turn. -/
def grants : Ledger → List Turn → List Grant
  | _, [] => []
  | l, t :: rest => ⟨t.call.claim, (t.serve l).1⟩ :: grants (t.serve l).2 rest

/-- **No sum overflows when a claim is committed**: what a card holds by then and the slice together can
be counted. -/
def NoOverflow (c : Claim) : Ledger → List Nat → Prop
  | _, [] => True
  | l, card :: rest =>
    l.holdsGb card + c.sliceGb.toNat < 2 ^ 64 ∧ NoOverflow c (commitOne c l card) rest

/-- **No sum overflows in any of the turns.** -/
def RunsWithoutOverflow : Ledger → List Turn → Prop
  | _, [] => True
  | l, t :: rest => NoOverflow t.call.claim l (t.serve l).1 ∧ RunsWithoutOverflow (t.serve l).2 rest

/-- **Memory that was granted on a card**, as an exact number. -/
def grantedGb (perCardGb : UInt64) (gs : List Grant) (card : Nat) : Nat :=
  ((gs.filter fun g => card ∈ g.cards).map fun g => (g.claim.partGb perCardGb).toNat).sum

variable {l : Ledger} {c : Claim} {pick : Strategy} {card : Nat} {cards : List Nat} {t : Turn}
  {turns : List Turn}

/-! ## What a commit can do -/

/-- A commit leaves the other cards alone. -/
theorem getElem?_commit_of_notMem (h : card ∉ cards) : (l.commit c cards).usage[card]? = l.usage[card]? := by
  unfold commit
  induction cards generalizing l with
  | nil => rfl
  | cons first rest ih =>
    obtain ⟨hne, hrest⟩ := List.ne_and_not_mem_of_not_mem_cons h
    exact (ih hrest).trans ((getElem?_commitOne c l first card).trans (if_neg (Ne.symm hne)))

/-- A card is not emptied by what is committed on it, unless the sum overflows. -/
theorem le_filled {used : UInt64} (hle : used ≤ l.perCardGb)
    (hsum : used.toNat + c.sliceGb.toNat < 2 ^ 64) : used ≤ l.filled c used := by
  cases c with
  | whole n => exact hle
  | partitioned n slice =>
    have hadd : (used + slice).toNat = used.toNat + slice.toNat := by
      rw [UInt64.toNat_add]
      exact Nat.mod_eq_of_lt hsum
    rw [UInt64.le_iff_toNat_le] at hle
    simp only [filled, UInt64.le_iff_toNat_le, UInt64.toNat_min, hadd]
    omega

/-- A part that is committed on a card takes nothing from any card, where the sum does not overflow. -/
theorem holdsGb_le_commitOne (hb : l.Bounded) (hsum : l.holdsGb card + c.sliceGb.toNat < 2 ^ 64)
    (other : Nat) : l.holdsGb other ≤ (commitOne c l card).holdsGb other := by
  unfold holdsGb at hsum ⊢
  rw [getElem?_commitOne]
  split
  · rename_i he
    subst he
    cases hget : l.usage[card]? with
    | none => exact Nat.le_refl _
    | some used =>
      rw [hget] at hsum
      exact UInt64.le_iff_toNat_le.mp (le_filled (hb used (List.mem_of_getElem? hget)) hsum)
  · exact Nat.le_refl _

/-- **A commit takes nothing from a card**, even where it fills the same card again. -/
theorem holdsGb_le_commit (hb : l.Bounded) (hsum : NoOverflow c l cards) (other : Nat) :
    l.holdsGb other ≤ (l.commit c cards).holdsGb other := by
  induction cards generalizing l with
  | nil => exact Nat.le_refl _
  | cons card rest ih =>
    exact (holdsGb_le_commitOne hb hsum.1 other).trans (ih (hb.commitOne c card) hsum.2)

/-- A slice that can be counted on top of a full card overflows on none. -/
theorem noOverflow_of_capacity (hb : l.Bounded) (hsum : l.perCardGb.toNat + c.sliceGb.toNat < 2 ^ 64) :
    NoOverflow c l cards := by
  induction cards generalizing l with
  | nil => trivial
  | cons card rest ih =>
    have hle := holdsGb_le hb card
    exact ⟨by omega, ih (hb.commitOne c card) hsum⟩

/-! ## What a plan can be -/

/-- A plan adds no more cards than it may, whatever the strategy answers. -/
theorem length_planFrom_le (l : Ledger) (pick : Strategy) (c : Claim) : ∀ (n : Nat) (chosen : List Nat),
    (l.planFrom pick c n chosen).length ≤ n + chosen.length
  | 0, _ => Nat.le_add_left _ _
  | n + 1, chosen => by
    unfold planFrom
    split
    · exact Nat.le_add_left _ _
    · refine (length_planFrom_le l pick c n _).trans_eq ?_
      rw [List.length_append, List.length_singleton]
      omega

/-- **A claim is never granted more cards than it asks for.** -/
theorem length_replay_le (l : Ledger) (pick : Strategy) (c : Claim) :
    (l.replay pick c).1.length ≤ c.cards.toNat := length_planFrom_le l pick c _ []

/-- **A claim is allocated in full, or nothing happens.** -/
theorem allocate_none_or_full (l : Ledger) (pick : Strategy) (c : Claim) :
    l.allocate pick c = (none, l) ∨
      ∃ got, l.allocate pick c = (some got, l.commit c got) ∧ got.length = c.cards.toNat := by
  by_cases hlt : (l.plan pick c).length < c.cards.toNat
  · exact .inl (if_pos hlt)
  · exact .inr ⟨_, if_neg hlt, Nat.le_antisymm (length_replay_le l pick c) (Nat.not_lt.mp hlt)⟩

/-! ## Whatever is answered -/

/-- **A turn commits its claim on the cards that it is granted**, and does nothing else. -/
theorem Turn.serve_ledger (t : Turn) (l : Ledger) :
    (t.serve l).2 = l.commit t.call.claim (t.serve l).1 := t.call.serve_ledger t.pick l

theorem perCardGb_after : ∀ (turns : List Turn) (l : Ledger), (l.after turns).perCardGb = l.perCardGb
  | [], _ => rfl
  | t :: rest, l => (perCardGb_after rest _).trans (perCardGb_serve t.pick l t.call)

theorem cardCount_after : ∀ (turns : List Turn) (l : Ledger), (l.after turns).cardCount = l.cardCount
  | [], _ => rfl
  | t :: rest, l => by
    refine (cardCount_after rest _).trans ?_
    rw [t.serve_ledger, cardCount_commit]

/-- No turn leaves a card with more than its capacity, whatever its strategy answers. -/
theorem Bounded.after : ∀ (turns : List Turn) {l : Ledger}, l.Bounded → (l.after turns).Bounded
  | [], _, hb => hb
  | t :: rest, _, hb => Bounded.after rest (hb.serve t.pick t.call)

/-- **A card that no turn is granted holds what it held**, by induction on the turns. -/
theorem getElem?_after : ∀ {turns : List Turn} {l : Ledger}, (∀ g ∈ l.grants turns, card ∉ g.cards) →
    (l.after turns).usage[card]? = l.usage[card]?
  | [], _, _ => rfl
  | t :: rest, l, h => by
    obtain ⟨hfirst, hrest⟩ := List.forall_mem_cons.mp h
    refine (getElem?_after hrest).trans ?_
    rw [t.serve_ledger]
    exact getElem?_commit_of_notMem hfirst

/-- **No turn takes anything from a card**, as long as no sum overflows: filled cards stay filled. -/
theorem holdsGb_le_after : ∀ {turns : List Turn} {l : Ledger}, l.Bounded → l.RunsWithoutOverflow turns →
    ∀ card, l.holdsGb card ≤ (l.after turns).holdsGb card
  | [], _, _, _, _ => Nat.le_refl _
  | t :: rest, l, hb, hsums, card => by
    have hstep := holdsGb_le_commit hb hsums.1 card
    rw [← t.serve_ledger] at hstep
    exact hstep.trans (holdsGb_le_after (hb.serve t.pick t.call) hsums.2 card)

/-- Where every slice can be counted on top of a full card, no sum overflows. -/
theorem runsWithoutOverflow_of_capacity : ∀ {turns : List Turn} {l : Ledger}, l.Bounded →
    (∀ t ∈ turns, l.perCardGb.toNat + t.call.claim.sliceGb.toNat < 2 ^ 64) → l.RunsWithoutOverflow turns
  | [], _, _, _ => trivial
  | t :: rest, l, hb, h => by
    obtain ⟨hfirst, hrest⟩ := List.forall_mem_cons.mp h
    have hper : (t.serve l).2.perCardGb = l.perCardGb := perCardGb_serve t.pick l t.call
    exact ⟨noOverflow_of_capacity hb hfirst,
      runsWithoutOverflow_of_capacity (hb.serve t.pick t.call) (hper ▸ hrest)⟩

/-- **A ledger is safe whatever strategies answer**, in every turn of every history: after the turns
`before`, the turns `later` add no card and take none away, leave no card with more than its capacity or
less than it held, and change only cards that they are granted; and a call is granted all the cards of its
claim or leaves the ledger as it is, while a replay is granted at most those. -/
theorem safe_after (cards perCardGb : UInt64) (before later : List Turn)
    (hsums : ((untouched cards perCardGb).after before).RunsWithoutOverflow later) :
    let l := (untouched cards perCardGb).after before
    let l' := l.after later
    l'.cardCount = cards.toNat ∧
      (∀ used ∈ l'.usage, used ≤ perCardGb) ∧
      (∀ card, l.holdsGb card ≤ l'.holdsGb card) ∧
      (∀ card, (∀ g ∈ l.grants later, card ∉ g.cards) → l'.usage[card]? = l.usage[card]?) ∧
      ∀ pick c,
        (l'.allocate pick c = (none, l') ∨
          ∃ got, l'.allocate pick c = (some got, l'.commit c got) ∧ got.length = c.cards.toNat) ∧
        (l'.replay pick c).1.length ≤ c.cards.toNat := by
  intro l l'
  have hb : l.Bounded := (untouched_bounded cards perCardGb).after before
  have hper : l'.perCardGb = perCardGb := (perCardGb_after later l).trans (perCardGb_after before _)
  refine ⟨?_, hper ▸ hb.after later, holdsGb_le_after hb hsums, fun card => getElem?_after,
    fun pick c => ⟨allocate_none_or_full l' pick c, length_replay_le l' pick c⟩⟩
  rw [cardCount_after, cardCount_after]
  exact List.length_replicate

/-- Two cards of 40 GB, with answers that name a card twice, one that is full and one that does not
exist. -/
theorem safe_after_careless :
    let before : List Turn := [⟨fun _ _ _ => some 0, .allocate (.partitioned 2 15)⟩]
    let later : List Turn :=
      [⟨fun _ _ _ => some 0, .replay (.whole 1)⟩, ⟨fun _ _ chosen => some (chosen.length + 1),
        .allocate (.partitioned 2 5)⟩, ⟨fun _ _ _ => some 0, .allocate (.partitioned 1 5)⟩]
    ((untouched 2 40).after before).RunsWithoutOverflow later ∧
      (((untouched 2 40).after before).after later).cardCount = 2 ∧
      ∀ card, ((untouched 2 40).after before).holdsGb card ≤
        (((untouched 2 40).after before).after later).holdsGb card := by
  intro before later
  have hsums : ((untouched 2 40).after before).RunsWithoutOverflow later := by
    refine runsWithoutOverflow_of_capacity ((untouched_bounded 2 40).after before) ?_
    rw [perCardGb_after]
    decide
  have h := safe_after 2 40 before later hsums
  exact ⟨hsums, h.1, h.2.2.1⟩

/-- The sum that overflows empties a full card. -/
example : (commitOne (.partitioned 1 1) ⟨18446744073709551615, [18446744073709551615]⟩ 0).usage = [0] := by
  decide

/-! ## Where the answers fit -/

/-- The cards of a turn are distinct and fit. -/
theorem Turn.serve_sound (hp : t.pick.Sound) (l : Ledger) :
    (t.serve l).1.Nodup ∧ ∀ card ∈ (t.serve l).1, l.Fits t.call.claim card := t.call.serve_sound hp l

/-- The cards of every grant are distinct, where the strategies take only what fits. -/
theorem nodup_of_mem_grants : ∀ {turns : List Turn} {l : Ledger}, (∀ t ∈ turns, t.pick.Sound) →
    ∀ g ∈ l.grants turns, g.cards.Nodup
  | [], _, _, _, hg => absurd hg List.not_mem_nil
  | t :: rest, l, hp, g, hg => by
    obtain ⟨hfirst, hrest⟩ := List.forall_mem_cons.mp hp
    rcases List.mem_cons.mp hg with rfl | hg
    · exact (Turn.serve_sound hfirst l).1
    · exact nodup_of_mem_grants hrest g hg

/-- What was granted on a card is what the first grant gave of it, and what the others did. -/
theorem grantedGb_cons (perCardGb : UInt64) (g : Grant) (gs : List Grant) (card : Nat) :
    grantedGb perCardGb (g :: gs) card =
      (if card ∈ g.cards then (g.claim.partGb perCardGb).toNat else 0) + grantedGb perCardGb gs card := by
  unfold grantedGb
  by_cases hmem : card ∈ g.cards <;> simp [hmem]

/-- **Turns add to each card exactly what they are granted on it**, by induction on the turns, on a ledger within
its capacity. -/
theorem holdsGb_after : ∀ {turns : List Turn} {l : Ledger}, l.Bounded → (∀ t ∈ turns, t.pick.Sound) →
    ∀ card, (l.after turns).holdsGb card = l.holdsGb card + grantedGb l.perCardGb (l.grants turns) card
  | [], _, _, _, _ => rfl
  | t :: rest, l, hb, hp, card => by
    obtain ⟨hfirst, hrest⟩ := List.forall_mem_cons.mp hp
    have hper : (t.serve l).2.perCardGb = l.perCardGb := perCardGb_serve t.pick l t.call
    have hb' : (t.serve l).2.Bounded := hb.serve t.pick t.call
    have hstep : (t.serve l).2.holdsGb card = _ := holdsGb_serve hfirst hb t.call card
    calc ((t.serve l).2.after rest).holdsGb card
        = (t.serve l).2.holdsGb card + grantedGb l.perCardGb ((t.serve l).2.grants rest) card := by
          rw [holdsGb_after hb' hrest card, hper]
      _ = l.holdsGb card + grantedGb l.perCardGb (l.grants (t :: rest)) card := by
          rw [hstep, grants, grantedGb_cons, Nat.add_assoc]
          rfl

/-- **The account of a ledger is exact** where strategies pick only cards that fit, as the packing one
does: no turn is granted a card twice, each card holds the sum of the parts that were granted on it, which
is at most its capacity, and no part meets a card without the room for it. -/
theorem exact_after : Strategy.Sound packFirst ∧ ∀ (cards perCardGb : UInt64) (turns : List Turn),
    (∀ t ∈ turns, t.pick.Sound) →
      (∀ g ∈ (untouched cards perCardGb).grants turns, g.cards.Nodup) ∧
      (∀ card < cards.toNat, ∃ used, ((untouched cards perCardGb).after turns).usage[card]? = some used ∧
        used.toNat = grantedGb perCardGb ((untouched cards perCardGb).grants turns) card ∧
        used ≤ perCardGb) ∧
      ∀ before t later, turns = before ++ t :: later →
        ∀ card ∈ (t.serve ((untouched cards perCardGb).after before)).1,
          ((untouched cards perCardGb).after before).holdsGb card +
            (t.call.claim.partGb perCardGb).toNat ≤ perCardGb.toNat := by
  refine ⟨packFirst_sound, fun cards perCardGb turns hp => ⟨nodup_of_mem_grants hp, ?_, ?_⟩⟩
  · intro card hcard
    have hb := untouched_bounded cards perCardGb
    have hlt : card < ((untouched cards perCardGb).after turns).usage.length := by
      refine lt_of_lt_of_eq hcard (Eq.symm ?_)
      exact (cardCount_after turns _).trans List.length_replicate
    have hget := List.getElem?_eq_getElem hlt
    have hexact := holdsGb_after hb hp card
    have hzero : (untouched cards perCardGb).holdsGb card = 0 := by
      simp [holdsGb, untouched, hcard]
    have hle := hb.after turns _ (List.getElem_mem hlt)
    rw [hzero, Nat.zero_add, holdsGb, hget] at hexact
    rw [perCardGb_after] at hle
    exact ⟨_, hget, hexact, hle⟩
  · rintro before t later rfl card hcard
    have hfits := (Turn.serve_sound (hp t (by simp)) _).2 card hcard
    have hroom := hfits.room ((untouched_bounded cards perCardGb).after before)
    rwa [perCardGb_after] at hroom

/-- Two cards of 40 GB: slices of 15 GB on both, two whole cards that are not to be had, and of three
slices of 25 GB the two that find a card. -/
theorem exact_after_packed :
    let turns : List Turn := [⟨packFirst, .allocate (.partitioned 2 15)⟩, ⟨packFirst, .allocate (.whole 2)⟩,
      ⟨packFirst, .replay (.partitioned 3 25)⟩]
    (∀ t ∈ turns, t.pick.Sound) ∧
      ∀ card < 2, ∃ used, ((untouched 2 40).after turns).usage[card]? = some used ∧
        used.toNat = grantedGb 40 ((untouched 2 40).grants turns) card ∧ used ≤ 40 := by
  intro turns
  have hp : ∀ t ∈ turns, t.pick.Sound := by
    intro t ht
    simp only [turns, List.mem_cons, List.not_mem_nil, or_false] at ht
    rcases ht with rfl | rfl | rfl <;> exact packFirst_sound
  exact ⟨hp, (exact_after.2 2 40 turns hp).2.1⟩

end Ledger

end FleetControl
