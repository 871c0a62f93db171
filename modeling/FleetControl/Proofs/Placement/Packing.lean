import FleetControl.Proofs.Gpu.History
import FleetControl.Proofs.Placement.Room

/-!
# Loads under packing

The packing strategy prefers, of the cards that fit, the ones that hold the most. So the cards of a plan
are determined, up to cards that hold the same, by how many cards hold at least each amount
(`Ledger.loaded`); and the loads after a replay follow from the loads before it (`loaded_replay`). Which
card carries which load is of no account to any later claim.

Every claim is one for a slice in this respect: a whole card is a slice as large as the card
(`fits_iff_room`). So loads can be compared across ledgers that were filled in different orders:

* `Fewer`: at every threshold no more cards are loaded. What lands in the fuller ledger lands in the
  other, and this survives claims for whole cards that land in full.
* `Beside`: the loads of the second ledger are those of the first and some full cards. This survives
  every claim that lands in full beside the full cards.

A claim that is cut short breaks both, which is why removing a workload can leave less room than there
was.
-/

namespace FleetControl.Ledger

variable {l l' : Ledger} {c : Claim} {card full : Nat} {cards : List Nat} {cs : List Claim}

/-! ## Room for a part -/

/-- **A card fits a claim exactly where it has room for the part**, be it a slice or all of the card. The law for
whole cards needs a ledger within its capacity, for only there does an empty card have room for all of itself. -/
theorem fits_iff_room (hb : l.Bounded) : l.Fits c card ↔
    card < l.cardCount ∧ l.holdsGb card + (c.partGb l.perCardGb).toNat ≤ l.perCardGb.toNat := by
  rw [fits_iff]
  refine and_congr_right fun hlt => ?_
  cases c with
  | whole n =>
    show l.holdsGb card = 0 ↔ l.holdsGb card + l.perCardGb.toNat ≤ l.perCardGb.toNat
    omega
  | partitioned n slice =>
    obtain ⟨used, hget, hheld⟩ := getElem?_usage hlt
    have hle := UInt64.le_iff_toNat_le.mp (hb used (List.mem_of_getElem? hget))
    show slice.toNat ≤ l.perCardGb.toNat - l.holdsGb card ↔
      l.holdsGb card + slice.toNat ≤ l.perCardGb.toNat
    omega

/-- **How many cards hold at least so much.** -/
def loaded (l : Ledger) (gb : Nat) : Nat := (List.range l.cardCount).countP fun card => gb ≤ l.holdsGb card

/-- All cards hold at least nothing. -/
theorem loaded_zero (l : Ledger) : l.loaded 0 = l.cardCount := by simp [loaded]

/-- At a higher threshold no more cards are loaded. -/
theorem loaded_anti {gb gb' : Nat} (h : gb ≤ gb') : l.loaded gb' ≤ l.loaded gb := by
  refine List.countP_mono_left fun card _ hheld => ?_
  rw [decide_eq_true_iff] at hheld ⊢
  exact h.trans hheld

/-- **Of the cards that fit, those that hold at least so much** are the loaded ones less those that are too full
for the part; at a threshold beyond that none are left. -/
theorem countP_fitting (hb : l.Bounded) (hpart : (c.partGb l.perCardGb).toNat ≤ l.perCardGb.toNat)
    (least : Nat) : ((l.fitting c).countP fun card => least ≤ l.holdsGb card) =
      l.loaded least - l.loaded (l.perCardGb.toNat - (c.partGb l.perCardGb).toNat + 1) := by
  have hsplit := List.countP_eq_countP_filter_add (List.range l.cardCount)
    (fun card => decide (least ≤ l.holdsGb card)) fun card => decide (l.Fits c card)
  have hfull : ((List.range l.cardCount).filter fun card => !decide (l.Fits c card)).countP
      (fun card => least ≤ l.holdsGb card) =
        l.loaded (max least (l.perCardGb.toNat - (c.partGb l.perCardGb).toNat + 1)) := by
    rw [List.countP_filter]
    refine List.countP_congr fun card hcard => ?_
    have hlt : card < l.cardCount := List.mem_range.mp hcard
    simp only [Bool.and_eq_true, Bool.not_eq_true', decide_eq_true_eq, decide_eq_false_iff_not,
      fits_iff_room hb, hlt, true_and]
    omega
  have hloaded : l.loaded least = (l.fitting c).countP (fun card => least ≤ l.holdsGb card) +
      l.loaded (max least (l.perCardGb.toNat - (c.partGb l.perCardGb).toNat + 1)) := by
    rw [← hfull]
    exact hsplit
  rcases Nat.le_total least (l.perCardGb.toNat - (c.partGb l.perCardGb).toNat + 1) with hle | hle
  · rw [Nat.max_eq_right hle] at hloaded
    omega
  · have hanti := loaded_anti (l := l) hle
    rw [Nat.max_eq_left hle] at hloaded
    omega

/-- **The usable cards, told from the loads**: all but those that are too full for one more part. -/
theorem usableCards_eq_loaded (hb : l.Bounded)
    (hpart : (c.partGb l.perCardGb).toNat ≤ l.perCardGb.toNat) : Candidate.usableCards l c =
      l.cardCount - l.loaded (l.perCardGb.toNat - (c.partGb l.perCardGb).toNat + 1) := by
  have hcount := countP_fitting hb hpart 0
  rw [loaded_zero] at hcount
  rw [usableCards_eq, ← hcount]
  simp

/-- Where some card is usable, the part is no larger than a card. -/
theorem part_le_of_usable (hb : l.Bounded) (h : 0 < Candidate.usableCards l c) :
    (c.partGb l.perCardGb).toNat ≤ l.perCardGb.toNat := by
  rw [usableCards_eq] at h
  obtain ⟨card, hcard⟩ := List.exists_mem_of_length_pos h
  have hroom := ((fits_iff_room hb).mp (mem_fitting.mp hcard)).2
  omega

/-! ## The fullest cards first -/

/-- The card that is found has no more free memory than any other that was looked through. -/
theorem headroom_tightest_le : ∀ {cards : List Nat} {card other : Nat}, l.tightest cards = some card →
    other ∈ cards → l.headroom card ≤ l.headroom other
  | [], _, _, h, _ => by cases h
  | first :: rest, card, other, h, ho => by
    unfold tightest at h
    cases hrest : l.tightest rest with
    | none =>
      rw [hrest] at h
      obtain rfl : first = card := Option.some.inj h
      rw [tightest_eq_none hrest, List.mem_singleton] at ho
      rw [ho]
      exact UInt64.le_refl _
    | some best =>
      simp only [hrest] at h
      have hbest : ∀ other ∈ rest, l.headroom best ≤ l.headroom other := fun other ho =>
        headroom_tightest_le hrest ho
      split at h
      · rename_i hlt
        obtain rfl := Option.some.inj h
        rcases List.mem_cons.mp ho with rfl | ho
        · exact UInt64.le_of_lt hlt
        · exact hbest other ho
      · rename_i hle
        obtain rfl := Option.some.inj h
        rcases List.mem_cons.mp ho with rfl | ho
        · exact UInt64.le_refl _
        · exact UInt64.le_trans (UInt64.not_lt.mp hle) (hbest other ho)

/-- **The packing strategy picks a card that holds the most** of those that fit and are not chosen. This is the
one thing about it that the loads depend on; ties are broken by the number of the card, which they do not see. -/
theorem packFirst_fullest (hb : l.Bounded) {chosen : List Nat} {other : Nat}
    (hpick : packFirst l c chosen = some card) (hfit : l.Fits c other) (hnew : other ∉ chosen) :
    l.holdsGb other ≤ l.holdsGb card := by
  have hlt : other < l.cardCount := (fits_iff.mp hfit).1
  have hopen : other ∈ l.openCards chosen := by
    rw [openCards, List.mem_filter, List.mem_range]
    exact ⟨hlt, by simpa using hnew⟩
  by_cases hzero : l.isUnused other = true
  · rw [(isUnused_iff.mp hzero).2]
    exact Nat.zero_le _
  cases c with
  | whole n => exact absurd hfit hzero
  | partitioned n slice =>
    -- a partly used card that fits is there, so the tightest of them was picked
    have hpartly : other ∈ (l.openCards chosen).filter fun card => !l.isUnused card && slice ≤ l.headroom card := by
      rw [List.mem_filter]
      exact ⟨hopen, by simp [hzero, hfit.2]⟩
    rcases Option.or_eq_some_iff.mp hpick with hpick | ⟨hnone, _⟩
    · have hle := UInt64.le_iff_toNat_le.mp (headroom_tightest_le hpick hpartly)
      have hcard : card < l.cardCount := (mem_openCards (List.mem_of_mem_filter (tightest_mem hpick))).1
      obtain ⟨used, hget, hheld⟩ := getElem?_usage hlt
      have hmost := UInt64.le_iff_toNat_le.mp (hb used (List.mem_of_getElem? hget))
      rw [toNat_headroom hcard, toNat_headroom hlt] at hle
      omega
    · rw [tightest_eq_none hnone] at hpartly
      exact absurd hpartly List.not_mem_nil

/-- Cards that a plan leaves out hold no more than those that it adds, by induction on how many it may add. -/
theorem planFrom_fullest (hb : l.Bounded) : ∀ (n : Nat) (chosen : List Nat) {card other : Nat},
    card ∈ l.planFrom packFirst c n chosen → card ∉ chosen → l.Fits c other →
      other ∉ l.planFrom packFirst c n chosen → l.holdsGb other ≤ l.holdsGb card
  | 0, _, _, _, hcard, hnew, _, _ => absurd hcard hnew
  | n + 1, chosen, card, other, hcard, hnew, hfit, hout => by
    unfold planFrom at hcard hout
    cases hpick : packFirst l c chosen with
    | none =>
      rw [hpick] at hcard
      exact absurd hcard hnew
    | some first =>
      simp only [hpick] at hcard hout
      by_cases hfirst : card = first
      · subst hfirst
        refine packFirst_fullest hb hpick hfit fun hchosen => hout ?_
        exact mem_planFrom (List.mem_append_left _ hchosen)
      · refine planFrom_fullest hb n _ hcard ?_ hfit hout
        rw [List.mem_append, List.mem_singleton]
        exact not_or.mpr ⟨hnew, hfirst⟩

/-- **Of the cards of a plan, those that hold at least so much** are as many as the claim asks for, or all of them
that fit: fuller cards come first, so a plan never leaves one of them out for the sake of an emptier one. -/
theorem countP_plan (hb : l.Bounded) (c : Claim) (least : Nat) :
    ((l.plan packFirst c).countP fun card => least ≤ l.holdsGb card) =
      min c.cards.toNat ((l.fitting c).countP fun card => least ≤ l.holdsGb card) := by
  have hsound := packFirst_sound
  have hlen := length_plan hsound packFirst_eager l c
  rw [usableCards_eq] at hlen
  have hsub : l.plan packFirst c ⊆ l.fitting c := fun card hcard =>
    mem_fitting.mpr (plan_fits hsound card hcard)
  have hperm := List.subperm_of_subset (plan_nodup hsound l c) hsub
  have hle := hperm.countP_le fun card => decide (least ≤ l.holdsGb card)
  have hmost := List.countP_le_length (l := l.plan packFirst c) (p := fun card => decide (least ≤ l.holdsGb card))
  by_cases hall : ∀ card ∈ l.fitting c, least ≤ l.holdsGb card → card ∈ l.plan packFirst c
  -- all that hold enough are in the plan, and none of them is missing from the count
  · have hge : (l.fitting c).countP (fun card => least ≤ l.holdsGb card) ≤
        (l.plan packFirst c).countP fun card => least ≤ l.holdsGb card := by
      rw [List.countP_eq_length_filter, List.countP_eq_length_filter]
      refine (List.subperm_of_subset ((fitting_nodup l c).filter _) fun card hcard => ?_).length_le
      obtain ⟨hfit, hheld⟩ := List.mem_filter.mp hcard
      exact List.mem_filter.mpr ⟨hall card hfit (of_decide_eq_true hheld), hheld⟩
    omega
  -- one that holds enough is left out, so each card of the plan holds as much
  · obtain ⟨other, hrest⟩ := not_forall.mp hall
    obtain ⟨hfit, hrest⟩ := Classical.not_imp.mp hrest
    obtain ⟨hheld, hout⟩ := Classical.not_imp.mp hrest
    have hevery : ∀ card ∈ l.plan packFirst c, least ≤ l.holdsGb card := fun card hcard =>
      hheld.trans (planFrom_fullest hb _ _ hcard List.not_mem_nil (mem_fitting.mp hfit) hout)
    have hcount : (l.plan packFirst c).countP (fun card => least ≤ l.holdsGb card) =
        (l.plan packFirst c).length := by
      rw [List.countP_eq_length]
      exact fun card hcard => decide_eq_true (hevery card hcard)
    have hshort : (l.plan packFirst c).length < (l.fitting c).length := by
      have hcons : (other :: l.plan packFirst c).Subperm (l.fitting c) := by
        refine List.subperm_of_subset (List.nodup_cons.mpr ⟨hout, plan_nodup hsound l c⟩) ?_
        exact List.cons_subset.mpr ⟨hfit, hsub⟩
      exact hcons.length_le
    omega

/-! ## Loads after a replay -/

/-- **The loads after a commit**: a committed card counts at a threshold if it held the threshold less the part. -/
theorem loaded_commit (hb : l.Bounded) (hnd : cards.Nodup) (hfit : ∀ card ∈ cards, l.Fits c card)
    (gb : Nat) :
    (l.commit c cards).loaded gb + cards.countP (fun card => gb ≤ l.holdsGb card) =
      l.loaded gb +
        cards.countP fun card => gb - (c.partGb l.perCardGb).toNat ≤ l.holdsGb card := by
  have hheld := holdsGb_commit hb hnd hfit
  have hchosen : ((List.range l.cardCount).filter fun card => decide (card ∈ cards)).Perm cards := by
    refine (List.perm_ext_iff_of_nodup (List.nodup_range.filter _) hnd).mpr fun card => ?_
    rw [List.mem_filter, List.mem_range, decide_eq_true_iff]
    exact and_iff_right_of_imp fun hcard => (fits_iff.mp (hfit card hcard)).1
  have hbefore := List.countP_eq_countP_filter_add (List.range l.cardCount)
    (fun card => decide (gb ≤ l.holdsGb card)) fun card => decide (card ∈ cards)
  have hafter := List.countP_eq_countP_filter_add (List.range l.cardCount)
    (fun card => decide (gb ≤ (l.commit c cards).holdsGb card)) fun card => decide (card ∈ cards)
  -- on the chosen cards the part is added, on the others nothing changes
  have hin : ((List.range l.cardCount).filter fun card => decide (card ∈ cards)).countP
      (fun card => decide (gb ≤ (l.commit c cards).holdsGb card)) =
        cards.countP fun card => gb - (c.partGb l.perCardGb).toNat ≤ l.holdsGb card := by
    rw [hchosen.countP_eq]
    refine List.countP_congr fun card hcard => ?_
    rw [decide_eq_true_iff, decide_eq_true_iff, hheld, if_pos hcard]
    omega
  have hout : ((List.range l.cardCount).filter fun card => !decide (card ∈ cards)).countP
      (fun card => decide (gb ≤ (l.commit c cards).holdsGb card)) =
        ((List.range l.cardCount).filter fun card => !decide (card ∈ cards)).countP
          fun card => decide (gb ≤ l.holdsGb card) := by
    refine List.countP_congr fun card hcard => ?_
    have hnot : card ∉ cards := by simpa using (List.mem_filter.mp hcard).2
    rw [hheld, if_neg hnot, Nat.add_zero]
  rw [hin, hout] at hafter
  rw [hchosen.countP_eq] at hbefore
  unfold loaded
  rw [cardCount_commit, hafter, hbefore]
  omega

/-- **The loads after a replay follow from those before it.** -/
theorem loaded_replay (hb : l.Bounded) (hpart : (c.partGb l.perCardGb).toNat ≤ l.perCardGb.toNat) (gb : Nat) :
    (l.replay packFirst c).2.loaded gb + min c.cards.toNat (l.loaded gb -
        l.loaded (l.perCardGb.toNat - (c.partGb l.perCardGb).toNat + 1)) =
      l.loaded gb + min c.cards.toNat (l.loaded (gb - (c.partGb l.perCardGb).toNat) -
        l.loaded (l.perCardGb.toNat - (c.partGb l.perCardGb).toNat + 1)) := by
  have hcommit := loaded_commit hb (plan_nodup packFirst_sound l c) (plan_fits packFirst_sound) gb
  rw [countP_plan hb, countP_plan hb, countP_fitting hb hpart, countP_fitting hb hpart] at hcommit
  exact hcommit

/-- A claim for no cards changes nothing. -/
theorem replay_of_no_cards (pick : Strategy) (h : c.cards.toNat = 0) : (l.replay pick c).2 = l := by
  show l.commit c (l.planFrom pick c c.cards.toNat []) = l
  rw [h]
  rfl

/-! ## Comparing loads -/

/-- **On the same cards, no more of them are loaded**, at any threshold up to a full card. -/
structure Fewer (l l' : Ledger) : Prop where
  perCardGb : l'.perCardGb = l.perCardGb
  cardCount : l'.cardCount = l.cardCount
  loaded : ∀ gb, 1 ≤ gb → gb ≤ l.perCardGb.toNat → l.loaded gb ≤ l'.loaded gb

/-- **On the same cards, the loads of the first and so many full cards.** -/
structure Beside (full : Nat) (l l' : Ledger) : Prop where
  perCardGb : l'.perCardGb = l.perCardGb
  cardCount : l'.cardCount = l.cardCount
  loaded : ∀ gb, 1 ≤ gb → gb ≤ l.perCardGb.toNat → l'.loaded gb = l.loaded gb + full

/-- Where each card holds no more, no more cards are loaded. -/
theorem Lighter.fewer (h : l.Lighter l') : l.Fewer l' where
  perCardGb := h.perCardGb
  cardCount := h.cardCount
  loaded gb _ _ := by
    unfold Ledger.loaded
    rw [h.cardCount]
    refine List.countP_mono_left fun card _ hheld => ?_
    rw [decide_eq_true_iff] at hheld ⊢
    exact hheld.trans (h.holdsGb card)

/-- The loads without the full cards beside them are no more. -/
theorem Beside.fewer (h : Beside full l l') : l.Fewer l' where
  perCardGb := h.perCardGb
  cardCount := h.cardCount
  loaded gb hpos hle := by
    rw [h.loaded gb hpos hle]
    exact Nat.le_add_right _ _

/-- **What can be placed in the fuller ledger can be placed in the other**: fewer of its cards are too full. -/
theorem Fewer.usableCards_le (h : l.Fewer l') (hb : l.Bounded) (hb' : l'.Bounded)
    (hpos : 0 < c.partGb l.perCardGb) : Candidate.usableCards l' c ≤ Candidate.usableCards l c := by
  rcases Nat.eq_zero_or_pos (Candidate.usableCards l' c) with hzero | hsome
  · rw [hzero]
    exact Nat.zero_le _
  · have hpart' := part_le_of_usable hb' hsome
    rw [h.perCardGb] at hpart'
    have hpos := UInt64.lt_iff_toNat_lt.mp hpos
    rw [UInt64.toNat_zero] at hpos
    have hloaded := h.loaded (l.perCardGb.toNat - (c.partGb l.perCardGb).toNat + 1) (by omega) (by omega)
    rw [usableCards_eq_loaded hb hpart', usableCards_eq_loaded hb' (h.perCardGb ▸ hpart'), h.perCardGb, h.cardCount]
    omega

/-- One claim more for whole cards leaves so many full cards beside what was there. -/
theorem beside_replay_whole (hb : l.Bounded) (hwhole : c.IsWhole)
    (hlands : c.cards.toNat ≤ Candidate.usableCards l c) :
    Beside c.cards.toNat l (l.replay packFirst c).2 where
  perCardGb := perCardGb_replay l packFirst c
  cardCount := cardCount_replay l packFirst c
  loaded gb hpos hle := by
    have hpart : c.partGb l.perCardGb = l.perCardGb := hwhole.partGb_eq
    have husable := usableCards_eq_loaded (c := c) hb (by rw [hpart])
    have hloads := loaded_replay (c := c) hb (by rw [hpart]) gb
    have hfull : gb - l.perCardGb.toNat = 0 := Nat.sub_eq_zero_of_le hle
    have hanti := loaded_anti (l := l) hpos
    rw [hpart, Nat.sub_self, Nat.zero_add] at husable hloads
    rw [hfull, loaded_zero] at hloads
    omega

/-- **A claim that lands in full beside the full cards lands on cards of the same loads without them.** A full
card fits no part of any size, so it takes no place among the cards that are picked. -/
theorem Beside.replay (h : Beside full l l') (hb : l.Bounded) (hb' : l'.Bounded)
    (hpos : 0 < c.partGb l.perCardGb) (hlands : c.cards.toNat ≤ Candidate.usableCards l' c) :
    Beside full (l.replay packFirst c).2 (l'.replay packFirst c).2 := by
  rcases Nat.eq_zero_or_pos c.cards.toNat with hnone | hsome
  · rw [replay_of_no_cards packFirst hnone, replay_of_no_cards packFirst hnone]
    exact h
  have hpart' := part_le_of_usable hb' (hsome.trans_le hlands)
  have husable' := usableCards_eq_loaded hb' hpart'
  have hpart := hpart'
  rw [h.perCardGb] at hpart husable'
  have hpos := UInt64.lt_iff_toNat_lt.mp hpos
  rw [UInt64.toNat_zero] at hpos
  have hlimit := h.loaded (l.perCardGb.toNat - (c.partGb l.perCardGb).toNat + 1) (by omega) (by omega)
  refine ⟨?_, ?_, fun gb hgb hle => ?_⟩
  · rw [perCardGb_replay, perCardGb_replay, h.perCardGb]
  · rw [cardCount_replay, cardCount_replay, h.cardCount]
  · rw [perCardGb_replay] at hle
    have hloads := loaded_replay hb hpart gb
    have hloads' := loaded_replay hb' hpart' gb
    have hsame := h.loaded gb hgb hle
    have hcount := h.cardCount
    rw [h.perCardGb] at hloads'
    -- at a threshold below the part every card of the plan counts, above it the loads decide
    rcases Nat.eq_zero_or_pos (gb - (c.partGb l.perCardGb).toNat) with hlow | hhigh
    · rw [hlow, loaded_zero] at hloads hloads'
      omega
    · have hshift := h.loaded (gb - (c.partGb l.perCardGb).toNat) hhigh (by omega)
      omega

/-- **Where no more cards are loaded, none more are after a claim for whole cards** that lands in the fuller
ledger; the cards that it fills were empty on both sides. -/
theorem Fewer.replay_whole (h : l.Fewer l') (hb : l.Bounded) (hb' : l'.Bounded) (hper : 0 < l.perCardGb)
    (hwhole : c.IsWhole) (hlands : c.cards.toNat ≤ Candidate.usableCards l' c) :
    (l.replay packFirst c).2.Fewer (l'.replay packFirst c).2 := by
  have hpart : c.partGb l.perCardGb = l.perCardGb := hwhole.partGb_eq
  have hpos : 0 < c.partGb l.perCardGb := by
    rw [hpart]
    exact hper
  have hlands' := hlands.trans (h.usableCards_le hb hb' hpos)
  have hfull := beside_replay_whole hb hwhole hlands'
  have hfull' := beside_replay_whole hb' hwhole hlands
  refine ⟨?_, ?_, fun gb hgb hle => ?_⟩
  · rw [perCardGb_replay, perCardGb_replay, h.perCardGb]
  · rw [cardCount_replay, cardCount_replay, h.cardCount]
  · rw [perCardGb_replay] at hle
    rw [hfull.loaded gb hgb hle, hfull'.loaded gb hgb (h.perCardGb ▸ hle)]
    exact Nat.add_le_add_right (h.loaded gb hgb hle) _

/-! ## Claims one after another -/

/-- **Each claim in its turn lands in full.** -/
def Lands (pick : Strategy) : Ledger → List Claim → Prop
  | _, [] => True
  | l, c :: rest => c.cards.toNat ≤ Candidate.usableCards l c ∧ Lands pick (l.replay pick c).2 rest

/-- Claims that land in full, one part of them after the other. -/
theorem lands_append {pick : Strategy} : ∀ {cs ds : List Claim} {l : Ledger},
    Lands pick l (cs ++ ds) ↔ Lands pick l cs ∧ Lands pick (l.replayAll pick cs) ds
  | [], _, _ => (and_iff_right trivial).symm
  | c :: rest, _, _ => by
    rw [List.cons_append]
    exact (and_congr_right fun _ => lands_append).trans and_assoc.symm

/-- **Where nothing is dropped, each claim lands in full**, as long as every claim takes something of its cards. -/
theorem lands_of_droppedGb {pick : Strategy} (hp : pick.Sound) (he : pick.Eager) :
    ∀ {cs : List Claim} {l : Ledger}, (∀ c ∈ cs, 0 < c.partGb l.perCardGb) →
      l.droppedGb pick cs = 0 → Lands pick l cs
  | [], _, _, _ => trivial
  | c :: rest, l, hpos, hdropped => by
    obtain ⟨hpart, hrest⟩ := List.forall_mem_cons.mp hpos
    obtain ⟨hfirst, hlast⟩ := Nat.add_eq_zero_iff.mp hdropped
    have hpart := UInt64.lt_iff_toNat_lt.mp hpart
    rw [UInt64.toNat_zero] at hpart
    have hall : c.cards.toNat - (l.plan pick c).length = 0 :=
      (Nat.mul_eq_zero.mp hfirst).resolve_right (Nat.ne_of_gt hpart)
    have hlen := length_plan hp he l c
    refine ⟨by omega, lands_of_droppedGb hp he (fun d hd => ?_) hlast⟩
    rw [perCardGb_replay]
    exact hrest d hd

/-- And the other way round. -/
theorem droppedGb_of_lands {pick : Strategy} (hp : pick.Sound) (he : pick.Eager) :
    ∀ {cs : List Claim} {l : Ledger}, Lands pick l cs → l.droppedGb pick cs = 0
  | [], _, _ => rfl
  | c :: rest, l, hlands => by
    have hlen := length_plan hp he l c
    have hfull : c.cards.toNat - (l.replay pick c).1.length = 0 := by
      show c.cards.toNat - (l.plan pick c).length = 0
      rw [hlen, Nat.min_eq_left hlands.1, Nat.sub_self]
    rw [droppedGb, hfull, Nat.zero_mul, Nat.zero_add]
    exact droppedGb_of_lands hp he hlands.2

/-- Claims one after another only add to what the cards hold. -/
theorem lighter_replayAll {pick : Strategy} (hp : pick.Sound) : ∀ (cs : List Claim) {l : Ledger},
    l.Bounded → l.Lighter (l.replayAll pick cs)
  | [], l, _ => .refl l
  | c :: rest, _, hb => (lighter_replay hp hb c).trans (lighter_replayAll hp rest (hb.replay pick c))

/-- Claims for whole cards that land leave full cards beside what was there. -/
theorem beside_replayAll_whole : ∀ {cs : List Claim} {l : Ledger}, l.Bounded → (∀ c ∈ cs, c.IsWhole) →
    Lands packFirst l cs → ∃ full, Beside full l (l.replayAll packFirst cs)
  | [], _, _, _, _ => ⟨0, rfl, rfl, fun _ _ _ => rfl⟩
  | c :: rest, l, hb, hwhole, hlands => by
    obtain ⟨hfirst, hrest⟩ := List.forall_mem_cons.mp hwhole
    have hstep := beside_replay_whole hb hfirst hlands.1
    obtain ⟨full, hall⟩ := beside_replayAll_whole (hb.replay packFirst c) hrest hlands.2
    refine ⟨c.cards.toNat + full, hall.perCardGb.trans hstep.perCardGb,
      hall.cardCount.trans hstep.cardCount, fun gb hgb hle => ?_⟩
    have hle' : gb ≤ (l.replay packFirst c).2.perCardGb.toNat := by rwa [perCardGb_replay]
    show ((l.replay packFirst c).2.replayAll packFirst rest).loaded gb = _
    rw [hall.loaded gb hgb hle', hstep.loaded gb hgb hle, Nat.add_assoc]

/-- **Claims that land in full beside full cards** land on the same loads without them, by induction on the
claims, each of which keeps the full cards beside the rest. -/
theorem Beside.replayAll : ∀ {cs : List Claim} {l l' : Ledger}, Beside full l l' → l.Bounded → l'.Bounded →
    (∀ c ∈ cs, 0 < c.partGb l.perCardGb) → Lands packFirst l' cs →
      Beside full (l.replayAll packFirst cs) (l'.replayAll packFirst cs)
  | [], _, _, h, _, _, _, _ => h
  | c :: rest, l, _, h, hb, hb', hpos, hlands => by
    obtain ⟨hfirst, hrest⟩ := List.forall_mem_cons.mp hpos
    have hstep := h.replay hb hb' hfirst hlands.1
    have hrest : ∀ d ∈ rest, 0 < d.partGb (l.replay packFirst c).2.perCardGb := by
      rw [perCardGb_replay]
      exact hrest
    have hall := Beside.replayAll hstep (hb.replay _ c) (hb'.replay _ c) hrest hlands.2
    exact hall

/-- **Claims for whole cards that land in the fuller ledger** leave no more loaded in the other, by induction on
the claims. -/
theorem Fewer.replayAll_whole : ∀ {cs : List Claim} {l l' : Ledger}, l.Fewer l' → l.Bounded → l'.Bounded →
    0 < l.perCardGb → (∀ c ∈ cs, c.IsWhole) → Lands packFirst l' cs →
      (l.replayAll packFirst cs).Fewer (l'.replayAll packFirst cs)
  | [], _, _, h, _, _, _, _, _ => h
  | c :: rest, l, _, h, hb, hb', hper, hwhole, hlands => by
    obtain ⟨hfirst, hrest⟩ := List.forall_mem_cons.mp hwhole
    have hstep := h.replay_whole hb hb' hper hfirst hlands.1
    have hper' : 0 < (l.replay packFirst c).2.perCardGb := by
      rw [perCardGb_replay]
      exact hper
    have hall := Fewer.replayAll_whole hstep (hb.replay _ c) (hb'.replay _ c) hper' hrest hlands.2
    exact hall

/-! ## One card, and cards of unknown capacity -/

/-- A card that does not exist holds nothing. -/
theorem holdsGb_of_le (h : l.cardCount ≤ card) : l.holdsGb card = 0 := by
  rw [holdsGb, List.getElem?_eq_none h]
  rfl

/-- Cards of no capacity all hold nothing. -/
theorem lighter_of_zero (hb : l.Bounded) (hzero : l.perCardGb = 0) (hper : l'.perCardGb = l.perCardGb)
    (hcount : l'.cardCount = l.cardCount) : l.Lighter l' := by
  refine ⟨hper, hcount, fun card => ?_⟩
  have hle := holdsGb_le hb card
  rw [hzero, UInt64.toNat_zero] at hle
  exact hle.trans (Nat.zero_le _)

/-- One card holds what is in use. -/
theorem holdsGb_zero_eq (h : l.cardCount ≤ 1) : l.holdsGb 0 = l.usedGb := by
  unfold holdsGb usedGb
  unfold cardCount at h
  match hu : l.usage with
  | [] => rfl
  | [used] => simp
  | _ :: _ :: _ =>
    rw [hu] at h
    exact absurd h (by simp)

/-- On one card, what is in use is all there is to compare. -/
theorem lighter_of_one_card (hone : l.cardCount ≤ 1) (hper : l'.perCardGb = l.perCardGb)
    (hcount : l'.cardCount = l.cardCount) (hused : l.usedGb ≤ l'.usedGb) : l.Lighter l' := by
  refine ⟨hper, hcount, fun card => ?_⟩
  cases card with
  | zero =>
    rw [holdsGb_zero_eq hone, holdsGb_zero_eq (hcount ▸ hone)]
    exact hused
  | succ card =>
    rw [holdsGb_of_le (by omega)]
    exact Nat.zero_le _

/-! ## Claims left out -/

/-- Claims that follow others are replayed on what those have left. -/
theorem replayAll_append (pick : Strategy) (l : Ledger) (cs ds : List Claim) :
    l.replayAll pick (cs ++ ds) = (l.replayAll pick cs).replayAll pick ds := List.foldl_append

section LeftOut

variable {own later : List Claim} (hb : l.Bounded) (hlands : l.Lands packFirst (own ++ later))

include hb hlands

/-- **Claims for whole cards that are left out** leave no more loaded after those that follow: what they had
filled was beside the rest, as if it were not there. -/
theorem fewer_without_whole (hwhole : ∀ c ∈ own, c.IsWhole)
    (hpos : ∀ c ∈ later, 0 < c.partGb l.perCardGb) :
    (l.replayAll packFirst later).Fewer (l.replayAll packFirst (own ++ later)) := by
  obtain ⟨hown, hlater⟩ := lands_append.mp hlands
  obtain ⟨full, hbeside⟩ := beside_replayAll_whole hb hwhole hown
  rw [replayAll_append]
  exact (hbeside.replayAll hb (hb.replayAll _ _) hpos hlater).fewer

/-- **Claims that are left out before claims for whole cards** leave no more loaded after those, whatever the ones
that are left out were for. -/
theorem fewer_before_whole (hper : 0 < l.perCardGb) (hwhole : ∀ c ∈ later, c.IsWhole) :
    (l.replayAll packFirst later).Fewer (l.replayAll packFirst (own ++ later)) := by
  obtain ⟨_, hlater⟩ := lands_append.mp hlands
  have hlight := lighter_replayAll packFirst_sound own hb
  rw [replayAll_append]
  exact hlight.fewer.replayAll_whole hb (hb.replayAll _ _) hper hwhole hlater

/-- **Claims that are left out of one card** leave no more on it, for there is only one place to take. -/
theorem fewer_on_one_card (hone : l.cardCount ≤ 1) :
    (l.replayAll packFirst later).Fewer (l.replayAll packFirst (own ++ later)) := by
  have hused := usedGb_replayAll packFirst_sound later hb
  have hused' := usedGb_replayAll packFirst_sound (own ++ later) hb
  -- with all claims the card holds everything that is asked for
  have hzero := droppedGb_of_lands packFirst_sound packFirst_eager hlands
  rw [List.map_append, List.sum_append] at hused'
  refine (lighter_of_one_card ?_ ?_ ?_ (by omega)).fewer
  · rw [cardCount_replayAll]
    exact hone
  · rw [perCardGb_replayAll, perCardGb_replayAll]
  · rw [cardCount_replayAll, cardCount_replayAll]

end LeftOut

end FleetControl.Ledger
