import FleetControl.Gpu.PackFirst
import Mathlib.Algebra.Order.BigOperators.Group.List
import Mathlib.Algebra.Order.Ring.Nat

/-!
# What a ledger commits

A claim takes a part of each of its cards. Where the strategy picks only cards that fit
(`Strategy.Sound`), a part that is committed adds to its card exactly what it asks for, so the memory
in use on all cards together grows by the parts that found a card (`usedGb_replay`), and what a whole
replay commits and what it drops add up to what the claims ask for (`usedGb_replayAll`).

What is dropped is not an error of the ledger: a replay takes the claims as they come, and says how
much of each found a card.
-/

namespace FleetControl

namespace Claim

/-- Memory that a claim takes on each of its cards: its slice, or all of the card. -/
def partGb (perCardGb : UInt64) : Claim → UInt64
  | whole _ => perCardGb
  | partitioned _ slice => slice

/-- **Memory that a claim asks for**, on all its cards together. -/
def memoryGb (perCardGb : UInt64) (c : Claim) : Nat := c.cards.toNat * (c.partGb perCardGb).toNat

end Claim

namespace Ledger

/-- **No card holds more than its capacity.** -/
def Bounded (l : Ledger) : Prop := ∀ used ∈ l.usage, used ≤ l.perCardGb

/-- **A card fits the next part of a claim**: it is untouched, or has room for the slice. -/
def Fits (l : Ledger) : Claim → Nat → Prop
  | .whole _, card => l.isUnused card
  | .partitioned _ slice, card => card < l.cardCount ∧ slice ≤ l.headroom card

/-- Memory in use on a card, as an exact number; none on a card that does not exist. -/
def holdsGb (l : Ledger) (card : Nat) : Nat := (l.usage[card]?.getD 0).toNat

/-- **Memory in use on all cards together**, as an exact number. -/
def usedGb (l : Ledger) : Nat := (l.usage.map UInt64.toNat).sum

end Ledger

/-- **A strategy that picks only cards that fit** and that are not chosen yet. -/
def Strategy.Sound (pick : Strategy) : Prop :=
  ∀ l c chosen card, pick l c chosen = some card → card ∉ chosen ∧ l.Fits c card

namespace Ledger

variable {l : Ledger} {c : Claim} {pick : Strategy} {card other : Nat} {cards : List Nat}

/-- Untouched cards hold nothing, which is within every capacity. -/
theorem untouched_bounded (cards perCardGb : UInt64) : (untouched cards perCardGb).Bounded := by
  intro used hu
  rw [(List.mem_replicate.mp hu).2]
  exact UInt64.zero_le

/-- Of untouched cards nothing is in use. -/
theorem usedGb_untouched (cards perCardGb : UInt64) : (untouched cards perCardGb).usedGb = 0 := by
  simp [usedGb, untouched]

/-- What is in use is at most what the cards hold. -/
theorem Bounded.usedGb_le (hb : l.Bounded) : l.usedGb ≤ l.cardCount * l.perCardGb.toNat := by
  have h := List.sum_le_card_nsmul (l.usage.map UInt64.toNat) l.perCardGb.toNat fun x hx => by
    obtain ⟨used, hu, rfl⟩ := List.mem_map.mp hx
    exact UInt64.le_iff_toNat_le.mp (hb used hu)
  simpa [usedGb, cardCount] using h

/-! ## One card -/

/-- No card holds more than its capacity, on a ledger that is within it. -/
theorem holdsGb_le (hb : l.Bounded) (card : Nat) : l.holdsGb card ≤ l.perCardGb.toNat := by
  unfold holdsGb
  cases hget : l.usage[card]? with
  | none => exact Nat.zero_le _
  | some used => exact UInt64.le_iff_toNat_le.mp (hb used (List.mem_of_getElem? hget))

/-- A part is committed on one card, and the others are left alone. -/
theorem getElem?_commitOne (c : Claim) (l : Ledger) (card other : Nat) :
    (commitOne c l card).usage[other]? =
      if card = other then l.usage[other]?.map (l.filled c) else l.usage[other]? := by
  simp only [commitOne, List.getElem?_modify]
  split <;> simp

@[simp] theorem perCardGb_commitOne (c : Claim) (l : Ledger) (card : Nat) :
    (commitOne c l card).perCardGb = l.perCardGb := rfl

@[simp] theorem cardCount_commitOne (c : Claim) (l : Ledger) (card : Nat) :
    (commitOne c l card).cardCount = l.cardCount := by
  simp [commitOne, cardCount]

/-- **A card is never filled beyond its capacity**: the sum is cut there. -/
theorem filled_le (l : Ledger) (c : Claim) (used : UInt64) : l.filled c used ≤ l.perCardGb := by
  cases c with
  | whole n => exact UInt64.le_refl _
  | partitioned n slice =>
    show min (used + slice) l.perCardGb ≤ l.perCardGb
    simp only [UInt64.le_iff_toNat_le, UInt64.toNat_min]
    exact Nat.min_le_right _ _

/-- A part on one card keeps a ledger within its capacity, whether the card fits or not. -/
theorem Bounded.commitOne (hb : l.Bounded) (c : Claim) (card : Nat) :
    (Ledger.commitOne c l card).Bounded := by
  intro used hu
  obtain ⟨i, hi⟩ := List.mem_iff_getElem?.mp hu
  rw [getElem?_commitOne] at hi
  split at hi
  · obtain ⟨before, _, rfl⟩ := Option.map_eq_some_iff.mp hi
    exact filled_le l c before
  · exact hb used (List.mem_of_getElem? hi)

/-- Where a card fits, there is room for its part on top of what it holds; on an untouched card there is room for
all of it. -/
theorem Fits.exists_room (hb : l.Bounded) (h : l.Fits c card) : ∃ used, l.usage[card]? = some used ∧
    used.toNat + (c.partGb l.perCardGb).toNat ≤ l.perCardGb.toNat := by
  cases c with
  | whole n =>
    refine ⟨0, ?_, by simp [Claim.partGb]⟩
    simpa [Fits, isUnused] using h
  | partitioned n slice =>
    obtain ⟨hlt, hroom⟩ := h
    have hget : l.usage[card]? = some l.usage[card] := List.getElem?_eq_getElem hlt
    have hle := hb _ (List.getElem_mem hlt)
    refine ⟨l.usage[card], hget, ?_⟩
    simp only [headroom, hget, free, if_pos hle] at hroom
    have hsub := UInt64.toNat_sub_of_le _ _ hle
    rw [UInt64.le_iff_toNat_le] at hroom hle
    simp only [Claim.partGb]
    omega

/-- The same as numbers: what the card holds and the part together are within its capacity. -/
theorem Fits.room (hb : l.Bounded) (h : l.Fits c card) :
    l.holdsGb card + (c.partGb l.perCardGb).toNat ≤ l.perCardGb.toNat := by
  obtain ⟨used, hget, hroom⟩ := h.exists_room hb
  rwa [holdsGb, hget]

/-- A part for which there is room is committed as it is: neither the cut at the capacity nor the 64 bits of the
sum have a say. -/
theorem toNat_filled {used : UInt64}
    (h : used.toNat + (c.partGb l.perCardGb).toNat ≤ l.perCardGb.toNat) :
    (l.filled c used).toNat = used.toNat + (c.partGb l.perCardGb).toNat := by
  cases c with
  | whole n =>
    simp only [Claim.partGb] at h ⊢
    simp only [filled]
    omega
  | partitioned n slice =>
    simp only [Claim.partGb] at h ⊢
    have hlt := l.perCardGb.toNat_lt
    -- the sum cannot wrap around, being within a capacity
    have hadd : (used + slice).toNat = used.toNat + slice.toNat := by
      rw [UInt64.toNat_add]
      exact Nat.mod_eq_of_lt (by omega)
    simp only [filled, UInt64.toNat_min, hadd]
    omega

/-- **On a card that fits, exactly the part is added**, and nothing on another. -/
theorem holdsGb_commitOne (hb : l.Bounded) (h : l.Fits c card) (other : Nat) :
    (commitOne c l card).holdsGb other =
      l.holdsGb other + if card = other then (c.partGb l.perCardGb).toNat else 0 := by
  unfold holdsGb
  rw [getElem?_commitOne]
  by_cases he : card = other
  · subst he
    obtain ⟨used, hget, hroom⟩ := h.exists_room hb
    rw [if_pos rfl, if_pos rfl, hget]
    exact toNat_filled hroom
  · rw [if_neg he, if_neg he, Nat.add_zero]

/-- A sum after one of its terms has changed. -/
theorem sum_map_modify {α : Type} (f : α → α) (g : α → Nat) : ∀ {xs : List α} {i : Nat} {a : α},
    xs[i]? = some a → ((xs.modify i f).map g).sum + g a = (xs.map g).sum + g (f a)
  | [], _, _, h => by simp at h
  | x :: xs, 0, a, h => by
    obtain rfl : x = a := by simpa using h
    simp only [List.modify_zero_cons, List.map_cons, List.sum_cons]
    omega
  | x :: xs, i + 1, a, h => by
    have hrest : xs[i]? = some a := by simpa using h
    have ih := sum_map_modify f g hrest
    simp only [List.modify_succ_cons, List.map_cons, List.sum_cons]
    omega

/-- **A card that fits takes exactly its part**, and so does what is in use on all cards together. -/
theorem usedGb_commitOne (hb : l.Bounded) (h : l.Fits c card) :
    (commitOne c l card).usedGb = l.usedGb + (c.partGb l.perCardGb).toNat := by
  obtain ⟨used, hget, hroom⟩ := h.exists_room hb
  have hsum := sum_map_modify (l.filled c) UInt64.toNat hget
  rw [toNat_filled hroom] at hsum
  show ((l.usage.modify card (l.filled c)).map UInt64.toNat).sum = _
  unfold usedGb
  omega

/-- What is committed on one card is nothing to another. -/
theorem Fits.commitOne (hne : card ≠ other) (h : l.Fits c other) :
    (Ledger.commitOne c l card).Fits c other := by
  cases c with
  | whole n => simpa [Fits, isUnused, getElem?_commitOne, hne] using h
  | partitioned n slice =>
    refine ⟨(cardCount_commitOne _ l card).symm ▸ h.1, ?_⟩
    have hsame : (Ledger.commitOne (.partitioned n slice) l card).usage[other]? = l.usage[other]? :=
      (getElem?_commitOne _ l card other).trans (if_neg hne)
    show slice ≤ Ledger.headroom _ other
    rw [headroom, hsame]
    exact h.2

/-- Of distinct cards that fit, those after the first still fit when the first is committed. -/
theorem Fits.rest (hnd : (card :: cards).Nodup) (hfit : ∀ other ∈ card :: cards, l.Fits c other) :
    ∀ other ∈ cards, (Ledger.commitOne c l card).Fits c other := fun other ho =>
  (hfit other (List.mem_cons_of_mem _ ho)).commitOne fun e => (List.nodup_cons.mp hnd).1 (e ▸ ho)

/-! ## The cards of a claim -/

/-- Parts on any cards keep a ledger within its capacity. -/
theorem Bounded.commit (hb : l.Bounded) (c : Claim) (cards : List Nat) : (l.commit c cards).Bounded := by
  unfold Ledger.commit
  induction cards generalizing l with
  | nil => exact hb
  | cons card rest ih => exact ih (hb.commitOne c card)

@[simp] theorem perCardGb_commit (l : Ledger) (c : Claim) (cards : List Nat) :
    (l.commit c cards).perCardGb = l.perCardGb := by
  unfold Ledger.commit
  induction cards generalizing l with
  | nil => rfl
  | cons card rest ih => exact ih _

@[simp] theorem cardCount_commit (l : Ledger) (c : Claim) (cards : List Nat) :
    (l.commit c cards).cardCount = l.cardCount := by
  unfold Ledger.commit
  induction cards generalizing l with
  | nil => rfl
  | cons card rest ih => exact (ih _).trans (cardCount_commitOne c l card)

/-- **On cards that fit, exactly the parts are added**, and nothing on others. The cards are distinct, so each
still fits when its turn comes; the induction is on them. -/
theorem holdsGb_commit (hb : l.Bounded) (hnd : cards.Nodup) (hfit : ∀ card ∈ cards, l.Fits c card)
    (other : Nat) : (l.commit c cards).holdsGb other =
      l.holdsGb other + if other ∈ cards then (c.partGb l.perCardGb).toNat else 0 := by
  induction cards generalizing l with
  | nil => simp [commit]
  | cons card rest ih =>
    have hrest := Fits.rest hnd hfit
    obtain ⟨hnot, hnd⟩ := List.nodup_cons.mp hnd
    show ((commitOne c l card).commit c rest).holdsGb other = _
    rw [ih (hb.commitOne c card) hnd hrest, holdsGb_commitOne hb (hfit card List.mem_cons_self),
      perCardGb_commitOne, Nat.add_assoc]
    by_cases he : card = other
    · subst he
      simp [hnot]
    · simp [he, Ne.symm he]

/-- **Cards that fit take exactly their parts**, so the memory in use grows by as many parts as there are cards. -/
theorem usedGb_commit (hb : l.Bounded) (hnd : cards.Nodup) (hfit : ∀ card ∈ cards, l.Fits c card) :
    (l.commit c cards).usedGb = l.usedGb + cards.length * (c.partGb l.perCardGb).toNat := by
  induction cards generalizing l with
  | nil => simp [commit]
  | cons card rest ih =>
    have hrest := Fits.rest hnd hfit
    have hnd := (List.nodup_cons.mp hnd).2
    have hstep := usedGb_commitOne hb (hfit card List.mem_cons_self)
    show ((commitOne c l card).commit c rest).usedGb = _
    rw [ih (hb.commitOne c card) hnd hrest, hstep, List.length_cons, perCardGb_commitOne, Nat.succ_mul]
    omega

/-- The cards chosen so far stay, and those added fit and are new; nor are there more of them than were asked for.
The induction is on how many may still be added. -/
theorem planFrom_sound (hp : pick.Sound) : ∀ {n : Nat} {chosen : List Nat}, chosen.Nodup →
    (∀ card ∈ chosen, l.Fits c card) →
    (l.planFrom pick c n chosen).Nodup ∧ (∀ card ∈ l.planFrom pick c n chosen, l.Fits c card) ∧
      (l.planFrom pick c n chosen).length ≤ n + chosen.length
  | 0, _, hnd, hfit => ⟨hnd, hfit, Nat.le_add_left _ _⟩
  | n + 1, chosen, hnd, hfit => by
    unfold planFrom
    split
    · exact ⟨hnd, hfit, Nat.le_add_left _ _⟩
    · rename_i card hpick
      obtain ⟨hnew, hcard⟩ := hp _ _ _ _ hpick
      have hnd' : (chosen ++ [card]).Nodup := by
        rw [List.nodup_append]
        refine ⟨hnd, List.nodup_cons.mpr ⟨List.not_mem_nil, .nil⟩, fun a ha b hb => ?_⟩
        rw [List.mem_singleton.mp hb]
        exact fun e => hnew (e ▸ ha)
      have hfit' : ∀ other ∈ chosen ++ [card], l.Fits c other := by
        intro other ho
        rcases List.mem_append.mp ho with ho | ho
        · exact hfit other ho
        · exact List.mem_singleton.mp ho ▸ hcard
      obtain ⟨h₁, h₂, h₃⟩ := planFrom_sound hp (n := n) hnd' hfit'
      refine ⟨h₁, h₂, ?_⟩
      rw [List.length_append, List.length_singleton] at h₃
      omega

/-- The cards of a plan are distinct. -/
theorem plan_nodup (hp : pick.Sound) (l : Ledger) (c : Claim) : (l.plan pick c).Nodup :=
  (planFrom_sound hp List.nodup_nil (by simp)).1

/-- The cards of a plan fit its claim. -/
theorem plan_fits (hp : pick.Sound) : ∀ card ∈ l.plan pick c, l.Fits c card :=
  (planFrom_sound hp List.nodup_nil (by simp)).2.1

/-- A plan has no more cards than its claim asks for. -/
theorem length_plan_le (hp : pick.Sound) (l : Ledger) (c : Claim) :
    (l.plan pick c).length ≤ c.cards.toNat :=
  (planFrom_sound hp List.nodup_nil (by simp)).2.2

/-! ## Replays -/

/-- A replay keeps a ledger within its capacity. -/
theorem Bounded.replay (hb : l.Bounded) (pick : Strategy) (c : Claim) : (l.replay pick c).2.Bounded :=
  hb.commit c _

@[simp] theorem perCardGb_replay (l : Ledger) (pick : Strategy) (c : Claim) :
    (l.replay pick c).2.perCardGb = l.perCardGb := perCardGb_commit l c _

@[simp] theorem cardCount_replay (l : Ledger) (pick : Strategy) (c : Claim) :
    (l.replay pick c).2.cardCount = l.cardCount := cardCount_commit l c _

/-- **A replay adds exactly the parts that found a card**, be it all of the claim's or fewer. -/
theorem usedGb_replay (hp : pick.Sound) (hb : l.Bounded) (c : Claim) :
    (l.replay pick c).2.usedGb =
      l.usedGb + (l.replay pick c).1.length * (c.partGb l.perCardGb).toNat :=
  usedGb_commit hb (plan_nodup hp l c) (plan_fits hp)

/-- **A claim that is allocated lands as its replay does**, in full; the two differ only where some part finds no
card. -/
theorem allocate_eq_some {cards : List Nat} (hp : pick.Sound) (h : (l.allocate pick c).1 = some cards) :
    l.allocate pick c = (some cards, (l.replay pick c).2) ∧ (l.replay pick c).1 = cards ∧
      cards.length = c.cards.toNat := by
  have hle := length_plan_le hp l c
  by_cases hlt : (l.plan pick c).length < c.cards.toNat
  · simp only [allocate, if_pos hlt, reduceCtorEq] at h
  · simp only [allocate, if_neg hlt, Option.some.injEq] at h
    subst h
    exact ⟨if_neg hlt, rfl, by omega⟩

/-- The ledger after claims were replayed one after another. -/
def replayAll (pick : Strategy) (l : Ledger) (cs : List Claim) : Ledger :=
  cs.foldl (fun l c => (l.replay pick c).2) l

/-- **Memory of the parts that find no card** when claims are replayed one after another. -/
def droppedGb (pick : Strategy) : Ledger → List Claim → Nat
  | _, [] => 0
  | l, c :: rest =>
    (c.cards.toNat - (l.replay pick c).1.length) * (c.partGb l.perCardGb).toNat +
      droppedGb pick (l.replay pick c).2 rest

/-- Replays one after another keep a ledger within its capacity. -/
theorem Bounded.replayAll (hb : l.Bounded) (pick : Strategy) (cs : List Claim) :
    (l.replayAll pick cs).Bounded := by
  unfold Ledger.replayAll
  induction cs generalizing l with
  | nil => exact hb
  | cons c rest ih => exact ih (hb.replay pick c)

@[simp] theorem perCardGb_replayAll (l : Ledger) (pick : Strategy) (cs : List Claim) :
    (l.replayAll pick cs).perCardGb = l.perCardGb := by
  unfold Ledger.replayAll
  induction cs generalizing l with
  | nil => rfl
  | cons c rest ih => exact (ih _).trans (perCardGb_replay l pick c)

@[simp] theorem cardCount_replayAll (l : Ledger) (pick : Strategy) (cs : List Claim) :
    (l.replayAll pick cs).cardCount = l.cardCount := by
  unfold Ledger.replayAll
  induction cs generalizing l with
  | nil => rfl
  | cons c rest ih => exact (ih _).trans (cardCount_replay l pick c)

/-- **What a replay commits and what it drops are what the claims ask for**, by induction on the claims: each adds
the parts that found a card, and drops the others. -/
theorem usedGb_replayAll (hp : pick.Sound) : ∀ (cs : List Claim) {l : Ledger}, l.Bounded →
    (l.replayAll pick cs).usedGb + l.droppedGb pick cs =
      l.usedGb + (cs.map (·.memoryGb l.perCardGb)).sum
  | [], _, _ => rfl
  | c :: rest, l, hb => by
    have ih := usedGb_replayAll hp rest (hb.replay pick c)
    have hadd := usedGb_replay hp hb c
    have hle : (l.replay pick c).1.length ≤ c.cards.toNat := length_plan_le hp l c
    have hpart : (c.cards.toNat - (l.replay pick c).1.length) * (c.partGb l.perCardGb).toNat +
        (l.replay pick c).1.length * (c.partGb l.perCardGb).toNat = c.memoryGb l.perCardGb := by
      rw [← Nat.add_mul, Nat.sub_add_cancel hle]
      rfl
    rw [perCardGb_replay] at ih
    simp only [droppedGb, List.map_cons, List.sum_cons]
    change ((l.replay pick c).2.replayAll pick rest).usedGb + _ = _
    omega

/-- What one more claim drops comes on top. -/
theorem droppedGb_append (pick : Strategy) (c : Claim) : ∀ (cs : List Claim) (l : Ledger),
    l.droppedGb pick (cs ++ [c]) = l.droppedGb pick cs + (l.replayAll pick cs).droppedGb pick [c]
  | [], l => (Nat.zero_add _).symm
  | d :: rest, l => by
    simp only [List.cons_append, droppedGb, droppedGb_append pick c rest, Nat.add_assoc]
    rfl

/-- Of a claim that can be allocated nothing is dropped. -/
theorem droppedGb_of_allocate {cards : List Nat} (hp : pick.Sound)
    (h : (l.allocate pick c).1 = some cards) : l.droppedGb pick [c] = 0 := by
  obtain ⟨_, hcards, hlen⟩ := allocate_eq_some hp h
  simp only [droppedGb, hcards, hlen, Nat.sub_self, Nat.zero_mul, Nat.add_zero]

/-! ## Packing -/

/-- The tightest card is one of the cards. -/
theorem tightest_mem : ∀ {cards : List Nat} {card : Nat}, l.tightest cards = some card → card ∈ cards
  | [], _, h => by cases h
  | first :: rest, card, h => by
    unfold tightest at h
    split at h
    · exact Option.some.inj h ▸ List.mem_cons_self
    · rename_i other hother
      split at h
      · exact Option.some.inj h ▸ List.mem_cons_of_mem _ (tightest_mem hother)
      · exact Option.some.inj h ▸ List.mem_cons_self

/-- The cards that are open to a choice exist and are not chosen yet. -/
theorem mem_openCards {chosen : List Nat} (h : card ∈ l.openCards chosen) :
    card < l.cardCount ∧ card ∉ chosen := by
  obtain ⟨hr, hc⟩ := List.mem_filter.mp h
  exact ⟨List.mem_range.mp hr, by simpa using hc⟩

/-- **The packing strategy picks only cards that fit** and that are not chosen yet, partly used or untouched. -/
theorem packFirst_sound : Strategy.Sound packFirst := by
  intro l c chosen card h
  cases c with
  | whole n =>
    have hmem := List.mem_of_find?_eq_some h
    exact ⟨(mem_openCards hmem).2, List.find?_some h⟩
  | partitioned n slice =>
    rcases Option.or_eq_some_iff.mp h with h | ⟨_, h⟩
    · obtain ⟨hopen, hfit⟩ := List.mem_filter.mp (tightest_mem h)
      obtain ⟨hlt, hnew⟩ := mem_openCards hopen
      exact ⟨hnew, hlt, by simpa using (Bool.and_eq_true_iff.mp hfit).2⟩
    · obtain ⟨hlt, hnew⟩ := mem_openCards (List.mem_of_find?_eq_some h)
      have hfit := List.find?_some h
      obtain ⟨hunused, hslice⟩ := Bool.and_eq_true_iff.mp hfit
      refine ⟨hnew, hlt, ?_⟩
      have hget : l.usage[card]? = some 0 := by simpa [isUnused] using hunused
      simpa [headroom, hget, free] using hslice

end Ledger

end FleetControl
