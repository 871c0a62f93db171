import FleetControl.Proofs.Placement.Room

/-!
# The order in which cards are taken

The packing strategy is asked for one card at a time and never sorts anything. What it picks card by card
is nevertheless the beginning of one list: the cards that fit, ranked (`ranking`). The reason is that a
pick is the first card of the ranking that is not chosen yet, whatever is chosen (`packFirst_eq_find?`),
and that a ledger does not change while a claim is planned. So a plan is a prefix of the ranking
(`planFrom_ranking`), and what the order says of the ranking it says of every plan: a claim is allocated
exactly where enough cards fit, and no untouched card is opened as long as a partly used one fits
(`plan_packFirst`).

Nothing is asked of the ledger: cards may hold more than their capacity, and a slice may be of no size.
-/

namespace FleetControl.Ledger

variable {l : Ledger} {c : Claim} {card other : Nat} {cards : List Nat}

/-- The card has no more free memory than the other, and is the lower one where they have the same. -/
def tighter (l : Ledger) (card other : Nat) : Bool :=
  l.headroom card < l.headroom other || l.headroom card == l.headroom other && card ≤ other

/-- The cards with room for a slice. -/
def roomy (l : Ledger) (slice : UInt64) : List Nat :=
  (List.range l.cardCount).filter fun card => slice ≤ l.headroom card

/-- **The cards that fit a claim, in the order in which they are taken**: for whole cards the untouched
ones, lowest first; for slices the partly used ones with room, the tightest first, and then the untouched
ones with room, lowest first. -/
def ranking (l : Ledger) : Claim → List Nat
  | .whole _ => (List.range l.cardCount).filter l.isUnused
  | .partitioned _ slice =>
    ((l.roomy slice).filter fun card => !l.isUnused card).mergeSort l.tighter ++
      (l.roomy slice).filter l.isUnused

/-- **Untouched cards come last**: before one of them is chosen, every partly used card that fits has
been. -/
def OpensLast (l : Ledger) (c : Claim) (cards : List Nat) : Prop :=
  ∀ before card after, cards = before ++ card :: after → l.isUnused card = true →
    ∀ other, l.Fits c other → l.isUnused other = false → other ∈ before

/-! ## The tightest card -/

/-- One card is tighter than another by its free memory, or by its number where they have the same. -/
theorem tighter_iff : l.tighter card other = true ↔ (l.headroom card).toNat < (l.headroom other).toNat ∨
    (l.headroom card).toNat = (l.headroom other).toNat ∧ card ≤ other := by
  simp only [tighter, Bool.or_eq_true, Bool.and_eq_true, decide_eq_true_iff, beq_iff_eq,
    UInt64.lt_iff_toNat_lt, UInt64.toNat_inj]

/-- Being tighter is transitive. -/
theorem tighter_trans (a b d : Nat) (hab : l.tighter a b = true) (hbd : l.tighter b d = true) :
    l.tighter a d = true := by
  rw [tighter_iff] at *
  omega

/-- Of two cards one is tighter. -/
theorem tighter_total (a b : Nat) : (l.tighter a b || l.tighter b a) = true := by
  rw [Bool.or_eq_true, tighter_iff, tighter_iff]
  omega

/-- Cards that are both tighter than the other are the same card, for numbers break the tie; so the order puts the
cards into one list only. -/
theorem tighter_antisymm (h : l.tighter card other = true) (h' : l.tighter other card = true) :
    card = other := by
  rw [tighter_iff] at *
  omega

/-- Of cards in ascending order, the one that is found is tighter than every other. -/
theorem tighter_of_tightest : ∀ {cards : List Nat} {card : Nat}, cards.Pairwise (· < ·) →
    l.tightest cards = some card → ∀ other ∈ cards, l.tighter card other = true
  | [], _, _, h => by cases h
  | first :: rest, card, hasc, h => by
    obtain ⟨hfirst, hrest⟩ := List.pairwise_cons.mp hasc
    unfold tightest at h
    split at h
    · rename_i hnone
      obtain rfl := tightest_eq_none hnone
      obtain rfl := Option.some.inj h
      intro other ho
      rw [List.mem_singleton.mp ho, tighter_iff]
      omega
    · rename_i best hbest
      have ih := tighter_of_tightest hrest hbest
      split at h <;> rename_i hlt <;> obtain rfl := Option.some.inj h <;>
        rw [UInt64.lt_iff_toNat_lt] at hlt <;> refine List.forall_mem_cons.mpr ⟨?_, fun other ho => ?_⟩
      · rw [tighter_iff]
        omega
      · exact ih other ho
      · rw [tighter_iff]
        omega
      · have hbest := tighter_iff.mp (ih other ho)
        have hbelow := hfirst other ho
        rw [tighter_iff]
        omega

/-- **The card that is found is the first of the cards in order**, however these are put in order. -/
theorem tightest_eq_head? {sorted : List Nat} (hasc : cards.Pairwise (· < ·)) (hperm : sorted.Perm cards)
    (hsorted : sorted.Pairwise fun a b => l.tighter a b = true) : l.tightest cards = sorted.head? := by
  cases hfound : l.tightest cards with
  | none =>
    rw [tightest_eq_none hfound] at hperm
    rw [hperm.eq_nil]
    rfl
  | some card =>
    have hmem := hperm.mem_iff.mpr (tightest_mem hfound)
    have htight := tighter_of_tightest hasc hfound
    cases sorted with
    | nil => exact absurd hmem List.not_mem_nil
    | cons first rest =>
      rcases List.mem_cons.mp hmem with rfl | hrest
      · rfl
      · have hfirst := (List.pairwise_cons.mp hsorted).1 card hrest
        have hcard := htight first (hperm.mem_iff.mp List.mem_cons_self)
        rw [tighter_antisymm hcard hfirst]
        rfl

/-! ## The ranking -/

/-- An untouched card has all its memory free. -/
theorem headroom_of_isUnused (h : l.isUnused card = true) : l.headroom card = l.perCardGb := by
  obtain ⟨hlt, hzero⟩ := isUnused_iff.mp h
  rw [← UInt64.toNat_inj, toNat_headroom hlt, hzero, Nat.sub_zero]

/-- The cards with room for a slice are those that fit a claim for such slices, however many it asks for. -/
theorem roomy_eq (l : Ledger) (n slice : UInt64) : l.roomy slice = l.fitting (.partitioned n slice) := by
  refine List.filter_congr fun card hcard => ?_
  simp [Fits, List.mem_range.mp hcard]

/-- **The ranking holds the cards that fit**, each of them once, and nothing else. -/
theorem ranking_perm (l : Ledger) (c : Claim) : (l.ranking c).Perm (l.fitting c) := by
  cases c with
  | whole n =>
    refine List.Perm.of_eq (List.filter_congr fun card _ => ?_)
    exact Bool.decide_eq_true.symm
  | partitioned n slice =>
    rw [ranking, roomy_eq l n slice]
    refine ((List.mergeSort_perm _ _).append_right _).trans (List.perm_append_comm.trans ?_)
    exact List.filter_append_perm l.isUnused _

/-- No card is ranked twice. -/
theorem ranking_nodup (l : Ledger) (c : Claim) : (l.ranking c).Nodup :=
  (ranking_perm l c).nodup_iff.mpr (fitting_nodup l c)

/-- In the ranking, nothing that is partly used follows an untouched card, so a plan cannot open a new card while
one that is in use would do. -/
theorem ranking_pairwise (l : Ledger) (c : Claim) :
    (l.ranking c).Pairwise fun card other => l.isUnused card = true → l.isUnused other = true := by
  cases c with
  | whole n =>
    refine List.pairwise_of_forall_mem_list fun card _ other hother _ => ?_
    exact (List.mem_filter.mp hother).2
  | partitioned n slice =>
    refine List.pairwise_append.mpr ⟨?_, ?_, fun card _ other hother _ => (List.mem_filter.mp hother).2⟩
    · refine List.pairwise_of_forall_mem_list fun card hcard other _ hunused => ?_
      have hpartly := (List.mem_filter.mp (List.mem_mergeSort.mp hcard)).2
      rw [hunused] at hpartly
      cases hpartly
    · refine List.pairwise_of_forall_mem_list fun card _ other hother _ => ?_
      exact (List.mem_filter.mp hother).2

/-! ## Picks -/

/-- The partly used cards are looked through in the order of their numbers, and ranked by their room. -/
theorem tightest_filter (l : Ledger) (slice : UInt64) (isOpen : Nat → Bool) :
    l.tightest (((List.range l.cardCount).filter isOpen).filter fun card =>
        !l.isUnused card && decide (slice ≤ l.headroom card)) =
      (((l.roomy slice).filter fun card => !l.isUnused card).mergeSort l.tighter).find? isOpen := by
  rw [← List.head?_filter]
  refine tightest_eq_head? ((List.pairwise_lt_range.filter _).filter _) ?_
    ((List.pairwise_mergeSort tighter_trans tighter_total _).filter _)
  rw [← List.filter_filter, List.filter_comm _ isOpen, List.filter_comm _ isOpen]
  exact (List.mergeSort_perm _ _).filter _

/-- An untouched card has room for as much as a card holds. -/
theorem find?_untouched (l : Ledger) (slice : UInt64) (isOpen : Nat → Bool) :
    ((List.range l.cardCount).filter isOpen).find? (fun card =>
        l.isUnused card && decide (slice ≤ l.perCardGb)) =
      ((l.roomy slice).filter l.isUnused).find? isOpen := by
  have hroom : (List.range l.cardCount).filter (fun card => l.isUnused card && decide (slice ≤ l.perCardGb)) =
      (l.roomy slice).filter l.isUnused := by
    rw [roomy, List.filter_filter]
    refine List.filter_congr fun card _ => ?_
    cases hunused : l.isUnused card with
    | false => rfl
    | true => rw [headroom_of_isUnused hunused]
  rw [← List.head?_filter, ← List.head?_filter, List.filter_comm _ isOpen, hroom]

/-- **The card that is picked is the first of the ranking that is not chosen yet**, whatever is chosen. The
strategy itself looks through the open cards afresh each time; that this comes to one fixed order is the content
here. -/
theorem packFirst_eq_find? (l : Ledger) (c : Claim) (chosen : List Nat) :
    packFirst l c chosen = (l.ranking c).find? fun card => !chosen.contains card := by
  cases c with
  | whole n =>
    show (l.openCards chosen).find? l.isUnused = _
    rw [ranking, openCards, ← List.head?_filter, ← List.head?_filter, List.filter_comm]
  | partitioned n slice =>
    rw [ranking, List.find?_append, ← tightest_filter, ← find?_untouched]
    rfl

/-! ## Plans -/

/-- The first entry that is not among the first `k` is the one after them. -/
theorem find?_not_take (hnd : cards.Nodup) (k : Nat) :
    (cards.find? fun card => !(cards.take k).contains card) = cards[k]? := by
  have hdisjoint := List.disjoint_take_drop hnd (Nat.le_refl k)
  have htaken : (cards.take k).find? (fun card => !(cards.take k).contains card) = none :=
    List.find?_eq_none.mpr fun card hcard => by simpa using hcard
  have hleft : (cards.drop k).filter (fun card => !(cards.take k).contains card) = cards.drop k :=
    List.filter_eq_self.mpr fun card hcard => by simpa using fun htaken => hdisjoint htaken hcard
  calc cards.find? (fun card => !(cards.take k).contains card)
    _ = (cards.take k ++ cards.drop k).find? (fun card => !(cards.take k).contains card) := by
      rw [List.take_append_drop]
    _ = ((cards.drop k).filter fun card => !(cards.take k).contains card).head? := by
      rw [List.find?_append, htaken, Option.none_or, List.head?_filter]
    _ = cards[k]? := by rw [hleft, List.head?_drop]

/-- **A plan that has begun with the ranking goes on with it**, by induction on the cards that are still to be
picked. -/
theorem planFrom_ranking (l : Ledger) (c : Claim) : ∀ n k : Nat,
    l.planFrom packFirst c n ((l.ranking c).take k) = (l.ranking c).take (k + n)
  | 0, _ => rfl
  | n + 1, k => by
    unfold planFrom
    rw [packFirst_eq_find?, find?_not_take (ranking_nodup l c)]
    cases hnext : (l.ranking c)[k]? with
    | none =>
      have hend := List.getElem?_eq_none_iff.mp hnext
      rw [List.take_of_length_le hend, List.take_of_length_le (by omega)]
    | some card =>
      have hstep : (l.ranking c).take k ++ [card] = (l.ranking c).take (k + 1) := by
        rw [List.take_add_one, hnext]
        rfl
      dsimp only
      rw [hstep, planFrom_ranking l c n (k + 1), Nat.add_assoc, Nat.add_comm 1 n]

/-- A prefix of the ranking opens no untouched card too early. -/
theorem opensLast_take (l : Ledger) (c : Claim) (k : Nat) : l.OpensLast c ((l.ranking c).take k) := by
  intro before card after hsplit hunused other hfit hpartly
  have hrank : l.ranking c = before ++ card :: (after ++ (l.ranking c).drop k) := by
    rw [← List.cons_append, ← List.append_assoc, ← hsplit, List.take_append_drop]
  have hother : other ∈ l.ranking c := (ranking_perm l c).mem_iff.mpr (mem_fitting.mpr hfit)
  have hpair := ranking_pairwise l c
  rw [hrank] at hother hpair
  have hcard := (List.pairwise_cons.mp (List.pairwise_append.mp hpair).2.1).1
  rcases List.mem_append.mp hother with hbefore | hrest
  · exact hbefore
  · rcases List.mem_cons.mp hrest with rfl | hlater
    · rw [hunused] at hpartly
      cases hpartly
    · rw [hcard other hlater hunused] at hpartly
      cases hpartly

/-- **A plan is the beginning of the ranking of the cards that fit.** So a claim is allocated exactly where
as many cards fit as it asks for, and untouched cards come last. -/
theorem plan_packFirst (l : Ledger) (c : Claim) :
    (l.ranking c).Perm (l.fitting c) ∧
      l.plan packFirst c = (l.ranking c).take (min c.cards.toNat (l.fitting c).length) ∧
      (l.allocate packFirst c).1 =
        (if c.cards.toNat ≤ (l.fitting c).length then some ((l.ranking c).take c.cards.toNat) else none) ∧
      l.OpensLast c (l.plan packFirst c) := by
  have hlen := (ranking_perm l c).length_eq
  have hplan : l.plan packFirst c = (l.ranking c).take c.cards.toNat := by
    have hall := planFrom_ranking l c c.cards.toNat 0
    rwa [List.take_zero, Nat.zero_add] at hall
  refine ⟨ranking_perm l c, ?_, ?_, hplan ▸ opensLast_take l c _⟩
  · rw [hplan, ← hlen, ← List.take_eq_take_min]
  · have hshort : (l.plan packFirst c).length = min c.cards.toNat (l.fitting c).length := by
      rw [hplan, List.length_take, hlen]
    by_cases henough : c.cards.toNat ≤ (l.fitting c).length
    · rw [if_pos henough, allocate, if_neg (by omega), hplan]
    · rw [if_neg henough, allocate, if_pos (by omega)]

/-- The tightest cards come first, of two alike the lower, and the untouched card is opened last. -/
example : (Ledger.mk 40 [0, 30, 10, 30, 35]).plan packFirst (.partitioned 5 10) = [1, 3, 2, 0] := by
  decide

end FleetControl.Ledger
