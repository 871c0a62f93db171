import FleetControl.Proofs.Placement.Feasible
import FleetControl.Proofs.Service.Capacity
import FleetControl.Proofs.Store.History

/-!
# Images that are removed

What a unit takes of its cards is derived anew at every replay, from the specs and images that are still
found. Where the image is gone, the spec's own word decides; so a unit with whole cards, of an image that
allows no sharing, comes to take slices once its image is removed (`Store.claim?_of_recast`). Nothing else
changes: every other claim is what it was, and so are the amounts.

**The law** (`usage_without_images`): a removal keeps every claim exactly where it recasts none. Where the
recast slices are as large as a card, the cards are in use as before; where one is not and nothing had been
dropped, less is in use than before, while all units run on.

**What it does not establish.** What was dropped before a removal may find room after it, so where something
had been dropped nothing is said of the sum in use.
-/

namespace FleetControl

namespace Claim

variable {perCardGb : UInt64} {c : Claim}

/-- **The most memory that a claim can take** on cards of a capacity: a part larger than a card finds none. -/
def placeableGb (perCardGb : UInt64) (c : Claim) : Nat :=
  if c.partGb perCardGb ≤ perCardGb then c.memoryGb perCardGb else 0

theorem placeableGb_le (perCardGb : UInt64) (c : Claim) : c.placeableGb perCardGb ≤ c.memoryGb perCardGb := by
  unfold placeableGb
  split
  · exact Nat.le_refl _
  · exact Nat.zero_le _

end Claim

namespace Ledger

variable {l : Ledger} {c : Claim} {pick : Strategy}

/-! ## What claims can take -/

/-- A claim takes no more than it can, whichever cards it finds: a part that is larger than a card finds none. -/
theorem usedGb_replay_le (hp : pick.Sound) (hb : l.Bounded) (c : Claim) :
    (l.replay pick c).2.usedGb ≤ l.usedGb + c.placeableGb l.perCardGb := by
  rw [usedGb_replay hp hb, Claim.placeableGb]
  refine Nat.add_le_add_left ?_ _
  split
  · exact Nat.mul_le_mul_right _ (length_plan_le hp l c)
  · rename_i hlarge
    have hnone : l.plan pick c = [] := by
      refine List.eq_nil_iff_forall_not_mem.mpr fun card hcard => hlarge ?_
      have hroom := (plan_fits hp card hcard).room hb
      rw [UInt64.le_iff_toNat_le]
      omega
    show (l.plan pick c).length * _ ≤ 0
    rw [hnone, List.length_nil, Nat.zero_mul]

theorem usedGb_replayAll_le (hp : pick.Sound) : ∀ (cs : List Claim) {l : Ledger}, l.Bounded →
    (l.replayAll pick cs).usedGb ≤ l.usedGb + (cs.map (·.placeableGb l.perCardGb)).sum
  | [], _, _ => Nat.le_refl _
  | c :: rest, l, hb => by
    have ih := usedGb_replayAll_le hp rest (hb.replay pick c)
    have hstep := usedGb_replay_le hp hb c
    rw [perCardGb_replay] at ih
    rw [List.map_cons, List.sum_cons]
    change ((l.replay pick c).2.replayAll pick rest).usedGb ≤ _
    omega

/-! ## Slices as large as a card -/

/-- A slice as large as a card is placed as a whole card is: only an untouched card has room for it. -/
theorem packFirst_full (hper : 0 < l.perCardGb) (k : UInt64) (chosen : List Nat) :
    packFirst l (.partitioned k l.perCardGb) chosen = packFirst l (.whole k) chosen := by
  have hnone : (l.openCards chosen).filter (fun card => !l.isUnused card && l.perCardGb ≤ l.headroom card) = [] := by
    refine List.filter_eq_nil_iff.mpr fun card hcard => ?_
    obtain ⟨hlt, _⟩ := mem_openCards hcard
    obtain ⟨used, hget, _⟩ := getElem?_usage hlt
    by_cases hzero : used = 0
    · simp [isUnused, hget, hzero]
    -- a card that holds something has less than its capacity left
    · have hroom : ¬ l.perCardGb ≤ l.headroom card := by
        have hpos : 0 < used.toNat := Nat.pos_of_ne_zero fun h => hzero (UInt64.toNat_inj.mp h)
        have hcap := UInt64.lt_iff_toNat_lt.mp hper
        rw [UInt64.toNat_zero] at hcap
        rw [UInt64.le_iff_toNat_le, toNat_headroom hlt, holdsGb, hget, Option.getD_some]
        omega
      simp [hroom]
  have hunused : ∀ card, (l.isUnused card && decide (l.perCardGb ≤ l.perCardGb)) = l.isUnused card :=
    fun card => by rw [decide_eq_true (UInt64.le_refl _), Bool.and_true]
  unfold packFirst
  dsimp only
  rw [hnone]
  simp only [hunused]
  rfl

theorem planFrom_full (hper : 0 < l.perCardGb) (k : UInt64) : ∀ (n : Nat) (chosen : List Nat),
    l.planFrom packFirst (.partitioned k l.perCardGb) n chosen = l.planFrom packFirst (.whole k) n chosen
  | 0, _ => rfl
  | n + 1, chosen => by
    unfold planFrom
    rw [packFirst_full hper]
    split
    · rfl
    · exact planFrom_full hper k n _

/-- On untouched cards a slice as large as a card leaves what a whole card leaves, card by card. -/
theorem commit_full (k : UInt64) : ∀ {cards : List Nat} {l : Ledger}, cards.Nodup →
    (∀ card ∈ cards, l.Fits (.whole k) card) →
      l.commit (.partitioned k l.perCardGb) cards = l.commit (.whole k) cards
  | [], _, _, _ => rfl
  | card :: rest, l, hnd, hfit => by
    have hget : l.usage[card]? = some 0 := by
      simpa [Fits, isUnused] using hfit card List.mem_cons_self
    have hfull : min (0 + l.perCardGb) l.perCardGb = l.perCardGb := by
      rw [UInt64.zero_add, ← UInt64.toNat_inj, UInt64.toNat_min, Nat.min_self]
    have husage : ∀ other : Nat, (commitOne (.partitioned k l.perCardGb) l card).usage[other]? =
        (commitOne (.whole k) l card).usage[other]? := by
      intro other
      rw [getElem?_commitOne, getElem?_commitOne]
      split
      · rename_i he
        rw [← he, hget]
        exact congrArg some hfull
      · rfl
    have hone : commitOne (.partitioned k l.perCardGb) l card = commitOne (.whole k) l card :=
      congrArg (Ledger.mk l.perCardGb) (List.ext_getElem? husage)
    have ih := commit_full k (l := commitOne (.whole k) l card) (List.nodup_cons.mp hnd).2 (Fits.rest hnd hfit)
    rw [perCardGb_commitOne] at ih
    show (commitOne _ l card).commit _ rest = (commitOne _ l card).commit _ rest
    rw [hone, ih]

/-- **A slice as large as a card is replayed as a whole card is**, so such a recast shows nowhere in the usage. -/
theorem replay_full (hper : 0 < l.perCardGb) (k : UInt64) :
    l.replay packFirst (.partitioned k l.perCardGb) = l.replay packFirst (.whole k) := by
  have hplan : l.plan packFirst (.partitioned k l.perCardGb) = l.plan packFirst (.whole k) :=
    planFrom_full hper k _ _
  unfold replay
  dsimp only
  rw [hplan, commit_full k (plan_nodup packFirst_sound l _) (plan_fits packFirst_sound)]

end Ledger

/-- A usage is its amounts and its cards. -/
theorem Usage.eq_of_used {u u' : Usage} (h : ∀ r : Resource, r.used u = r.used u')
    (hcards : u.cards = u'.cards) : u = u' := by
  cases u
  cases u'
  rw [mk.injEq]
  exact ⟨h .cpuCores, h .memory, h .systemDisk, h .dataDisk, hcards⟩

namespace Store

variable {s : Store} {now : Time.Instant} {ids : List RecordId} {n : Node} {f : Footprint} {spec : Spec}
  {pick : Strategy}

/-- **The records without some images.** -/
def withoutImages (s : Store) (now : Time.Instant) (ids : List RecordId) : Store :=
  { s with images := (s.images.delete now ids).2 }

theorem find?_withoutImages (s : Store) (now : Time.Instant) (ids : List RecordId) (i : RecordId) :
    (s.withoutImages now ids).images.find? i = if i ∈ ids then none else s.images.find? i := by
  show ((s.images.delete now ids).2.row? i).filter Record.isLive = _
  rw [Repository.row?_delete]
  split
  · cases s.images.row? i with
    | none => rfl
    | some image => simp [Repository.isLive_struck]
  · simp [Repository.find?]

/-! ## Claims -/

/-- **A resident's claim is recast** where its image, which allows no sharing, is removed, and its spec has a
slice for each card. -/
structure Recast (s : Store) (ids : List RecordId) (n : Node) (f : Footprint) (spec : Spec) : Prop where
  removed : f.imageId ∈ ids
  image : ∃ image, s.images.find? f.imageId = some image ∧ image.supportsSplit = false
  found : s.specs.find? f.specId = some spec
  splits : spec.supportsSplit = true
  slice : 0 < spec.gpuMemoryGb / spec.gpuCount
  capacity : 0 < n.perCardGb

theorem Recast.gpuCount_ne_zero (h : s.Recast ids n f spec) : spec.gpuCount ≠ 0 := by
  intro hzero
  have hslice := h.slice
  rw [hzero, UInt64.div_zero] at hslice
  exact absurd hslice (by decide)

/-- **Whole cards become slices**: the claim was for whole cards because of the image, and the spec by itself
makes one for slices. -/
theorem claim?_of_recast (now : Time.Instant) (h : s.Recast ids n f spec) :
    s.claim? n f = some (.whole spec.gpuCount) ∧ (s.withoutImages now ids).claim? n f =
      some (.partitioned spec.gpuCount (spec.gpuMemoryGb / spec.gpuCount)) := by
  obtain ⟨image, himage, hsplit⟩ := h.image
  have hbefore : s.isPartitioned f spec = false := by
    rw [isPartitioned, himage, Spec.partitions, Option.all_some, hsplit, Bool.and_false]
  have hafter : (s.withoutImages now ids).isPartitioned f spec = true := by
    rw [isPartitioned, find?_withoutImages, if_pos h.removed, Spec.partitions, h.splits]
    rfl
  constructor
  · rw [claim?, h.found, Option.bind_some, hbefore]
    exact Claim.of?_eq_whole_iff.mpr ⟨rfl, h.gpuCount_ne_zero, fun hshares => Bool.false_ne_true hshares.1⟩
  · rw [claim?, show (s.withoutImages now ids).specs = s.specs from rfl, h.found, Option.bind_some, hafter]
    exact Claim.of?_eq_partitioned_iff.mpr ⟨⟨rfl, rfl⟩, rfl, h.slice, h.capacity⟩

/-- **Every other claim is what it was**, be its image gone or not. -/
theorem claim?_of_not_recast (now : Time.Instant) (h : ∀ spec, ¬ s.Recast ids n f spec) :
    (s.withoutImages now ids).claim? n f = s.claim? n f := by
  unfold claim?
  show (s.specs.find? f.specId).bind _ = _
  cases hspec : s.specs.find? f.specId with
  | none => rfl
  | some spec =>
    rw [Option.bind_some, Option.bind_some]
    have hnot := h spec
    unfold isPartitioned
    rw [find?_withoutImages]
    by_cases hid : f.imageId ∈ ids
    · rw [if_pos hid]
      cases himage : s.images.find? f.imageId with
      | none => rfl
      | some image =>
        cases hsplit : image.supportsSplit with
        | true => simp [Spec.partitions, hsplit]
        -- the spec has no slice to fall back on, so whole cards are claimed as before
        | false =>
          have hwhole : ¬ (spec.supportsSplit = true ∧ 0 < spec.gpuMemoryGb / spec.gpuCount ∧
              0 < n.perCardGb) := fun ⟨hsplits, hslice, hcap⟩ =>
            hnot ⟨hid, ⟨image, himage, hsplit⟩, hspec, hsplits, hslice, hcap⟩
          simp only [Claim.of?, Spec.partitions, hsplit, Option.all_some, Option.all_none, Bool.and_true,
            Bool.and_false, Bool.false_eq_true, false_and, if_neg hwhole, if_false]
    · rw [if_neg hid]

/-! ## What is in use -/

/-- The amounts are asked for by the specs alone, and images have no part in them. -/
theorem used_withoutImages (s : Store) (now : Time.Instant) (ids : List RecordId) (n : Node)
    (pick : Strategy) (r : Resource) :
    r.used ((s.withoutImages now ids).usage pick n) = r.used (s.usage pick n) := by
  rw [← UInt64.toNat_inj, used_usage, used_usage]
  rfl

/-- Where the cards are in use as before, all of the usage is as before, since the amounts never change. -/
theorem usage_withoutImages_iff : (s.withoutImages now ids).usage pick n = s.usage pick n ↔
    ((s.withoutImages now ids).usage pick n).cards = (s.usage pick n).cards :=
  ⟨congrArg Usage.cards, Usage.eq_of_used (s.used_withoutImages now ids n pick)⟩

/-- **The usage and every claim are kept exactly where none is recast.** -/
theorem usage_and_claims_iff (s : Store) (now : Time.Instant) (ids : List RecordId) (n : Node)
    (pick : Strategy) : ((s.withoutImages now ids).usage pick n = s.usage pick n ∧
      ∀ f ∈ s.residents n, (s.withoutImages now ids).claim? n f = s.claim? n f) ↔
      ∀ f ∈ s.residents n, ∀ spec, ¬ s.Recast ids n f spec := by
  constructor
  · rintro ⟨_, hkept⟩ f hf spec hrecast
    obtain ⟨hbefore, hafter⟩ := claim?_of_recast now hrecast
    have hsame := hkept f hf
    rw [hbefore, hafter] at hsame
    cases hsame
  · intro hnone
    have hkept : ∀ f ∈ s.residents n, (s.withoutImages now ids).claim? n f = s.claim? n f :=
      fun f hf => claim?_of_not_recast now (hnone f hf)
    refine ⟨usage_withoutImages_iff.mpr ?_, hkept⟩
    have hclaims : (s.withoutImages now ids).claims n = s.claims n := List.filterMap_congr hkept
    rw [cards_usage, cards_usage, hclaims]

/-- **Where every recast slice is as large as a card, the cards are in use as before.** -/
theorem usage_of_full_slices (hfull : ∀ f ∈ s.residents n, ∀ spec, s.Recast ids n f spec →
      spec.gpuMemoryGb / spec.gpuCount = n.perCardGb) :
    (s.withoutImages now ids).usage Ledger.packFirst n = s.usage Ledger.packFirst n := by
  -- claim by claim the two replays leave the same cards
  suffices hreplay : ∀ (fs : List Footprint) (l : Ledger), (∀ f ∈ fs, f ∈ s.residents n) →
      l.perCardGb = n.perCardGb →
        l.replayAll Ledger.packFirst (fs.filterMap ((s.withoutImages now ids).claim? n)) =
          l.replayAll Ledger.packFirst (fs.filterMap (s.claim? n)) by
    rw [usage_withoutImages_iff, cards_usage, cards_usage]
    exact hreplay (s.residents n) _ (fun _ hf => hf) rfl
  intro fs
  induction fs with
  | nil => exact fun _ _ _ => rfl
  | cons f rest ih =>
    intro l hmem hper
    obtain ⟨hf, hrest⟩ := List.forall_mem_cons.mp hmem
    by_cases hrecast : ∃ spec, s.Recast ids n f spec
    · obtain ⟨spec, hspec⟩ := hrecast
      obtain ⟨hbefore, hafter⟩ := claim?_of_recast now hspec
      have hslice := hfull f hf spec hspec
      have hstep := Ledger.replay_full (hper ▸ hspec.capacity) spec.gpuCount
      rw [List.filterMap_cons, List.filterMap_cons, hbefore, hafter, hslice, ← hper]
      show (l.replay _ _).2.replayAll _ _ = (l.replay _ _).2.replayAll _ _
      rw [hstep, ih _ hrest ((Ledger.perCardGb_replay l _ _).trans hper)]
    · have hkept := claim?_of_not_recast now fun spec hspec => hrecast ⟨spec, hspec⟩
      rw [List.filterMap_cons, List.filterMap_cons, hkept]
      cases s.claim? n f with
      | none => exact ih l hrest hper
      | some claim => exact ih _ hrest ((Ledger.perCardGb_replay l _ _).trans hper)

/-- The most memory that a resident can take on a node. -/
def placeableGb (s : Store) (n : Node) (f : Footprint) : Nat :=
  ((s.claim? n f).map (·.placeableGb n.perCardGb)).getD 0

theorem placeableGb_le (s : Store) (n : Node) (f : Footprint) : s.placeableGb n f ≤ s.askedGb n f := by
  unfold placeableGb askedGb
  cases s.claim? n f with
  | none => exact Nat.le_refl _
  | some claim => exact claim.placeableGb_le n.perCardGb

/-- A claim that is recast can take no more than it did, and less where its slice is not a whole card. -/
theorem placeableGb_of_recast (h : s.Recast ids n f spec) :
    (s.withoutImages now ids).placeableGb n f ≤ s.askedGb n f ∧
      (spec.gpuMemoryGb / spec.gpuCount ≠ n.perCardGb →
        (s.withoutImages now ids).placeableGb n f < s.askedGb n f) := by
  obtain ⟨hbefore, hafter⟩ := claim?_of_recast now h
  have hcards : 0 < spec.gpuCount.toNat :=
    Nat.pos_of_ne_zero fun hzero => h.gpuCount_ne_zero (UInt64.toNat_inj.mp hzero)
  have hcap := UInt64.lt_iff_toNat_lt.mp h.capacity
  rw [UInt64.toNat_zero] at hcap
  have hasked : s.askedGb n f = spec.gpuCount.toNat * n.perCardGb.toNat := by
    rw [askedGb, hbefore]
    rfl
  have hplaceable : (s.withoutImages now ids).placeableGb n f =
      if spec.gpuMemoryGb / spec.gpuCount ≤ n.perCardGb then
        spec.gpuCount.toNat * (spec.gpuMemoryGb / spec.gpuCount).toNat else 0 := by
    rw [placeableGb, hafter]
    rfl
  rw [hasked, hplaceable]
  split
  · rename_i hle
    have hle := UInt64.le_iff_toNat_le.mp hle
    refine ⟨Nat.mul_le_mul_left _ hle, fun hne => Nat.mul_lt_mul_of_pos_left ?_ hcards⟩
    exact Nat.lt_of_le_of_ne hle fun heq => hne (UInt64.toNat_inj.mp heq)
  · exact ⟨Nat.zero_le _, fun _ => Nat.mul_pos hcards hcap⟩

/-- **Less is in use** after a removal that recasts a claim to smaller slices, where nothing had been dropped:
what was in use is what was asked for, and now no more than less can be taken. -/
theorem usedGb_lt_of_recast (hp : pick.Sound) (hdropped : s.droppedGb pick n = 0) (hf : f ∈ s.residents n)
    (h : s.Recast ids n f spec) (hslice : spec.gpuMemoryGb / spec.gpuCount ≠ n.perCardGb) :
    ((s.withoutImages now ids).usage pick n).cards.usedGb < (s.usage pick n).cards.usedGb := by
  have hbefore : (s.usage pick n).cards.usedGb = ((s.residents n).map (s.askedGb n)).sum := by
    rw [← claimedGb_eq_sum, ← usedGb_add_droppedGb hp, hdropped, Nat.add_zero]
  have hafter : ((s.withoutImages now ids).usage pick n).cards.usedGb ≤
      ((s.residents n).map ((s.withoutImages now ids).placeableGb n)).sum := by
    have hle := Ledger.usedGb_replayAll_le hp ((s.withoutImages now ids).claims n)
      (Ledger.untouched_bounded n.gpuCount n.perCardGb)
    rw [Ledger.usedGb_untouched, Nat.zero_add] at hle
    rw [cards_usage]
    exact hle.trans_eq (sum_map_filterMap _ _ _)
  rw [hbefore]
  refine hafter.trans_lt (List.sum_lt_sum _ _ (fun g _ => ?_) ⟨f, hf, (placeableGb_of_recast h).2 hslice⟩)
  by_cases hrecast : ∃ spec, s.Recast ids n g spec
  · obtain ⟨_, hspec⟩ := hrecast
    exact (placeableGb_of_recast hspec).1
  · have hkept := claim?_of_not_recast now fun spec hspec => hrecast ⟨spec, hspec⟩
    have hle := (s.withoutImages now ids).placeableGb_le n g
    unfold askedGb at hle ⊢
    rwa [hkept] at hle

/-- **What a removal of images does to a node.** The amounts in use are kept. The usage is kept together with
every resident's claim exactly where no claim is recast; the usage alone also where each recast slice is as
large as a card, and less memory of cards is in use where one is not and nothing had been dropped. -/
theorem usage_without_images (fl : Fleet) (ids : List RecordId) (n : Node) :
    (Job.delete Job.images ids).run.run fl = (.ok (fl.store.images.delete fl.now ids).1,
      { fl with store := fl.store.withoutImages fl.now ids }) ∧
    (∀ pick r, Resource.used ((fl.store.withoutImages fl.now ids).usage pick n) r =
      Resource.used (fl.store.usage pick n) r) ∧
    (∀ pick, ((fl.store.withoutImages fl.now ids).usage pick n = fl.store.usage pick n ∧
        ∀ f ∈ fl.store.residents n, (fl.store.withoutImages fl.now ids).claim? n f = fl.store.claim? n f) ↔
      ∀ f ∈ fl.store.residents n, ∀ spec, ¬ fl.store.Recast ids n f spec) ∧
    ((∀ f ∈ fl.store.residents n, ∀ spec, fl.store.Recast ids n f spec →
        spec.gpuMemoryGb / spec.gpuCount = n.perCardGb) →
      (fl.store.withoutImages fl.now ids).usage Ledger.packFirst n = fl.store.usage Ledger.packFirst n) ∧
    ∀ pick, pick.Sound → fl.store.droppedGb pick n = 0 → ∀ f ∈ fl.store.residents n, ∀ spec,
      fl.store.Recast ids n f spec → spec.gpuMemoryGb / spec.gpuCount ≠ n.perCardGb →
        ((fl.store.withoutImages fl.now ids).usage pick n).cards.usedGb <
          (fl.store.usage pick n).cards.usedGb :=
  ⟨Job.run_write _ _ fl, fun pick r => used_withoutImages _ _ _ n pick r,
    fun pick => usage_and_claims_iff _ _ _ n pick, usage_of_full_slices,
    fun _ hp hdropped _ hf _ h hslice => usedGb_lt_of_recast hp hdropped hf h hslice⟩

end Store

namespace Service

/-- The small records with an image that allows no sharing. -/
def wholeFleet : Fleet :=
  { smallFleet with store := { smallStore with
      images := ⟨[{ smallImage with supportsSplit := false }], 2, List.pairwise_singleton _ _⟩ } }

/-- The one unit of the small service is recast, with nothing dropped before, and less than its card is in use. -/
theorem usage_without_images_small :
    Strategy.Sound Ledger.packFirst ∧
    ∃ fl, serveAll smallService [⟨_, .create admin (smallOrder 1)⟩] wholeFleet = some fl ∧
      fl.store.droppedGb Ledger.packFirst smallNode = 0 ∧
      (∃ f ∈ fl.store.residents smallNode, ∃ spec, fl.store.Recast [1] smallNode f spec) ∧
      ((fl.store.withoutImages fl.now [1]).usage Ledger.packFirst smallNode).cards.usedGb <
        (fl.store.usage Ledger.packFirst smallNode).cards.usedGb := by
  have hserve : (serveAll smallService [⟨_, .create admin (smallOrder 1)⟩] wholeFleet).map (fun fl =>
      (fl.store.droppedGb Ledger.packFirst smallNode,
        (fl.store.residents smallNode).map fun f =>
          (f.imageId, (fl.store.images.find? f.imageId).map (·.supportsSplit),
            (fl.store.specs.find? f.specId).map fun spec =>
              (spec.supportsSplit, spec.gpuMemoryGb / spec.gpuCount)))) =
      some (0, [(1, some false, some (true, 1))]) := by
    rfl
  obtain ⟨fl, hfl, hfound⟩ := Option.map_eq_some_iff.mp hserve
  obtain ⟨hdropped, hresidents⟩ := Prod.mk.inj hfound
  obtain ⟨f, hf, hrow⟩ := List.mem_map.mp (hresidents.symm ▸ List.mem_singleton_self _)
  obtain ⟨hid, himage, hspec⟩ := by simpa only [Prod.mk.injEq] using hrow
  obtain ⟨image, hfindImage, hsplit⟩ := Option.map_eq_some_iff.mp himage
  obtain ⟨spec, hfindSpec, hslice⟩ := Option.map_eq_some_iff.mp hspec
  obtain ⟨hsplits, hslice⟩ := Prod.mk.inj hslice
  have hrecast : fl.store.Recast [1] smallNode f spec :=
    ⟨by rw [hid]; decide, ⟨image, hfindImage, hsplit⟩, hfindSpec, hsplits, by rw [hslice]; decide, by decide⟩
  obtain ⟨_, _, _, _, hless⟩ := Store.usage_without_images fl [1] smallNode
  exact ⟨Ledger.packFirst_sound, fl, hfl, hdropped, ⟨f, hf, spec, hrecast⟩,
    hless _ Ledger.packFirst_sound hdropped f hf spec hrecast (by rw [hslice]; decide)⟩

/-- **A running unit loses its card**: it was accepted with one of two cards of three gigabytes, and once its
image is removed one gigabyte of that card is in use. -/
theorem removed_image_frees_memory : ∃ fl,
    serveAll smallService [⟨_, .create admin (smallOrder 1)⟩] wholeFleet = some fl ∧
    (fl.store.usage Ledger.packFirst smallNode).cards.usage = [3, 0] ∧
    (((Job.delete Job.images [1]).run.run fl).2.store.usage Ledger.packFirst smallNode).cards.usage = [1, 0] := by
  have hserve : (serveAll smallService [⟨_, .create admin (smallOrder 1)⟩] wholeFleet).map (fun fl =>
      ((fl.store.usage Ledger.packFirst smallNode).cards.usage,
        (((Job.delete Job.images [1]).run.run fl).2.store.usage Ledger.packFirst smallNode).cards.usage)) =
      some ([3, 0], [1, 0]) := by
    decide +kernel
  obtain ⟨fl, hfl, husage⟩ := Option.map_eq_some_iff.mp hserve
  obtain ⟨hbefore, hafter⟩ := Prod.mk.inj husage
  exact ⟨fl, hfl, hbefore, hafter⟩

end Service

end FleetControl
