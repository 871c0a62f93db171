import FleetControl.Proofs.Gpu.Account
import FleetControl.Proofs.Placement.Occupancy

/-!
# What one more workload adds

The usage of a node depends on the specs, on the images, and on the footprints of the workloads there
(`usage_congr`). A footprint at the end of the order is accounted for last, on its own node
(`usage_append`); so what a candidate was found for is what is added when it is placed
(`grows_of_candidate`): each amount in full and within the node's, and the claim on cards as the
ledger allocated it.

The claims of a node's residents are replayed onto untouched cards (`cards_usage`). What they ask for
together is what is in use and what was dropped (`usedGb_add_droppedGb`), so they exceed the memory of
the cards exactly where more is dropped than is free (`claimedGb_le_iff`).
-/

namespace FleetControl

/-- GPU memory of a node's cards together, as an exact number. -/
def Node.capacityGb (n : Node) : Nat := n.gpuCount.toNat * n.perCardGb.toNat

/-- **What one more workload of a spec adds to a node's usage**: each amount exactly and within the
node's, and the cards as the ledger allocates them. -/
structure Usage.Grows (pick : Strategy) (n : Node) (spec : Spec) (isPartitioned : Bool) (u u' : Usage) :
    Prop where
  cpuCores : u'.cpuCores.toNat = u.cpuCores.toNat + spec.cpuCores.toNat
  memoryGb : u'.memoryGb.toNat = u.memoryGb.toNat + spec.memoryGb.toNat
  systemDiskGb : u'.systemDiskGb.toNat = u.systemDiskGb.toNat + spec.systemDiskGb.toNat
  dataDiskGb : u'.dataDiskGb.toNat = u.dataDiskGb.toNat + spec.dataDiskGb.toNat
  cpuCores_le : u'.cpuCores ≤ n.cpuCores
  memoryGb_le : u'.memoryGb ≤ n.memoryGb
  systemDiskGb_le : u'.systemDiskGb ≤ n.systemDiskGb
  dataDiskGb_le : u'.dataDiskGb ≤ n.dataDiskGb
  cards : match Claim.of? spec.gpuCount spec.gpuMemoryGb isPartitioned n.perCardGb with
    | none => u'.cards = u.cards
    | some c => ∃ cards, u.cards.allocate pick c = (some cards, u'.cards) ∧ cards.length = c.cards.toNat

namespace Candidate

variable {total used required : UInt64} {pick : Strategy} {n : Node} {u : Usage} {spec : Spec}
  {isPartitioned : Bool} {c : Candidate}

/-- An amount that suffices is added without overflow, and stays within the total; so a placement that was checked
leaves exact amounts behind. -/
theorem add_of_le (h : used.toNat + required.toNat ≤ total.toNat) :
    (used + required).toNat = used.toNat + required.toNat ∧ used + required ≤ total := by
  have hlt := total.toNat_lt
  have hadd : (used + required).toNat = used.toNat + required.toNat := by
    rw [UInt64.toNat_add]
    exact Nat.mod_eq_of_lt (by omega)
  refine ⟨hadd, UInt64.le_iff_toNat_le.mpr ?_⟩
  rw [hadd]
  exact h

/-- A claim for which cards were found is one that the ledger allocates, with the same strategy: the search is
itself a trial of the allocation. -/
theorem allocate_of_cardsFor {l : Ledger} {perCardGb : UInt64} {usable : Nat} {claim : Claim}
    (h : cardsFor l spec isPartitioned perCardGb pick = some usable)
    (hc : Claim.of? spec.gpuCount spec.gpuMemoryGb isPartitioned perCardGb = some claim) :
    ∃ cards, (l.allocate pick claim).1 = some cards := by
  simp only [cardsFor, hc] at h
  split at h
  · cases h
  · rename_i cards hcards
    exact ⟨cards, hcards⟩

/-- **A node that is found to take a spec takes it**, all of it: each amount exactly, and the cards as they were
allocated in the trial. -/
theorem grows (hp : pick.Sound) (hcards : u.cards.perCardGb = n.perCardGb)
    (h : Candidate.of? n u spec isPartitioned pick = some c) :
    u.Grows pick n spec isPartitioned (u.add spec isPartitioned pick) := by
  obtain ⟨_, _, hamounts, ⟨usable, husable, _⟩, _⟩ := describes_of h
  have hadd : ∀ r : Resource, (r.used u + r.asked spec).toNat = (r.used u).toNat + (r.asked spec).toNat ∧
      r.used u + r.asked spec ≤ r.total n := fun r => add_of_le (hamounts r).1
  refine
    { cpuCores := (hadd .cpuCores).1, cpuCores_le := (hadd .cpuCores).2
      memoryGb := (hadd .memory).1, memoryGb_le := (hadd .memory).2
      systemDiskGb := (hadd .systemDisk).1, systemDiskGb_le := (hadd .systemDisk).2
      dataDiskGb := (hadd .dataDisk).1, dataDiskGb_le := (hadd .dataDisk).2
      cards := ?_ }
  simp only [Usage.add, Usage.claimed, hcards]
  cases hc : Claim.of? spec.gpuCount spec.gpuMemoryGb isPartitioned n.perCardGb with
  | none => rfl
  | some claim =>
    obtain ⟨cards, hsome⟩ := allocate_of_cardsFor husable hc
    obtain ⟨halloc, _, hlen⟩ := Ledger.allocate_eq_some hp hsome
    exact ⟨cards, halloc, hlen⟩

end Candidate

namespace Store

variable {s s' : Store} {pick : Strategy} {n : Node} {f : Footprint}

/-! ## Claims -/

/-- The claim of a resident on a node's cards, if it makes one. -/
def claim? (s : Store) (n : Node) (f : Footprint) : Option Claim :=
  (s.specs.find? f.specId).bind fun spec =>
    Claim.of? spec.gpuCount spec.gpuMemoryGb (s.isPartitioned f spec) n.perCardGb

/-- The claims that footprints make on a node's cards. -/
def claimsOf (s : Store) (n : Node) (fs : List Footprint) : List Claim :=
  (fs.filter fun f => f.nodeId == n.id).filterMap (s.claim? n)

/-- **The claims of a node's residents**, in the order of their identifiers. -/
def claims (s : Store) (n : Node) : List Claim := s.claimsOf n s.footprints

/-- **GPU memory that a node's residents ask for**, as an exact number. -/
def claimedGb (s : Store) (n : Node) : Nat := ((s.claims n).map (·.memoryGb n.perCardGb)).sum

/-- **GPU memory that the residents ask for and the replay finds no card for.** -/
def droppedGb (s : Store) (pick : Strategy) (n : Node) : Nat :=
  (Ledger.untouched n.gpuCount n.perCardGb).droppedGb pick (s.claims n)

/-- Accounting for a resident replays its claim on the cards; a resident without a claim leaves them alone. -/
theorem cards_account (f : Footprint) {u : Usage} (hu : u.cards.perCardGb = n.perCardGb) :
    (s.account pick u f).cards =
      match s.claim? n f with
      | none => u.cards
      | some c => (u.cards.replay pick c).2 := by
  unfold account claim?
  cases hfind : s.specs.find? f.specId with
  | none => rfl
  | some spec =>
    cases hc : Claim.of? spec.gpuCount spec.gpuMemoryGb (s.isPartitioned f spec) n.perCardGb <;>
      simp only [Usage.add, Usage.claimed, hu, Option.bind_some, hc]

/-- Residents one after another replay their claims in the same order, by induction over them. -/
theorem cards_foldl_account : ∀ (fs : List Footprint) {u : Usage}, u.cards.perCardGb = n.perCardGb →
    (fs.foldl (s.account pick) u).cards = u.cards.replayAll pick (fs.filterMap (s.claim? n))
  | [], _, _ => rfl
  | f :: rest, u, hu => by
    have hcards : (s.account pick u f).cards = _ := cards_account f hu
    rw [List.foldl_cons, List.filterMap_cons]
    cases hc : s.claim? n f with
    | none =>
      simp only [hc] at hcards ⊢
      rw [cards_foldl_account rest (hcards ▸ hu), hcards]
    | some c =>
      simp only [hc] at hcards ⊢
      -- the next claims are derived from the capacity of a card, which no replay changes
      have hper : (s.account pick u f).cards.perCardGb = n.perCardGb := by
        rw [hcards, Ledger.perCardGb_replay, hu]
      rw [cards_foldl_account rest hper, hcards]
      rfl

/-- **The cards of a node are its residents' claims, replayed onto untouched ones**, in the order of the
identifiers and not in that of the orders. -/
theorem cards_usage (s : Store) (pick : Strategy) (n : Node) : (s.usage pick n).cards =
    (Ledger.untouched n.gpuCount n.perCardGb).replayAll pick (s.claims n) := by
  rw [usage_eq]
  exact cards_foldl_account (s.residents n) rfl

/-- A replay does not change what a card can hold. -/
theorem perCardGb_usage (s : Store) (pick : Strategy) (n : Node) :
    (s.usage pick n).cards.perCardGb = n.perCardGb := by
  rw [cards_usage, Ledger.perCardGb_replayAll]
  rfl

/-- No more is in use than the cards have, whatever the residents ask for together. -/
theorem usedGb_usage_le (s : Store) (pick : Strategy) (n : Node) :
    (s.usage pick n).cards.usedGb ≤ n.capacityGb := by
  have hb := (Ledger.untouched_bounded n.gpuCount n.perCardGb).replayAll pick (s.claims n)
  have hle := hb.usedGb_le
  rw [Ledger.cardCount_replayAll, Ledger.perCardGb_replayAll] at hle
  simpa [cards_usage, Node.capacityGb, Ledger.untouched, Ledger.cardCount] using hle

/-- **What is in use and what was dropped is what the residents ask for**, so a replay loses no memory but what it
finds no card for. -/
theorem usedGb_add_droppedGb (hp : pick.Sound) (s : Store) (n : Node) :
    (s.usage pick n).cards.usedGb + s.droppedGb pick n = s.claimedGb n := by
  have h := Ledger.usedGb_replayAll hp (s.claims n) (Ledger.untouched_bounded n.gpuCount n.perCardGb)
  rw [Ledger.usedGb_untouched, Nat.zero_add] at h
  rw [cards_usage]
  exact h

/-- **The residents ask for more than the cards have exactly where more is dropped than is free.** That something
was dropped is not enough, for a claim may be dropped while there is room in other places. -/
theorem claimedGb_le_iff (hp : pick.Sound) (s : Store) (n : Node) :
    s.claimedGb n ≤ n.capacityGb ↔
      s.droppedGb pick n ≤ n.capacityGb - (s.usage pick n).cards.usedGb := by
  have hsum := usedGb_add_droppedGb hp s n
  have hle := usedGb_usage_le s pick n
  omega

/-! ## The same records, and one more -/

/-- Specs and images are the same, so a footprint means the same. -/
structure SameCatalog (s s' : Store) : Prop where
  specs : s'.specs = s.specs
  images : s'.images = s.images

/-- With the same specs and images, a footprint is accounted for in the same way. -/
theorem SameCatalog.account (h : SameCatalog s s') : s'.account pick = s.account pick := by
  funext u f
  unfold Store.account isPartitioned
  rw [h.specs, h.images]

/-- With the same specs and images, a footprint makes the same claim. -/
theorem SameCatalog.claim? (h : SameCatalog s s') (n : Node) : s'.claim? n = s.claim? n := by
  funext f
  unfold Store.claim? isPartitioned
  rw [h.specs, h.images]

/-- **The same footprints take the same room**, as long as specs and images are the same. -/
theorem usage_congr (h : SameCatalog s s') (hf : s'.footprints = s.footprints) (pick : Strategy)
    (n : Node) : s'.usage pick n = s.usage pick n := by
  rw [usage_eq, usage_eq, residents, residents, hf, h.account]

/-- **One more footprint is accounted for on its own node**, after all others; on other nodes it has no part. -/
theorem usage_append (h : SameCatalog s s') (hf : s'.footprints = s.footprints ++ [f]) (pick : Strategy)
    (n : Node) : s'.usage pick n =
      if f.nodeId = n.id then s.account pick (s.usage pick n) f else s.usage pick n := by
  rw [usage_eq, usage_eq, residents, residents, hf, List.filter_append, List.foldl_append, h.account]
  by_cases hn : f.nodeId = n.id <;> simp [hn]

/-- Entries agree where the usage of the nodes of that identifier does, whatever the other nodes are. -/
theorem lookup_occupancy_congr {k : RecordId}
    (h : ∀ m : Node, m.id = k → s'.usage pick m = s.usage pick m) (ns : List Node) :
    (s'.occupancy pick ns).lookup k = (s.occupancy pick ns).lookup k := by
  rw [lookup_occupancy, lookup_occupancy]
  cases hfind : ns.reverse.find? fun m => m.id == k with
  | none => rfl
  | some m =>
    have hid : m.id = k := by simpa using List.find?_some hfind
    rw [Option.map_some, Option.map_some, h m hid]

/-- The claims of one more footprint come last, and only on the node that it is on. -/
theorem claimsOf_append (s : Store) (n : Node) (fs : List Footprint) (f : Footprint) :
    s.claimsOf n (fs ++ [f]) =
      s.claimsOf n fs ++ if f.nodeId = n.id then (s.claim? n f).toList else [] := by
  unfold claimsOf
  rw [List.filter_append, List.filterMap_append]
  by_cases hn : f.nodeId = n.id
  · cases hc : s.claim? n f <;> simp [hn, hc]
  · simp [hn]

/-- **A candidate's claim is one that the ledger allocates**, on top of what is committed: the check tried this
very claim on this very ledger. -/
theorem allocate_of_candidate {spec : Spec} {image : Image} {c : Candidate} {claim : Claim}
    (hspec : s.specs.find? f.specId = some spec) (himage : s.images.find? f.imageId = some image)
    (hc : s.checkNode pick spec image n = .ok c) (hclaim : s.claim? n f = some claim) :
    ∃ cards, ((s.usage pick n).cards.allocate pick claim).1 = some cards := by
  have htakes := checkNode_eq_ok_iff.mp hc
  simp only [Store.claim?, hspec, isPartitioned, himage, Option.bind_some] at hclaim
  obtain ⟨usable, husable, _⟩ := (Candidate.describes_of htakes).cards
  exact Candidate.allocate_of_cardsFor husable hclaim

/-- **A claim that is allocated fits beside what is in use**, within the memory of the node's cards. -/
theorem usedGb_add_memoryGb_le {claim : Claim} {cards : List Nat} (hp : pick.Sound)
    (h : ((s.usage pick n).cards.allocate pick claim).1 = some cards) :
    (s.usage pick n).cards.usedGb + claim.memoryGb n.perCardGb ≤ n.capacityGb := by
  have hb : (s.usage pick n).cards.Bounded := by
    rw [cards_usage]
    exact (Ledger.untouched_bounded _ _).replayAll pick _
  have hle := (hb.replay pick claim).usedGb_le
  obtain ⟨_, hcards, hlen⟩ := Ledger.allocate_eq_some hp h
  rw [Ledger.usedGb_replay hp hb, hcards, hlen, Ledger.cardCount_replay, Ledger.perCardGb_replay,
    perCardGb_usage, cards_usage, Ledger.cardCount_replayAll] at hle
  rw [cards_usage]
  simpa [Node.capacityGb, Claim.memoryGb, Ledger.untouched, Ledger.cardCount] using hle

/-- **A candidate that is placed takes what it was found for.** The workload of a new order has the largest
identifier, so it comes last in the replay, as the claim came last in the trial. -/
theorem grows_of_candidate {spec : Spec} {image : Image} {c : Candidate} (hp : pick.Sound)
    (h : SameCatalog s s') (hf : s'.footprints = s.footprints ++ [f]) (hn : f.nodeId = n.id)
    (hspec : s.specs.find? f.specId = some spec) (himage : s.images.find? f.imageId = some image)
    (hc : s.checkNode pick spec image n = .ok c) :
    (s.usage pick n).Grows pick n spec (spec.partitions (some image)) (s'.usage pick n) := by
  have htakes := checkNode_eq_ok_iff.mp hc
  have hadd : s.account pick (s.usage pick n) f =
      (s.usage pick n).add spec (spec.partitions (some image)) pick := by
    simp only [account, hspec, isPartitioned, himage]
  rw [usage_append h hf, if_pos hn, hadd]
  exact Candidate.grows hp (perCardGb_usage s pick n) htakes

end Store

end FleetControl
