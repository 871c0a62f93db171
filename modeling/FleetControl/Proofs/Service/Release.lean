import FleetControl.Proofs.Placement.Packing
import FleetControl.Proofs.Service.Candidacy
import FleetControl.Proofs.Service.Capacity

/-!
# Candidates after a removal

A removal frees what its workload took of each amount, but the claims on cards that come after it are
replayed anew, and may be packed worse than they were: a node that was a candidate may be none
afterwards (`removal_loses_candidate`).

**The law** (`candidates_delete`): after a removal a node is still a candidate exactly where the claims
of the workloads that are left, replayed without the removed one, leave enough usable cards. That is so
whatever the spec where the removed workload makes no claim or is the last that makes one, and, as long
as nothing was dropped on the node, where the node has one card, where the removed workload had whole
cards, or where all later ones have (`Store.Harmless`).

**What it does not establish.** The law is about one removal from records that calls came to, one after
another; records of nodes, specs and images are taken as unedited. A check of a node's engine is among
the calls, since it records what it found.
-/

namespace FleetControl

namespace Store

variable {s s' : Store} {n : Node} {id : RecordId} {w : Workload} {f : Footprint} {spec : Spec}
  {image : Option Image}

/-! ## Claims by the identifiers of their workloads -/

/-- The claims on a node of the workloads whose identifiers are such, in their order. -/
def claimsWhere (s : Store) (p : RecordId → Prop) [DecidablePred p] (n : Node) : List Claim :=
  s.claimsOf n ((s.workloads.rows.filter fun w => p w.id).filterMap Workload.footprint?)

/-- The claims on a node in their order: those of workloads before one, its own, and those of workloads after it. -/
theorem claims_split (s : Store) (id : RecordId) (n : Node) : s.claims n =
    s.claimsWhere (· < id) n ++ (s.claimsWhere (· = id) n ++ s.claimsWhere (id < ·) n) := by
  unfold claims claimsWhere claimsOf footprints
  have hrows : s.workloads.rows = _ := Record.Ascending.split id s.workloads.ordered
  rw [← List.filterMap_append, ← List.filterMap_append, ← List.filter_append, ← List.filter_append,
    ← List.filterMap_append, ← List.filterMap_append]
  exact congrArg (fun rows => ((rows.filterMap Workload.footprint?).filter fun f =>
    f.nodeId == n.id).filterMap (s.claim? n)) hrows

/-- Without one workload, the claims on a node are those before its own and those after. -/
theorem claims_without (s : Store) (id : RecordId) (n : Node) :
    s.claimsWhere (· ≠ id) n = s.claimsWhere (· < id) n ++ s.claimsWhere (id < ·) n := by
  have hothers : (s.workloads.rows.filter fun w => decide (w.id ≠ id)) = _ :=
    Record.Ascending.filter_ne id s.workloads.ordered
  unfold claimsWhere claimsOf
  rw [hothers, List.filterMap_append, List.filter_append, List.filterMap_append]
  rfl

/-- Where the capacity of a card is known, every resident's claim takes something of its cards. -/
theorem partGb_pos_of_mem_claims {c : Claim} (hper : 0 < n.perCardGb) (hc : c ∈ s.claims n) :
    0 < c.partGb n.perCardGb := by
  obtain ⟨f, _, hclaim⟩ := List.mem_filterMap.mp hc
  obtain ⟨spec, _, hof⟩ := Option.bind_eq_some_iff.mp hclaim
  have hmade : c.MadeFor n.perCardGb := ⟨_, _, _, hof⟩
  exact hmade.partGb_pos hper

/-- **The cards of a node without the claims of one workload.** -/
def cardsWithout (s : Store) (pick : Strategy) (id : RecordId) (n : Node) : Ledger :=
  (Ledger.untouched n.gpuCount n.perCardGb).replayAll pick (s.claimsWhere (· ≠ id) n)

/-- **A removal after which no more cards of the node are loaded**, at any threshold. -/
inductive Harmless (s : Store) (id : RecordId) (n : Node) (spec : Spec) : Prop
  /-- The spec asks for no card. -/
  | noCard (h : spec.gpuCount = 0)
  /-- The workload makes no claim on the node. -/
  | noClaim (h : s.claimsWhere (· = id) n = [])
  /-- No later workload makes a claim on the node. -/
  | noneLater (h : s.claimsWhere (id < ·) n = [])
  /-- The node has one card, and nothing was dropped. -/
  | oneCard (h : n.gpuCount ≤ 1) (all : s.droppedGb Ledger.packFirst n = 0)
  /-- The workload has whole cards, and nothing was dropped. -/
  | whole (h : ∀ c ∈ s.claimsWhere (· = id) n, c.IsWhole) (all : s.droppedGb Ledger.packFirst n = 0)
  /-- All later workloads have whole cards, and nothing was dropped. -/
  | wholeLater (h : ∀ c ∈ s.claimsWhere (id < ·) n, c.IsWhole)
      (all : s.droppedGb Ledger.packFirst n = 0)

/-- **After a harmless removal no more cards are loaded**, where the capacity of a card is known; each of the
cases is one law of packing. -/
theorem Harmless.fewer (h : s.Harmless id n spec) (hspec : spec.gpuCount ≠ 0) (hper : 0 < n.perCardGb) :
    (s.cardsWithout Ledger.packFirst id n).Fewer (s.usage Ledger.packFirst n).cards := by
  let l := (Ledger.untouched n.gpuCount n.perCardGb).replayAll Ledger.packFirst (s.claimsWhere (· < id) n)
  have hb : l.Bounded := (Ledger.untouched_bounded _ _).replayAll _ _
  have hl : l.perCardGb = n.perCardGb := Ledger.perCardGb_replayAll _ _ _
  have hwith : (s.usage Ledger.packFirst n).cards =
      l.replayAll Ledger.packFirst (s.claimsWhere (· = id) n ++ s.claimsWhere (id < ·) n) := by
    rw [cards_usage, claims_split s id n, Ledger.replayAll_append]
  have hwithout : s.cardsWithout Ledger.packFirst id n =
      l.replayAll Ledger.packFirst (s.claimsWhere (id < ·) n) := by
    rw [cardsWithout, claims_without, Ledger.replayAll_append]
  have hpos : ∀ c ∈ s.claims n, 0 < c.partGb n.perCardGb := fun c hc => partGb_pos_of_mem_claims hper hc
  have hlands : s.droppedGb Ledger.packFirst n = 0 →
      l.Lands Ledger.packFirst (s.claimsWhere (· = id) n ++ s.claimsWhere (id < ·) n) := by
    intro hall
    have hlands := Ledger.lands_of_droppedGb Ledger.packFirst_sound Ledger.packFirst_eager hpos hall
    rw [claims_split s id n, Ledger.lands_append] at hlands
    exact hlands.2
  rw [hwith, hwithout]
  cases h with
  | noCard hzero => exact absurd hzero hspec
  | noClaim hnone =>
    rw [hnone]
    exact (Ledger.Lighter.refl _).fewer
  | noneLater hnone =>
    rw [hnone, List.append_nil]
    exact (Ledger.lighter_replayAll Ledger.packFirst_sound _ hb).fewer
  | oneCard hone hall =>
    refine Ledger.fewer_on_one_card hb (hlands hall) ?_
    rw [Ledger.cardCount_replayAll, Ledger.cardCount, Ledger.untouched, List.length_replicate]
    exact UInt64.le_iff_toNat_le.mp hone
  | whole hwhole hall =>
    refine Ledger.fewer_without_whole hb (hlands hall) hwhole fun c hc => ?_
    rw [hl]
    refine hpos c ?_
    rw [claims_split s id n]
    exact List.mem_append_right _ (List.mem_append_right _ hc)
  | wholeLater hwhole hall => exact Ledger.fewer_before_whole hb (hlands hall) (hl ▸ hper) hwhole

/-- **Enough cards are usable for a spec once the claims of one workload are left out.** -/
def EnoughWithout (s : Store) (id : RecordId) (n : Node) (spec : Spec) (image : Option Image) : Prop :=
  ∀ claim, Claim.of? spec.gpuCount spec.gpuMemoryGb (spec.partitions image) n.perCardGb = some claim →
    claim.cards.toNat ≤ Candidate.usableCards (s.cardsWithout Ledger.packFirst id n) claim

/-- **A harmless removal leaves enough cards usable**, where there were enough: with no more cards loaded, no
fewer of them are usable. -/
theorem Harmless.enough (h : s.Harmless id n spec) {c : Candidate}
    (hc : s.takes? Ledger.packFirst spec image n = some c) : s.EnoughWithout id n spec image := by
  intro claim hclaim
  obtain ⟨_, _, henough⟩ :=
    (Candidate.isSome_of?_iff Ledger.packFirst_sound Ledger.packFirst_eager).mp ⟨c, hc⟩
  refine (henough claim hclaim).trans ?_
  have hb' := bounded_usage s Ledger.packFirst n
  have hb : (s.cardsWithout Ledger.packFirst id n).Bounded :=
    (Ledger.untouched_bounded _ _).replayAll _ _
  have hl : (s.cardsWithout Ledger.packFirst id n).perCardGb = n.perCardGb :=
    Ledger.perCardGb_replayAll _ _ _
  -- cards of unknown capacity hold nothing, however they were filled
  by_cases hper : n.perCardGb = 0
  · have hcount : (s.usage Ledger.packFirst n).cards.cardCount =
        (s.cardsWithout Ledger.packFirst id n).cardCount := by
      rw [cards_usage, cardsWithout, Ledger.cardCount_replayAll, Ledger.cardCount_replayAll]
    have hlight := Ledger.lighter_of_zero hb (hl.trans hper)
      ((perCardGb_usage s Ledger.packFirst n).trans hl.symm) hcount
    exact hlight.usableCards_le claim
  · have hpos : 0 < n.perCardGb := UInt64.lt_of_le_of_ne UInt64.zero_le (Ne.symm hper)
    have hspec : spec.gpuCount ≠ 0 := by
      intro hzero
      rw [Claim.of?_eq_none_iff.mpr hzero] at hclaim
      cases hclaim
    have hmade : claim.MadeFor n.perCardGb := ⟨_, _, _, hclaim⟩
    exact (h.fewer hspec hpos).usableCards_le hb hb' (hl ▸ hmade.partGb_pos hpos)

/-! ## Amounts that can be counted -/

/-- **What the residents of a node ask for can be counted**, on every node. -/
def Countable (s : Store) : Prop := ∀ r n, s.demand r n < 2 ^ 64

theorem demand_le_of_sublist (h : SameCatalog s s') (hf : s'.footprints.Sublist s.footprints)
    (r : Resource) (n : Node) : s'.demand r n ≤ s.demand r n := by
  unfold demand residents
  rw [h.asks]
  exact ((hf.filter _).map _).sum_le_sum fun _ _ => Nat.zero_le _

/-- **One more workload asks for its own amount more**, on its own node, as an exact number. -/
theorem Gains.demand_eq (h : Gains w s s') (hw : w.footprint? = some f) (r : Resource) (n : Node) :
    s'.demand r n = s.demand r n + if f.nodeId = n.id then s.asks r f else 0 := by
  unfold demand
  rw [h.catalog.asks, h.sum_residents hw]

end Store

namespace Service

open Store (Countable)

variable {v : Service} {p : Principal} {id : RecordId} {s₀ s s' : Store}

/-- An order that is accepted asks for an amount within the node's, on top of what the others ask for; the amount
in use is the demand itself, since it can be counted. -/
theorem demand_add_asks_le {image : Image} {spec : Spec} {n : Node} {o : Order} (hs : Countable s)
    (found : Finds o s image spec n) (accepts : Accepts s image spec n) (r : Resource) :
    s.demand r n + s.asks r ⟨n.id, spec.id, image.id⟩ ≤ (r.total n).toNat := by
  obtain ⟨_, c, hc⟩ := accepts
  have hfits := ((Candidate.describes_of (Store.checkNode_eq_ok_iff.mp hc)).amounts r).1
  rw [Store.used_usage, Nat.mod_eq_of_lt (hs r n)] at hfits
  rw [Store.asks, found.spec_self]
  exact hfits

theorem countable_of_moves (hs : Countable s) (h : s.Moves Store.Shrinks s') : Countable s' := by
  intro r n
  exact (Store.demand_le_of_sublist h.toSameCatalog h.footprints r n).trans_lt (hs r n)

/-- **After every call the amounts can be counted**: an order is accepted within the node's, and no other call
adds to them. -/
theorem countable_of_effect {α : Type} {c : Call α} {r : Except Halt α} (hs : Countable s)
    (he : Call.Effect s c r s') : Countable s' := by
  cases he with
  | removed _ moves => exact countable_of_moves hs moves
  | kept _ moves => exact countable_of_moves hs moves.shrinks
  | ordered creation =>
    cases creation with
    | missing _ | rejected _ _ => exact hs
    | unstored _ _ same =>
      intro r n
      have hsame : s'.footprints.Sublist s.footprints := same.footprints ▸ List.Sublist.refl _
      exact (Store.demand_le_of_sublist same.catalog hsame r n).trans_lt (hs r n)
    | @made image spec n w _ _ found accepts gains footprint isLive ending =>
      intro r m
      -- only a workload that is live asks for anything, and then for what was found to fit on `n`
      cases hw : w.footprint? with
      | none =>
        have hsame : s'.footprints.Sublist s.footprints :=
          gains.footprints_of_none hw ▸ List.Sublist.refl _
        exact (Store.demand_le_of_sublist gains.catalog hsame r m).trans_lt (hs r m)
      | some f =>
        obtain rfl : f = ⟨n.id, spec.id, image.id⟩ := by
          unfold Workload.footprint? at hw
          split at hw
          · exact (Option.some.inj hw).symm.trans footprint
          · cases hw
        rw [gains.demand_eq hw]
        split
        · rename_i hm
          have hle := demand_add_asks_le hs found accepts r
          have hid : n.id = m.id := hm
          have hsame : s.demand r m = s.demand r n := by
            unfold Store.demand Store.residents
            rw [hid]
          rw [hsame]
          exact hle.trans_lt (r.total n).toNat_lt
        · exact hs r m

/-! ## States that calls come to -/

/-- **The records that calls come to**, one after another, from the records `s₀`. -/
inductive Reached (v : Service) (s₀ : Store) : Store → Prop
  | start : Reached v s₀ s₀
  | call {s s' : Store} {α : Type} {c : Call α} {r : Except Halt α} (earlier : Reached v s₀ s)
      (served : (c.job v).Yields s r s') : Reached v s₀ s'
  | test {s s' : Store} {id : RecordId} {r : Except Halt NodeTest} (earlier : Reached v s₀ s)
      (served : (testNode id).Yields s r s') : Reached v s₀ s'

theorem Run.reached {steps : List Served} (run : Run v s₀ steps s) : Reached v s₀ s := by
  induction run with
  | start => exact .start
  | call _ served ih => exact .call ih served

/-- **What the calls keep**: units hold room, and the amounts can be counted, by induction on the calls from
records without workloads. -/
theorem Reached.countable (h₀ : s₀.workloads.rows = []) (h : Reached v s₀ s) :
    s.UnitsHold ∧ Countable s := by
  induction h with
  | start =>
    constructor
    · intro w hw
      rw [h₀] at hw
      exact absurd hw List.not_mem_nil
    · intro r n
      rw [Store.demand, Store.residents, footprints_of_empty h₀]
      exact Nat.two_pow_pos 64
  | call _ served ih =>
    obtain ⟨hunits, hcount⟩ := ih
    have heffect := Call.effect hunits served
    exact ⟨heffect.units hunits, countable_of_effect hcount heffect⟩
  | test _ served ih =>
    obtain ⟨hunits, hcount⟩ := ih
    have hmoves := bears_settles.testNode _ _ _ _ served hunits
    exact ⟨hmoves.units, countable_of_moves hcount hmoves.shrinks⟩

/-! ## The removal -/

/-- **What a removal leaves**: all records but the footprint of the workload, with the other footprints in their
order. -/
theorem delete_ok {r : Unit} (hy : (delete v p id).Yields s (.ok r) s') :
    s'.nodes = s.nodes ∧ Store.SameCatalog s s' ∧
      s'.footprints = (s.workloads.rows.filter fun w => w.id ≠ id).filterMap Workload.footprint? := by
  rcases delete_yields hy with ⟨⟨_, hr⟩, _⟩ | ⟨_, w, now, later, hfind, _, rfl⟩
  · cases hr
  · obtain ⟨_, rfl, _⟩ := Repository.find?_eq_some_iff.mp hfind
    refine ⟨rfl, ⟨rfl, rfl⟩, ?_⟩
    have hnone : (Record.markDeleted later (marked now w)).footprint? = none := rfl
    exact Record.filterMap_place_of_none hnone s.workloads.ordered

/-- **After a removal a node is a candidate exactly where the claims that are left leave enough cards
usable**, and so it is after every harmless one. -/
theorem candidates_delete {spec : Spec} {image : Option Image} {n : Node} {c : Candidate}
    (h₀ : s₀.workloads.rows = []) (reached : Reached v s₀ s)
    (hy : (delete v p id).Yields s (.ok ()) s')
    (hc : c ∈ s.candidates Ledger.packFirst spec image) (hn : s.nodes.find? c.nodeId = some n) :
    ((∃ c' ∈ s'.candidates Ledger.packFirst spec image, c'.nodeId = c.nodeId) ↔
      s.EnoughWithout id n spec image) ∧
    (s.Harmless id n spec →
      ∃ c' ∈ s'.candidates Ledger.packFirst spec image, c'.nodeId = c.nodeId) := by
  have hsound := Ledger.packFirst_sound
  have heager := Ledger.packFirst_eager
  obtain ⟨m, hm, htakes⟩ := Store.mem_candidates.mp hc
  have hid : c.nodeId = m.id := (Candidate.describes_of htakes).nodeId
  obtain rfl : m = n := by
    rw [hid, (Store.mem_listedNodes.mp hm).1] at hn
    exact Option.some.inj hn
  obtain ⟨hnodes, hcatalog, hfootprints⟩ := delete_ok hy
  have hcount := (reached.countable h₀).2
  have hlisted : m ∈ s'.listedNodes := by
    rw [Store.listedNodes, hnodes]
    exact hm
  have hcards : (s'.usage Ledger.packFirst m).cards = s.cardsWithout Ledger.packFirst id m := by
    rw [Store.cards_usage, Store.claims, Store.claimsOf_congr hcatalog ⟨rfl, rfl, rfl⟩, hfootprints]
    rfl
  have hless : ∀ r : Resource, (r.used (s'.usage Ledger.packFirst m)).toNat ≤
      (r.used (s.usage Ledger.packFirst m)).toNat := by
    intro r
    have hfewer : s'.footprints.Sublist s.footprints := by
      rw [hfootprints]
      exact List.filter_sublist.filterMap _
    have hle := Store.demand_le_of_sublist hcatalog hfewer r m
    have hlt := hcount r m
    rw [Store.used_usage, Store.used_usage, Nat.mod_eq_of_lt hlt, Nat.mod_eq_of_lt (by omega)]
    exact hle
  -- the model and the amounts still suit, so the cards alone decide
  obtain ⟨hmodel, hamounts, _⟩ := (Candidate.isSome_of?_iff hsound heager).mp ⟨c, htakes⟩
  have hiff : (∃ c' ∈ s'.candidates Ledger.packFirst spec image, c'.nodeId = c.nodeId) ↔
      s.EnoughWithout id m spec image := by
    have hfits : ∀ r : Resource, (r.used (s'.usage Ledger.packFirst m)).toNat + (r.asked spec).toNat ≤
        (r.total m).toNat := fun r => (Nat.add_le_add_right (hless r) _).trans (hamounts r)
    rw [hid, Store.exists_candidate_iff hlisted, Store.takes?, Candidate.isSome_of?_iff hsound heager,
      and_iff_right hmodel, and_iff_right hfits, hcards]
    rfl
  exact ⟨hiff, fun harmless => hiff.mpr (harmless.enough htakes)⟩

/-! ## Removals on the small records -/

/-- Calls served on the small records, and then a removal: the records before it and after it, as long
as all succeeds. -/
def removal (calls : List (Sigma Call)) (id : RecordId) : Option (Store × Store) :=
  (serveAll smallService calls smallFleet).bind fun fl =>
    match (delete smallService admin id).run.run fl with
    | (.ok (), fl') => some (fl.store, fl'.store)
    | (.error _, _) => none

/-- A removal on the small records is one from records that calls came to. -/
theorem removal_spec {calls : List (Sigma Call)} (h : removal calls id = some (s, s')) :
    Reached smallService smallStore s ∧ (delete smallService admin id).Yields s (.ok ()) s' := by
  obtain ⟨fl, hserve, hremove⟩ := Option.bind_eq_some_iff.mp h
  have hstart : Run smallService smallStore [] smallFleet.store := .start
  obtain ⟨_, hrun, _⟩ := run_serveAll hstart (List.forall_mem_nil _) hserve
  have hy := Job.run_yields (delete smallService admin id) fl
  split at hremove
  · rename_i fl' hdelete
    obtain ⟨rfl, rfl⟩ := Prod.mk.inj (Option.some.inj hremove)
    rw [hdelete] at hy
    exact ⟨hrun.reached, hy⟩
  · cases hremove

/-- The nodes that can take a gigabyte on each of two cards. -/
def paired (s : Store) : List RecordId :=
  (s.candidates Ledger.packFirst (smallSpec 3 2 2) (some smallImage)).map (·.nodeId)

theorem paired_eq (s : Store) : paired s =
    (s.listedNodes.filterMap (s.takes? Ledger.packFirst (smallSpec 3 2 2) (some smallImage))).map
      (·.nodeId) := by
  rw [paired, Store.candidates_eq]

/-- On the small records the node stays a candidate when its only workload goes. -/
theorem candidates_delete_small : smallStore.workloads.rows = [] ∧ ∃ s s' c,
    Reached smallService smallStore s ∧ (delete smallService admin 1).Yields s (.ok ()) s' ∧
    c ∈ s.candidates Ledger.packFirst (smallSpec 3 2 2) (some smallImage) ∧
    s.nodes.find? c.nodeId = some smallNode ∧
    ∃ c' ∈ s'.candidates Ledger.packFirst (smallSpec 3 2 2) (some smallImage), c'.nodeId = c.nodeId := by
  have hfacts : (removal [⟨_, .create admin (smallOrder 1)⟩] 1).map (fun (s, _) =>
      (paired s, s.nodes.find? 1, s.claimsWhere (1 < ·) smallNode)) =
        some ([1], some smallNode, []) := by
    simp only [paired_eq]
    decide +kernel
  obtain ⟨⟨s, s'⟩, hremoval, hfacts⟩ := Option.map_eq_some_iff.mp hfacts
  obtain ⟨hpaired, hfacts⟩ := Prod.mk.inj hfacts
  obtain ⟨hnode, hlater⟩ := Prod.mk.inj hfacts
  obtain ⟨hreached, hy⟩ := removal_spec hremoval
  obtain ⟨c, hc, hid⟩ := List.exists_of_mem_map (hpaired ▸ List.mem_singleton_self (1 : RecordId))
  have hn : s.nodes.find? c.nodeId = some smallNode := by
    rw [hid]
    exact hnode
  have hstays := (candidates_delete rfl hreached hy hc hn).2 (.noneLater hlater)
  exact ⟨rfl, s, s', c, hreached, hy, hc, hn, hstays⟩

/-- **A removal loses a candidate**: of one gigabyte, one, and two on the two cards the first goes, and
the others are packed on one card. -/
theorem removal_loses_candidate : smallStore.workloads.rows = [] ∧ ∃ s s',
    Reached smallService smallStore s ∧ (delete smallService admin 1).Yields s (.ok ()) s' ∧
    ∃ c ∈ s.candidates Ledger.packFirst (smallSpec 3 2 2) (some smallImage),
      ∀ c' ∈ s'.candidates Ledger.packFirst (smallSpec 3 2 2) (some smallImage), c'.nodeId ≠ c.nodeId := by
  have hfacts : (removal [⟨_, .create admin (smallOrder 1)⟩, ⟨_, .create admin (smallOrder 1)⟩,
      ⟨_, .create admin (smallOrder 2)⟩] 1).map (fun (s, s') => (paired s, paired s')) =
        some ([1], []) := by
    simp only [paired_eq]
    decide +kernel
  obtain ⟨⟨s, s'⟩, hremoval, hfacts⟩ := Option.map_eq_some_iff.mp hfacts
  obtain ⟨hbefore, hafter⟩ := Prod.mk.inj hfacts
  obtain ⟨hreached, hy⟩ := removal_spec hremoval
  obtain ⟨c, hc, _⟩ := List.exists_of_mem_map (hbefore ▸ List.mem_singleton_self (1 : RecordId))
  refine ⟨rfl, s, s', hreached, hy, c, hc, fun c' hc' => ?_⟩
  rw [List.map_eq_nil_iff.mp hafter] at hc'
  exact absurd hc' List.not_mem_nil

end Service

end FleetControl
