import FleetControl.Proofs.Service.Placement
import FleetControl.Proofs.Service.Run

/-!
# GPU memory over runs

The workloads of a node may come to ask for more GPU memory than its cards have, although each of them
was accepted only where its claim fitted (`exceeds_capacity`). A removal can make the later replay pack
the remaining claims worse than they were packed when they were accepted; a part that then finds no
card is dropped, and its room is given to the next order.

**The law** (`bounded_run_iff`): a run keeps within a node's cards, in every state, exactly where each
order that it accepts on the node leaves room for what the replay had dropped there. That is so where
orders are accepted on the node only while nothing is dropped there, and this in turn is so where
nothing is removed and identifiers last.

**What it does not establish.** The cards of a single state are never overcommitted by the replay
itself (`Store.usedGb_usage_le`); the law is about what the workloads were promised. Records of nodes,
specs and images are taken as unedited.
-/

namespace FleetControl

namespace Store

variable {s s' : Store} {n n' : Node} {f : Footprint} {pick : Strategy} {w : Workload}
  {Q : List Footprint → List Footprint → Prop}

/-- **The residents of the node `id` ask for no more than its cards have.** -/
def Bounded (id : RecordId) (s : Store) : Prop :=
  ∀ n, s.nodes.find? id = some n → s.claimedGb n ≤ n.capacityGb

/-- GPU memory that one footprint asks for on a node. -/
def askedGb (s : Store) (n : Node) (f : Footprint) : Nat :=
  ((s.claim? n f).map (·.memoryGb n.perCardGb)).getD 0

theorem claimsOf_congr (h : SameCatalog s s') (hn : n.SameCards n') (fs : List Footprint) :
    s'.claimsOf n' fs = s.claimsOf n fs := by
  have hclaim : s'.claim? n' = s.claim? n := by
    rw [h.claim?]
    funext f
    unfold Store.claim?
    rw [hn.perCardGb]
  unfold claimsOf
  rw [hclaim, hn.id]

/-- Fewer footprints ask for no more, on a node with the same cards, specs and images being what they were. -/
theorem Moves.claimedGb_le (h : s.Moves Shrinks s') (hn : n.SameCards n') :
    s'.claimedGb n' ≤ s.claimedGb n := by
  unfold claimedGb claims
  rw [claimsOf_congr h.toSameCatalog hn, hn.perCardGb]
  exact (((h.footprints.filter _).filterMap _).map _).sum_le_sum fun _ _ => Nat.zero_le _

/-- The same footprints drop the same, on a node with the same cards. -/
theorem Moves.droppedGb_eq (h : s.Moves Eq s') (hn : n.SameCards n') :
    s'.droppedGb pick n' = s.droppedGb pick n := by
  unfold droppedGb claims
  rw [claimsOf_congr h.toSameCatalog hn, ← h.footprints, hn.perCardGb, hn.gpuCount]

theorem claimedGb_congr (h : SameCatalog s s') (hf : s'.footprints = s.footprints) (n : Node) :
    s'.claimedGb n = s.claimedGb n := by
  unfold claimedGb claims
  rw [hf, claimsOf_congr h ⟨rfl, rfl, rfl⟩]

theorem droppedGb_congr (h : SameCatalog s s') (hf : s'.footprints = s.footprints) (n : Node) :
    s'.droppedGb pick n = s.droppedGb pick n := by
  unfold droppedGb claims
  rw [hf, claimsOf_congr h ⟨rfl, rfl, rfl⟩]

theorem sum_map_filterMap {α β : Type} (g : α → Option β) (m : β → Nat) : ∀ as : List α,
    ((as.filterMap g).map m).sum = (as.map fun a => ((g a).map m).getD 0).sum
  | [] => rfl
  | a :: rest => by
    rw [List.filterMap_cons, List.map_cons, List.sum_cons, ← sum_map_filterMap g m rest]
    cases g a with
    | none => exact (Nat.zero_add _).symm
    | some b => rfl

theorem claimedGb_eq_sum (s : Store) (n : Node) :
    s.claimedGb n = ((s.residents n).map (s.askedGb n)).sum := sum_map_filterMap _ _ _

/-- **One more workload asks for its own claim more**, on its own node, wherever it stands among the others. -/
theorem Gains.claimedGb_eq (h : Gains w s s') (hw : w.footprint? = some f) (n : Node) :
    s'.claimedGb n = s.claimedGb n + if f.nodeId = n.id then s.askedGb n f else 0 := by
  have hasked : s'.askedGb n = s.askedGb n := by
    funext f
    unfold askedGb
    rw [h.catalog.claim?]
  rw [claimedGb_eq_sum, claimedGb_eq_sum, hasked, h.sum_residents hw]

/-- **Where the new footprint is the last, only its own claim can be dropped** beside what was. -/
theorem Gains.droppedGb_eq (h : Gains w s s') (hs : s.workloads.Fresh) (hw : w.footprint? = some f)
    (n : Node) (pick : Strategy) : s'.droppedGb pick n = s.droppedGb pick n +
      if f.nodeId = n.id then
        ((s.claim? n f).map fun c => (s.usage pick n).cards.droppedGb pick [c]).getD 0
      else 0 := by
  unfold droppedGb
  rw [cards_usage]
  unfold claims
  rw [claimsOf_congr h.catalog ⟨rfl, rfl, rfl⟩, h.footprints_of_fresh hs hw, claimsOf_append]
  split
  · cases s.claim? n f with
    | none => simp
    | some c => exact Ledger.droppedGb_append pick c _ _
  · simp

end Store

namespace Service

open Store (Bounded)

variable {v : Service} {s₀ s s' : Store} {id : RecordId} {steps : List Served}

/-! ## Which calls keep within the cards -/

/-- **An order that is accepted on the node leaves room for what was dropped there**: what it asks for
and what the replay had dropped fit together beside what is in use. -/
def Fits (id : RecordId) : Served → Prop
  | ⟨s, .create _ o, r, _⟩ => (∀ e, r ≠ .error (.failed e)) → ∀ image spec n, Finds o s image spec n →
      n.id = id → s.droppedGb Ledger.packFirst n + s.askedGb n ⟨n.id, spec.id, image.id⟩ ≤
        n.capacityGb - (s.usage Ledger.packFirst n).cards.usedGb
  | _ => True

/-- **An order that is accepted on the node finds nothing dropped there.** -/
def Careful (id : RecordId) : Served → Prop
  | ⟨s, .create _ o, r, _⟩ => (∀ e, r ≠ .error (.failed e)) → ∀ image spec n, Finds o s image spec n →
      n.id = id → s.droppedGb Ledger.packFirst n = 0
  | _ => True

/-- **Nothing is removed, and identifiers last.** -/
def Lasting (x : Served) : Prop := x.call.kind ≠ .removes ∧ x.before.workloads.Fresh

/-- The replay drops nothing, on any node. -/
def DropsNothing (s : Store) : Prop :=
  ∀ id n, s.nodes.find? id = some n → s.droppedGb Ledger.packFirst n = 0

section Steps

variable {α : Type} {c : Call α} {r : Except Halt α}

theorem fits_of_kind (h : c.kind ≠ .orders) : Fits id ⟨s, c, r, s'⟩ := by
  cases c with
  | create => exact absurd rfl h
  | _ => trivial

theorem careful_of_dropsNothing (hs : DropsNothing s) : Careful id ⟨s, c, r, s'⟩ := by
  cases c with
  | create => exact fun _ _ _ _ found _ => hs _ _ found.node
  | _ => trivial

/-- Calls that only move the records keep the bound: footprints may go, and none come. -/
theorem bounded_of_moves (hb : Bounded id s) (h : s.Moves Store.Shrinks s') : Bounded id s' := by
  intro n' hn'
  obtain ⟨n, hn, hcards⟩ := h.nodes id n' hn'
  have hcap : n'.capacityGb = n.capacityGb := by
    unfold Node.capacityGb
    rw [hcards.gpuCount, hcards.perCardGb]
  rw [hcap]
  exact (h.claimedGb_le hcards).trans (hb n hn)

/-- **An accepted order keeps the bound exactly where it fits.** -/
theorem bounded_iff_of_gains {o : Order} {image : Image} {spec : Spec} {n : Node} {w : Workload}
    (hb : Bounded id s) (found : Finds o s image spec n) (gains : s.Gains w s')
    (hw : w.footprint? = some ⟨n.id, spec.id, image.id⟩) :
    Bounded id s' ↔ (n.id = id →
      s.droppedGb Ledger.packFirst n + s.askedGb n ⟨n.id, spec.id, image.id⟩ ≤
        n.capacityGb - (s.usage Ledger.packFirst n).cards.usedGb) := by
  have hclaimed := gains.claimedGb_eq hw
  constructor
  · rintro hb' rfl
    have hle := hb' n (gains.nodes ▸ found.node_self)
    -- what was asked for before is in use or was dropped, so the new claim needs room for both
    have hsum := Store.usedGb_add_droppedGb Ledger.packFirst_sound s n
    rw [hclaimed n, if_pos rfl] at hle
    omega
  · intro hfits m hm
    rw [gains.nodes] at hm
    have hid : m.id = id := (Repository.find?_eq_some_iff.mp hm).2.1
    have hle := hb m hm
    rw [hclaimed m]
    by_cases hn : n.id = m.id
    · obtain rfl : n = m := Option.some.inj (found.node_self.symm.trans (hn.trans hid ▸ hm))
      have hfits := hfits hid
      have hsum := Store.usedGb_add_droppedGb Ledger.packFirst_sound s n
      rw [if_pos rfl]
      omega
    · rw [if_neg hn]
      exact hle

/-- **A call that follows a bounded state keeps the bound exactly where its order fits.** The converse matters as
much: an order that does not fit breaks the bound at once, though it was accepted. -/
theorem bounded_iff_fits (hb : Bounded id s) (he : Call.Effect s c r s') :
    Bounded id s' ↔ Fits id ⟨s, c, r, s'⟩ := by
  cases he with
  | removed kind moves =>
    exact ⟨fun _ => fits_of_kind (by rw [kind]; nofun), fun _ => bounded_of_moves hb moves⟩
  | kept kind moves =>
    exact ⟨fun _ => fits_of_kind (by rw [kind]; nofun), fun _ => bounded_of_moves hb moves.shrinks⟩
  | ordered creation =>
    cases creation with
    | missing _ | rejected _ _ => exact ⟨fun _ hr => absurd rfl (hr _), fun _ => hb⟩
    | unstored _ _ same =>
      refine ⟨fun _ hr => absurd rfl (hr _), fun _ n hn => ?_⟩
      rw [Store.claimedGb_congr same.catalog same.footprints]
      exact hb n (same.nodes ▸ hn)
    | made found _ gains footprint isLive ending =>
      rcases ending.footprint?_cases isLive with ⟨hnone, e, rfl⟩ | ⟨hsome, hr⟩
      -- a workload that failed holds no room, so nothing was asked of the rule
      · refine ⟨fun _ hr => absurd rfl (hr e), fun _ n hn => ?_⟩
        rw [Store.claimedGb_congr gains.catalog (gains.footprints_of_none hnone)]
        exact hb n (gains.nodes ▸ hn)
      · rw [bounded_iff_of_gains hb found gains (hsome.trans (congrArg some footprint))]
        constructor
        · intro hfits _ image' spec' n' found' hid
          obtain ⟨rfl, rfl, rfl⟩ := found.unique found'
          exact hfits hid
        · intro hfits hid
          exact hfits hr _ _ _ found hid

/-- **Where nothing is dropped, an order that is accepted fits**: its claim was allocated on top of all that the
others ask for, and not just of what the replay found room for. -/
theorem fits_of_careful (he : Call.Effect s c r s') (hcareful : Careful id ⟨s, c, r, s'⟩) :
    Fits id ⟨s, c, r, s'⟩ := by
  cases he with
  | removed kind _ | kept kind _ => exact fits_of_kind (by rw [kind]; nofun)
  | ordered creation =>
    cases creation with
    | missing _ | rejected _ _ | unstored _ _ _ => exact fun hr => absurd rfl (hr _)
    | made found accepts _ _ _ _ =>
      intro hr image' spec' n' found' hid
      obtain ⟨rfl, rfl, rfl⟩ := found.unique found'
      obtain ⟨_, candidate, hc⟩ := accepts
      rw [hcareful hr _ _ _ found hid, Nat.zero_add, Store.askedGb]
      cases hclaim : s.claim? n' ⟨n'.id, spec'.id, image'.id⟩ with
      | none => exact Nat.zero_le _
      | some claim =>
        obtain ⟨cards, halloc⟩ :=
          Store.allocate_of_candidate found.spec_self found.image_self hc hclaim
        have hle := Store.usedGb_add_memoryGb_le Ledger.packFirst_sound halloc
        show claim.memoryGb n'.perCardGb ≤ _
        omega

/-- **An accepted order is not dropped**, where its workload is replayed last. -/
theorem dropsNothing_of_gains {o : Order} {image : Image} {spec : Spec} {n : Node} {w : Workload}
    (hs : DropsNothing s) (hfresh : s.workloads.Fresh) (found : Finds o s image spec n)
    (accepts : Accepts s image spec n) (gains : s.Gains w s')
    (hw : w.footprint? = some ⟨n.id, spec.id, image.id⟩) : DropsNothing s' := by
  intro id m hm
  rw [gains.nodes] at hm
  rw [gains.droppedGb_eq hfresh hw, hs id m hm, Nat.zero_add]
  split
  · rename_i hn
    have hid : m.id = id := (Repository.find?_eq_some_iff.mp hm).2.1
    have hnid : n.id = id := hn.trans hid
    obtain rfl : n = m := Option.some.inj (found.node_self.symm.trans (hnid ▸ hm))
    obtain ⟨_, candidate, hc⟩ := accepts
    cases hclaim : s.claim? n ⟨n.id, spec.id, image.id⟩ with
    | none => rfl
    | some claim =>
      obtain ⟨cards, halloc⟩ := Store.allocate_of_candidate found.spec_self found.image_self hc hclaim
      exact Ledger.droppedGb_of_allocate Ledger.packFirst_sound halloc
  · rfl

/-- **Where nothing is removed and identifiers last, nothing comes to be dropped**: a new claim is the last of the
replay, as it was in the trial. -/
theorem dropsNothing_of_lasting (hs : DropsNothing s) (he : Call.Effect s c r s')
    (hl : Lasting ⟨s, c, r, s'⟩) : DropsNothing s' := by
  cases he with
  | removed kind _ => exact absurd kind hl.1
  | kept _ moves =>
    intro id n' hn'
    obtain ⟨n, hn, hcards⟩ := moves.nodes id n' hn'
    rw [moves.droppedGb_eq hcards]
    exact hs id n hn
  | ordered creation =>
    cases creation with
    | missing _ | rejected _ _ => exact hs
    | unstored _ _ same =>
      intro id n hn
      rw [Store.droppedGb_congr same.catalog same.footprints]
      exact hs id n (same.nodes ▸ hn)
    | made found accepts gains footprint isLive ending =>
      rcases ending.footprint?_cases isLive with ⟨hnone, _⟩ | ⟨hsome, _⟩
      · intro id n hn
        rw [Store.droppedGb_congr gains.catalog (gains.footprints_of_none hnone)]
        exact hs id n (gains.nodes ▸ hn)
      · exact dropsNothing_of_gains hs hl.2 found accepts gains (hsome.trans (congrArg some footprint))

end Steps

/-! ## Runs -/

/-- Records without workloads ask for nothing, so the bound holds at the outset of every run. -/
theorem footprints_of_empty (h₀ : s₀.workloads.rows = []) : s₀.footprints = [] := by
  rw [Store.footprints, h₀]
  rfl

theorem bounded_of_empty (h₀ : s₀.workloads.rows = []) (id : RecordId) : Bounded id s₀ := by
  intro n _
  rw [Store.claimedGb, Store.claims, footprints_of_empty h₀]
  exact Nat.zero_le _

theorem dropsNothing_of_empty (h₀ : s₀.workloads.rows = []) : DropsNothing s₀ := by
  intro id n _
  rw [Store.droppedGb, Store.claims, footprints_of_empty h₀]
  rfl

/-- **A run keeps within a node's cards exactly where its accepted orders fit.** They do where each
finds nothing dropped on the node, and this is so where nothing is removed and identifiers last. -/
theorem bounded_run_iff (h₀ : s₀.workloads.rows = []) (run : Run v s₀ steps s) (id : RecordId) :
    ((∀ t ∈ reached s₀ steps, Bounded id t) ↔ ∀ x ∈ steps, Fits id x) ∧
    ((∀ x ∈ steps, Careful id x) → ∀ x ∈ steps, Fits id x) ∧
    ((∀ x ∈ steps, Lasting x) → ∀ x ∈ steps, Careful id x) := by
  have hstart := bounded_of_empty h₀ id
  have hreached : (∀ t ∈ reached s₀ steps, Bounded id t) ↔ ∀ x ∈ steps, Bounded id x.after := by
    unfold reached
    rw [List.forall_mem_cons, List.forall_mem_map]
    exact and_iff_right hstart
  rw [hreached]
  refine ⟨⟨fun h => ?_, fun h => ?_⟩, fun h => ?_, fun h => ?_⟩
  · refine (Run.induct h₀ hstart (fun hb he hb' => ?_) run h).1
    exact ⟨(bounded_iff_fits hb he).mp hb', hb'⟩
  -- the bound is carried along by the orders that fit, and is what they keep to
  · refine (Run.induct h₀ hstart (fun hb he hfits => ?_) run h).1
    exact ⟨(bounded_iff_fits hb he).mpr hfits, (bounded_iff_fits hb he).mpr hfits⟩
  · exact (Run.induct (I := fun _ => True) h₀ trivial
      (fun _ he hcareful => ⟨fits_of_careful he hcareful, trivial⟩) run h).1
  · refine (Run.induct h₀ (dropsNothing_of_empty h₀) (fun hd he hl => ?_) run h).1
    exact ⟨careful_of_dropsNothing hd, dropsNothing_of_lasting hd he hl⟩

/-- On the small records an order of two gigabytes is accepted, and the run keeps to the cards. -/
theorem bounded_run_small : smallStore.workloads.rows = [] ∧
    ∃ steps s, Run smallService smallStore steps s ∧ s.workloads.rows ≠ [] ∧
      ∀ t ∈ reached smallStore steps, Bounded 1 t := by
  have hy := Job.run_yields (Call.job smallService (.create admin (smallOrder 2))) smallFleet
  have hfresh : smallStore.workloads.Fresh := fun _ hw => absurd hw List.not_mem_nil
  have hempty : smallStore.workloads.rows = [] := rfl
  have hrun := Run.call (Run.start (v := smallService)) hy
  obtain ⟨hbounded, hfits, hcareful⟩ := bounded_run_iff hempty hrun 1
  refine ⟨hempty, _, _, hrun, ?_, hbounded.mpr (hfits (hcareful ?_))⟩
  · decide +kernel
  · exact List.forall_mem_singleton.mpr ⟨nofun, hfresh⟩

/-- Calls served one after another on a fleet, as long as each succeeds. -/
def serveAll (v : Service) : List (Sigma Call) → Fleet → Option Fleet
  | [], fl => some fl
  | ⟨_, c⟩ :: rest, fl =>
    match (c.job v).run.run fl with
    | (.ok _, fl) => serveAll v rest fl
    | (.error _, _) => none

/-- **The call succeeds.** -/
def Succeeds (x : Served) : Prop := x.answer.isOk = true

/-- Calls that are served one after another and all succeed make a run, by induction on the calls. -/
theorem run_serveAll : ∀ {calls : List (Sigma Call)} {fl fl' : Fleet} {steps : List Served},
    Run v s₀ steps fl.store → (∀ x ∈ steps, Succeeds x) → serveAll v calls fl = some fl' →
    ∃ steps', Run v s₀ steps' fl'.store ∧ ∀ x ∈ steps', Succeeds x
  | [], _, _, steps, h, hok, hserve => ⟨steps, Option.some.inj hserve ▸ h, hok⟩
  | ⟨_, c⟩ :: rest, fl, fl', steps, h, hok, hserve => by
    have hy := Job.run_yields (c.job v) fl
    unfold serveAll at hserve
    split at hserve
    · rename_i a next hrun
      rw [hrun] at hy
      refine run_serveAll (.call h hy) ?_ hserve
      exact List.forall_mem_append.mpr ⟨hok, List.forall_mem_singleton.mpr rfl⟩
    · cases hserve

/-- Two orders of one gigabyte, one of two and one of one on each card; the second goes, and another
of two is accepted. -/
def overfullCalls : List (Sigma Call) :=
  [⟨_, .create admin (smallOrder 1)⟩, ⟨_, .create admin (smallOrder 1)⟩,
   ⟨_, .create admin (smallOrder 2)⟩, ⟨_, .create admin (smallOrder 3)⟩, ⟨_, .delete admin 2⟩,
   ⟨_, .create admin (smallOrder 2)⟩]

/-- **The bound fails on a run of calls that all succeed**: seven gigabytes are promised of six. -/
theorem exceeds_capacity : smallStore.workloads.rows = [] ∧ ∃ steps s,
    Run smallService smallStore steps s ∧ (∀ x ∈ steps, Succeeds x) ∧
      s.nodes.find? 1 = some smallNode ∧ smallNode.capacityGb < s.claimedGb smallNode := by
  have hseven : (serveAll smallService overfullCalls smallFleet).map
      (fun fl => (fl.store.nodes.find? 1, fl.store.claimedGb smallNode)) = some (some smallNode, 7) := by
    decide +kernel
  obtain ⟨fl, hserve, hpair⟩ := Option.map_eq_some_iff.mp hseven
  obtain ⟨hnode, hclaimed⟩ := Prod.mk.inj hpair
  have hstart : Run smallService smallStore [] smallFleet.store := .start
  obtain ⟨steps, hrun, hok⟩ := run_serveAll hstart (List.forall_mem_nil _) hserve
  refine ⟨rfl, steps, fl.store, hrun, hok, hnode, ?_⟩
  rw [hclaimed]
  decide

end Service

end FleetControl
