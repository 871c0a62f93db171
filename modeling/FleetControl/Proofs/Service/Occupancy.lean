import FleetControl.Proofs.Service.Status

/-!
# What leaves the occupancy as it is

What is committed on the nodes is moved by orders that are accepted and by removals alone
(`occupancy_unmoved`): a steady request leaves it as it was, whatever it comes to, and so does every
request that fails, removals of several workloads apart.

Steady requests do rewrite records: statuses, from an engine's words, and what probes found of nodes.
They leave the nodes as far as their cards go (`Store.SameNodes`) and, where units hold room, the
footprints (`bears_settles`); the occupancy follows from these and from specs and images alone
(`Store.occupancy_congr`).
-/

namespace FleetControl

namespace Store

variable {s s' : Store} {pick : Strategy}

/-- What a node is before anything is committed on it, if it is live. -/
def vacant? (n : Node) : Option (RecordId × Usage) :=
  if Record.isLive n then some (n.id, .untouched n) else none

/-- **The same live nodes**, as far as their cards go: with nothing committed they are the same. -/
def SameNodes (s s' : Store) : Prop :=
  Occupancy.untouched (s'.nodes.list ({} : NodeFilter)) = Occupancy.untouched (s.nodes.list ({} : NodeFilter))

instance : IsPreorder Store SameNodes where
  refl _ := rfl
  trans _ _ _ h h' := h'.trans h

/-- The nodes with nothing committed on them, in the order in which the occupancy is built up. -/
theorem untouched_list (s : Store) : Occupancy.untouched (s.nodes.list ({} : NodeFilter)) =
    (s.nodes.rows.filterMap vacant?).reverse := by
  have hall : ∀ n : Node, Record.isSelected ({} : NodeFilter) n = true := fun _ => rfl
  unfold Occupancy.untouched Repository.list
  simp only [hall, Bool.and_true]
  rw [← List.filterMap_eq_map', List.filterMap_filter]
  rfl

/-- Nodes that keep their places and their cards are the same nodes, row by row. -/
theorem SameNodes.of_forall₂
    (h : List.Forall₂ (fun n n' => vacant? n' = vacant? n) s.nodes.rows s'.nodes.rows) :
    s.SameNodes s' := by
  unfold SameNodes
  rw [untouched_list, untouched_list, filterMap_eq_of_forall₂ h]

/-- Nodes whose rows have not changed are the same nodes. -/
theorem SameNodes.of_rows_eq (h : s'.nodes.rows = s.nodes.rows) : s.SameNodes s' := by
  unfold SameNodes
  rw [untouched_list, untouched_list, h]

/-- A workload is accounted for by its footprint. -/
theorem SameCatalog.replay (h : SameCatalog s s') {w w' : Workload} (hw : w'.footprint = w.footprint)
    (r : Replay) : Replay.account s' pick r w' = Replay.account s pick r w := by
  have hnode : w'.nodeId = w.nodeId := congrArg Footprint.nodeId hw
  have hspec : w'.specId = w.specId := congrArg Footprint.specId hw
  have himage : w'.imageId = w.imageId := congrArg Footprint.imageId hw
  unfold Replay.account
  rw [hnode, hspec, himage, h.specs, h.images]

/-- **Workloads are accounted for by their footprints**, one after another; the induction is on the workloads, the
occupancy built up so far being the same on both sides. -/
theorem SameCatalog.replay_foldl (h : SameCatalog s s') : ∀ {ws ws' : List Workload} (r : Replay),
    ws'.map Workload.footprint = ws.map Workload.footprint →
      ws'.foldl (Replay.account s' pick) r = ws.foldl (Replay.account s pick) r
  | [], [], _, _ => rfl
  | [], _ :: _, _, hws | _ :: _, [], _, hws => nomatch hws
  | w :: ws, w' :: ws', r, hws => by
    obtain ⟨hw, hws⟩ := List.cons.inj hws
    rw [List.foldl_cons, List.foldl_cons, h.replay hw]
    exact h.replay_foldl _ hws

/-- **What is committed follows from the footprints, the catalog and the cards of the nodes.** Nothing else of the
records has a part in it: no status, no time, no connectivity and no price. -/
theorem occupancy_congr (h : SameCatalog s s') (hf : s'.footprints = s.footprints) {ns ns' : List Node}
    (hns : Occupancy.untouched ns' = Occupancy.untouched ns) :
    s'.occupancy pick ns' = s.occupancy pick ns := by
  rw [← map_footprint_holders, ← map_footprint_holders] at hf
  unfold occupancy
  rw [hns, h.replay_foldl _ hf]

/-- **Nothing that the occupancy follows from has changed.** -/
structure Still (s s' : Store) : Prop extends SameCatalog s s' where
  nodes : s.SameNodes s'
  footprints : s'.footprints = s.footprints

/-- Nothing changes by doing nothing. -/
theorem Still.refl (s : Store) : Still s s := ⟨⟨rfl, rfl⟩, rfl, rfl⟩

/-- An edit of nodes after which their rows are the same. -/
theorem Still.of_edits (h : s.EditsNodes s') (hn : s'.nodes.rows = s.nodes.rows) : Still s s' where
  toSameCatalog := h.toSameCatalog
  nodes := .of_rows_eq hn
  footprints := congrArg (fun ws => ws.rows.filterMap Workload.footprint?) h.workloads

/-- **Where nothing that it follows from has changed, the occupancy of the live nodes is the same.** -/
theorem Still.occupancy (h : Still s s') : s'.occupancy pick (s'.nodes.list ({} : NodeFilter)) =
    s.occupancy pick (s.nodes.list ({} : NodeFilter)) :=
  occupancy_congr h.toSameCatalog h.footprints h.nodes

end Store

namespace Service

open Store (SameNodes Still)

variable {v : Service} {s₀ s s' : Store} {α : Type} {c : Request α}

/-- Statuses and what probes find of nodes have no part in the cards of a node. -/
theorem bears_sameNodes : Bears SameNodes where
  status _ _ _ _ := rfl
  connectivity _ _ hfind := .of_forall₂ (Repository.forall₂_put (fun _ => rfl) hfind rfl)

/-- The request removes several workloads, each failing or not. -/
def Request.isBatch : {α : Type} → Request α → Bool
  | _, .call (.deleteMany _ _) => true
  | _, _ => false

/-! ## Units hold room -/

/-- **After every request a live workload that has a unit holds room.** -/
theorem units_of_serves (hs : s.UnitsHold) (h : Serves v s s') : s'.UnitsHold := by
  obtain ⟨α, c, r, hy⟩ := h
  cases c with
  | call c => exact (Call.effect hs hy).units hs
  | registerNode n =>
    intro w hw
    rw [(edits_registerNode n s r s' hy).workloads] at hw
    exact hs w hw
  | updateNode id n =>
    intro w hw
    rw [(edits_updateNode id n s r s' hy).workloads] at hw
    exact hs w hw
  | testNode | stats | logs | get | list | sessionTarget | candidates | catalog | nodes =>
    exact (bears_settles.request rfl s r s' hy hs).units

/-- **After every run of requests a live workload that has a unit holds room**, if there were no workloads at the
outset. -/
theorem units_of_run (h₀ : ∀ id, s₀.workloads.find? id = none)
    (h : Relation.ReflTransGen (Serves v) s₀ s) : s.UnitsHold := by
  induction h with
  | refl =>
    intro w hw hlive _
    have hfind : s₀.workloads.find? w.id = some w :=
      Repository.find?_eq_some_iff.mpr ⟨hw, rfl, Option.isNone_iff_eq_none.mpr hlive⟩
    cases (h₀ w.id).symm.trans hfind
  | tail _ served ih => exact units_of_serves ih served

/-! ## Requests that leave the occupancy alone -/

/-- **A steady request**, whatever it comes to: it writes statuses and findings, which the occupancy does not
follow from. -/
theorem still_of_isSteady (hs : s.UnitsHold) (hc : c.isSteady = true) {r : Except Halt α}
    (hy : (c.job v).Yields s r s') : Still s s' := by
  have moves := bears_settles.request hc s r s' hy hs
  exact ⟨moves.toSameCatalog, bears_sameNodes.request hc s r s' hy, moves.footprints.symm⟩

/-- **An order that fails** leaves no workload, or one that holds no room. -/
theorem still_of_create {p : Principal} {o : Order} {f : Failure}
    (hy : (v.create p o).Yields s (.error (.failed f)) s') : Still s s' := by
  generalize hr : (Except.error (Halt.failed f) : Except Halt Workload) = r at hy
  cases create_yields hy with
  | missing | rejected => exact .refl s
  | unstored _ _ same => exact ⟨same.catalog, .of_rows_eq (congrArg _ same.nodes), same.footprints⟩
  | made _ _ gains _ isLive ending =>
    refine ⟨gains.catalog, .of_rows_eq (congrArg _ gains.nodes), ?_⟩
    rcases ending.footprint?_cases isLive with ⟨hnone, _⟩ | ⟨_, hok⟩
    · exact gains.footprints_of_none hnone
    · exact absurd hr.symm (hok f)

/-- A removal that fails has changed no record. -/
theorem still_of_delete {p : Principal} {id : RecordId} {f : Failure}
    (hy : (v.delete p id).Yields s (.error (.failed f)) s') : Still s s' := by
  rcases delete_yields hy with ⟨_, rfl⟩ | ⟨hr, _⟩
  · exact .refl _
  · cases hr

/-- A node that could not be registered is none of the live nodes, and the others are as they were. -/
theorem still_of_registerNode {n : Node} {f : Failure}
    (hy : (registerNode n).Yields s (.error (.failed f)) s') : Still s s' := by
  refine .of_edits (edits_registerNode n _ _ _ hy) ?_
  rcases Job.yields_bind_keeps (keeps_probe _) hy with ⟨test, _, hwrite⟩ | ⟨_, _, _, rfl⟩
  · obtain ⟨now, hr, rfl⟩ := Job.yields_write.mp hwrite
    dsimp only at hr
    rcases Repository.create_cases now s.nodes
        (a := { n with id := 0, connectivity := test.connectivity }) rfl with ⟨_, _, hrows⟩ | ⟨_, hok, _⟩
    · exact hrows
    · rw [show Job.nodes.get s = s.nodes from rfl, hok] at hr
      cases hr
  · rfl

/-- **An edit of a node comes to its end or to nothing.** -/
theorem updateNode_yields {id : RecordId} {n : Node} {r : Except Halt Node}
    (hy : (updateNode id n).Yields s r s') : (∃ e, r = .error e) ∧ s' = s ∨ ∃ n', r = .ok n' := by
  rcases Job.yields_get_bind hy with ⟨existing, hfind, hrest⟩ | ⟨_, rfl, rfl⟩
  · rcases Job.yields_bind_keeps (keeps_probe _) hrest with ⟨test, _, hwrite⟩ | ⟨e, _, rfl, rfl⟩
    · have hfind' := Repository.find?_self hfind
      obtain ⟨now, hr, _⟩ := (Job.yields_replace (by exact hfind')).mp hwrite
      exact .inr ⟨_, hr⟩
    · exact .inl ⟨⟨e, rfl⟩, rfl⟩
  · exact .inl ⟨⟨_, rfl⟩, rfl⟩

/-- An edit of a node that failed has changed no record. -/
theorem still_of_updateNode {id : RecordId} {n : Node} {f : Failure}
    (hy : (updateNode id n).Yields s (.error (.failed f)) s') : Still s s' := by
  rcases updateNode_yields hy with ⟨_, rfl⟩ | ⟨_, hr⟩
  · exact .refl _
  · cases hr

/-- **What is committed on the live nodes is moved by orders that are accepted and by removals alone.** -/
theorem occupancy_unmoved (h₀ : ∀ id, s₀.workloads.find? id = none)
    (reached : Relation.ReflTransGen (Serves v) s₀ s) {r : Except Halt α} (hy : (c.job v).Yields s r s')
    (hc : c.isSteady = true ∨ c.isBatch = false ∧ ∃ f, r = .error (.failed f)) (pick : Strategy) :
    s'.occupancy pick (s'.nodes.list ({} : NodeFilter)) =
      s.occupancy pick (s.nodes.list ({} : NodeFilter)) := by
  have hs := units_of_run h₀ reached
  have hstill : Still s s' := by
    cases hsteady : c.isSteady with
    | true => exact still_of_isSteady hs hsteady hy
    | false =>
      rw [hsteady] at hc
      obtain hc | ⟨hbatch, f, rfl⟩ := hc
      · cases hc
      cases c with
      | call c =>
        cases c with
        | create p o => exact still_of_create hy
        | delete p id => exact still_of_delete hy
        | deleteMany p ids => cases hbatch
        | start | stop | restart | syncStatus | recheckNodes | resyncWorkloads => cases hsteady
      | registerNode n => exact still_of_registerNode hy
      | updateNode id n => exact still_of_updateNode hy
      | testNode | stats | logs | get | list | sessionTarget | candidates | catalog | nodes => cases hsteady
  exact hstill.occupancy

/-- A workload that takes room on the small node is stopped. -/
theorem occupancy_unmoved_small : (∀ id, smallStore.workloads.find? id = none) ∧ ∃ s r s',
    Relation.ReflTransGen (Serves smallService) smallStore s ∧
    ((Request.call (.stop admin 1)).job smallService).Yields s r s' ∧ s.footprints = [⟨1, 1, 1⟩] ∧
    s'.occupancy Ledger.packFirst (s'.nodes.list ({} : NodeFilter)) =
      s.occupancy Ledger.packFirst (s.nodes.list ({} : NodeFilter)) := by
  have hempty : ∀ id, smallStore.workloads.find? id = none := fun _ => rfl
  have hrun : (answerAll smallService [⟨_, .call (.create admin (smallOrder 1))⟩] smallFleet).map
      (fun fl => fl.store.footprints) = some [⟨1, 1, 1⟩] := by
    decide +kernel
  obtain ⟨fl, hserve, hprints⟩ := Option.map_eq_some_iff.mp hrun
  have hreached : Relation.ReflTransGen (Serves smallService) smallStore fl.store :=
    Relation.ReflTransGen.mono (fun _ _ => serves_of_answers) _ _ (answers_answerAll hserve)
  have hy := Job.run_yields ((Request.call (.stop admin 1)).job smallService) fl
  exact ⟨hempty, _, _, _, hreached, hy, hprints, occupancy_unmoved hempty hreached hy (.inl rfl) _⟩

end Service

end FleetControl
