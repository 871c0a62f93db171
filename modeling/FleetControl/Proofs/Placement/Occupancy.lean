import FleetControl.Placement.Occupancy
import FleetControl.Proofs.Placement.Candidate
import FleetControl.Proofs.Store.Repository

/-!
# Occupancy, node by node

One replay accounts for the workloads of many nodes at once, and keeps the specs and images that it
looked up. What it comes to for one node is what the node's own workloads come to
(`lookup_occupancy`): the others do not touch the node's entry (`lookup_account`), and a record that
was looked up before is the one that would be found now (`Recalled`). So it does not matter with which
nodes a node is asked about, and the query for candidates decides on each listed node as the check of
that node alone does (`candidates_eq`, `checkNode_eq_ok_iff`).
-/

namespace FleetControl

namespace Occupancy

/-- Adjusting the entries of one identifier leaves those of the others alone. -/
theorem lookup_adjust (id : RecordId) (f : Usage → Usage) (k : RecordId) : ∀ o : Occupancy,
    (o.adjust id f).lookup k = if k = id then (o.lookup k).map f else o.lookup k
  | [] => by simp [adjust]
  | (j, u) :: rest => by
    have ih := lookup_adjust id f k rest
    unfold adjust at ih ⊢
    rw [List.map_cons, List.lookup_cons, List.lookup_cons, ih]
    by_cases hj : k = j
    · subst hj
      by_cases hk : k = id <;> simp [hk]
    · rw [beq_false_of_ne hj]

/-- Nodes with nothing committed have the entries that they start with. -/
theorem lookup_map_nodes (k : RecordId) : ∀ ns : List Node,
    (ns.map fun n => (n.id, Usage.untouched n)).lookup k =
      (ns.find? fun n => n.id == k).map Usage.untouched
  | [] => rfl
  | n :: rest => by
    rw [List.map_cons, List.lookup_cons, List.find?_cons, lookup_map_nodes k rest]
    by_cases hk : n.id = k
    · subst hk
      simp
    · rw [beq_false_of_ne hk, beq_false_of_ne (Ne.symm hk)]

/-- A node that is asked about has an entry; of two with one identifier the later has it, for each is put in front
of those before. -/
theorem lookup_untouched (k : RecordId) (ns : List Node) : (untouched ns).lookup k =
    (ns.reverse.find? fun n => n.id == k).map Usage.untouched := by
  rw [untouched, ← List.map_reverse, lookup_map_nodes]

end Occupancy

/-- **What a workload takes part in a replay with.** -/
structure Footprint where
  nodeId : RecordId
  specId : RecordId
  imageId : RecordId
deriving DecidableEq

namespace Workload

/-- Where a workload is, and what it is made of. -/
def footprint (w : Workload) : Footprint := ⟨w.nodeId, w.specId, w.imageId⟩

/-- What a workload takes part in a replay with, if it does. -/
def footprint? (w : Workload) : Option Footprint :=
  if w.holdsCapacity then some w.footprint else none

end Workload

namespace Store

variable {s s' : Store} {pick : Strategy} {n : Node}

/-- **The footprints of the workloads that hold room**, in the order of a replay. -/
def footprints (s : Store) : List Footprint := s.workloads.rows.filterMap Workload.footprint?

/-- The workloads that are replayed have the footprints of the store, in the same order. -/
theorem map_footprint_holders (s : Store) : s.holders.map Workload.footprint = s.footprints := by
  have hrows : s.holders = s.workloads.rows.filter (·.holdsCapacity) := by
    unfold holders Repository.list
    rw [List.filter_filter]
    refine List.filter_congr fun w _ => ?_
    have hsel : Record.isSelected ({} : WorkloadFilter) w = true := rfl
    rw [hsel, Bool.and_true]
    show (w.holdsCapacity && w.stamps.deleted.isNone) = w.holdsCapacity
    unfold Workload.holdsCapacity
    cases w.stamps.deleted.isNone <;> simp
  rw [hrows, ← List.filterMap_eq_map', List.filterMap_filter]
  rfl

/-- The footprints on one node. -/
def residents (s : Store) (n : Node) : List Footprint := s.footprints.filter fun f => f.nodeId == n.id

/-- Whether a workload's unit shares the memory of its cards. -/
def isPartitioned (s : Store) (f : Footprint) (spec : Spec) : Bool :=
  spec.partitions (s.images.find? f.imageId)

/-- Account for one workload on its node; one without a live spec takes nothing. -/
def account (s : Store) (pick : Strategy) (u : Usage) (f : Footprint) : Usage :=
  match s.specs.find? f.specId with
  | none => u
  | some spec => u.add spec (s.isPartitioned f spec) pick

end Store

namespace Replay

variable {s : Store} {pick : Strategy}

/-- **What was looked up is what would be found.** -/
def Recalled {α : Type} (find : RecordId → Option α) (known : List (RecordId × Option α)) : Prop :=
  ∀ id a, known.lookup id = some a → a = find id

/-- Before anything was looked up there is nothing to recall wrongly. -/
theorem Recalled.nil {α : Type} (find : RecordId → Option α) : Recalled find [] :=
  fun _ _ h => nomatch h

/-- **A record is looked up once**, and what is learnt is what would be found each time after. -/
theorem Recalled.learn {α : Type} {find : RecordId → Option α}
    {known : List (RecordId × Option α)} (h : Recalled find known) (id : RecordId) :
    Recalled find (learn find id known) ∧ (Replay.learn find id known).lookup id = some (find id) := by
  unfold Replay.learn
  split
  · rename_i hsome
    obtain ⟨a, ha⟩ := Option.isSome_iff_exists.mp hsome
    exact ⟨h, h id a ha ▸ ha⟩
  · refine ⟨fun k a hk => ?_, List.lookup_cons_self⟩
    rw [List.lookup_cons] at hk
    split at hk
    · rename_i heq
      rw [eq_of_beq heq]
      exact (Option.some.inj hk).symm
    · exact h k a hk

/-- Both kinds of records that were looked up are those that would be found. -/
def Faithful (s : Store) (r : Replay) : Prop :=
  Recalled s.specs.find? r.specs ∧ Recalled s.images.find? r.images

/-- **One step of a replay**, seen at one node: a workload is accounted for where it is, and nothing
changes elsewhere. -/
theorem lookup_account (pick : Strategy) {r : Replay} (h : r.Faithful s) (w : Workload) (k : RecordId) :
    (account s pick r w).Faithful s ∧ (account s pick r w).occupancy.lookup k =
      (r.occupancy.lookup k).map fun u =>
        if w.nodeId == k then s.account pick u w.footprint else u := by
  obtain ⟨hspecs, hspec⟩ := h.1.learn w.specId
  obtain ⟨himages, himage⟩ := h.2.learn w.imageId
  unfold account
  by_cases hnone : (r.occupancy.lookup w.nodeId).isNone = true
  · rw [if_pos hnone]
    refine ⟨h, ?_⟩
    by_cases hk : w.nodeId = k
    · rw [hk] at hnone
      simp [Option.isNone_iff_eq_none.mp hnone]
    · simp [hk]
  · rw [if_neg hnone]
    simp only [hspec, himage, Option.join_some]
    cases hfind : s.specs.find? w.specId with
    | none =>
      refine ⟨⟨hspecs, himages⟩, ?_⟩
      simp [Store.account, Workload.footprint, hfind]
    | some spec =>
      refine ⟨⟨hspecs, himages⟩, ?_⟩
      simp only [Occupancy.lookup_adjust, Store.account, Workload.footprint, hfind, Store.isPartitioned]
      by_cases hk : w.nodeId = k
      · simp [hk]
      · simp [hk, Ne.symm hk]

/-- **A replay, seen at one node**, accounts for the node's own workloads in their order; the induction carries
along that what was looked up on the way is what would be found. -/
theorem lookup_foldl (pick : Strategy) (k : RecordId) : ∀ (ws : List Workload) {r : Replay}, r.Faithful s →
    (ws.foldl (account s pick) r).occupancy.lookup k = (r.occupancy.lookup k).map fun u =>
      ((ws.map Workload.footprint).filter fun f => f.nodeId == k).foldl (s.account pick) u
  | [], r, _ => by simp
  | w :: rest, r, h => by
    obtain ⟨h', hstep⟩ := lookup_account pick h w k
    rw [List.foldl_cons, lookup_foldl pick k rest h', hstep, Option.map_map]
    congr 1
    funext u
    simp only [Function.comp_apply, List.map_cons, List.filter_cons]
    show _ = (if w.nodeId == k then _ else _ : List Footprint).foldl (s.account pick) u
    split <;> rfl

end Replay

namespace Store

variable {s : Store} {pick : Strategy} {n : Node}

/-- Accounting for the residents of a node, one after another. -/
theorem lookup_occupancy_foldl (s : Store) (pick : Strategy) (ns : List Node) (k : RecordId) :
    (s.occupancy pick ns).lookup k = (ns.reverse.find? fun n => n.id == k).map fun n =>
      (s.residents n).foldl (s.account pick) (.untouched n) := by
  have hempty : Replay.Faithful s { occupancy := .untouched ns } := ⟨.nil _, .nil _⟩
  have hfold := Replay.lookup_foldl pick k s.holders hempty
  rw [occupancy, hfold, Occupancy.lookup_untouched, Option.map_map]
  cases hn : ns.reverse.find? fun n => n.id == k with
  | none => rfl
  | some n =>
    -- the holders are listed by the repository, the residents are taken from its rows
    have hid : n.id = k := by simpa using List.find?_some hn
    simp [residents, hid, map_footprint_holders]

/-- **What is committed on a node is what its residents come to**, one after another, from nothing. -/
theorem usage_eq (s : Store) (pick : Strategy) (n : Node) :
    s.usage pick n = (s.residents n).foldl (s.account pick) (.untouched n) := by
  simp [usage, lookup_occupancy_foldl]

/-- **A node's entry is the node's own usage**, whichever nodes are asked about with it, and in whatever order. -/
theorem lookup_occupancy (s : Store) (pick : Strategy) (ns : List Node) (k : RecordId) :
    (s.occupancy pick ns).lookup k =
      (ns.reverse.find? fun n => n.id == k).map (s.usage pick) := by
  rw [lookup_occupancy_foldl]
  congr 1
  funext n
  exact (usage_eq s pick n).symm

/-- Of nodes in the order of their identifiers, each has its own entry. -/
theorem lookup_occupancy_of_mem {ns : List Node} (h : Record.Ascending ns) (hn : n ∈ ns) :
    (s.occupancy pick ns).lookup n.id = some (s.usage pick n) := by
  rw [lookup_occupancy]
  cases hfind : ns.reverse.find? fun m => m.id == n.id with
  | none =>
    have := List.find?_eq_none.mp hfind n (List.mem_reverse.mpr hn)
    simp at this
  | some m =>
    have hid : m.id = n.id := by simpa using List.find?_some hfind
    have hm := List.mem_reverse.mp (List.mem_of_find?_eq_some hfind)
    rw [Option.map_some, h.eq_of_id_eq hm hn hid]

/-! ## Candidates -/

/-- Whether a node can take a spec on top of what is committed on it. -/
def takes? (s : Store) (pick : Strategy) (spec : Spec) (image : Option Image) (n : Node) :
    Option Candidate :=
  Candidate.of? n (s.usage pick n) spec (spec.partitions image) pick

/-- A node is up for placement where it is live and listed. -/
theorem mem_listedNodes : n ∈ s.listedNodes ↔ s.nodes.find? n.id = some n ∧ n.listed = true := by
  rw [listedNodes, Repository.mem_list]
  show _ ∧ (true == n.listed) = true ↔ _
  cases n.listed <;> simp [Record.id]

/-- The nodes up for placement stand in the order of their identifiers. -/
theorem listedNodes_ascending (s : Store) : Record.Ascending s.listedNodes :=
  Repository.list_ascending _ _

/-- What the candidates are before they are put in order: they already ascend by their nodes. -/
theorem found_pairwise (s : Store) (pick : Strategy) (spec : Spec) (image : Option Image) :
    (s.listedNodes.filterMap (s.takes? pick spec image)).Pairwise fun a b => a.nodeId < b.nodeId := by
  refine List.pairwise_filterMap.mpr (s.listedNodes_ascending.imp fun {a b} hlt c hc d hd => ?_)
  rw [(Candidate.describes_of hc).nodeId, (Candidate.describes_of hd).nodeId]
  exact hlt

/-- **The query decides on each listed node by itself**, and its order is that of the nodes; sorting what is
sorted changes nothing. -/
theorem candidates_eq (s : Store) (pick : Strategy) (spec : Spec) (image : Option Image) :
    s.candidates pick spec image = s.listedNodes.filterMap (s.takes? pick spec image) := by
  have hfound : s.listedNodes.filterMap (candidate? (s.occupancy pick s.listedNodes) pick spec image) =
      s.listedNodes.filterMap (s.takes? pick spec image) := by
    refine List.filterMap_congr fun n hn => ?_
    rw [candidate?, lookup_occupancy_of_mem s.listedNodes_ascending hn]
    rfl
  rw [candidates, hfound]
  refine List.mergeSort_of_pairwise ((found_pairwise s pick spec image).imp fun hlt => ?_)
  exact decide_eq_true (UInt64.le_of_lt hlt)

/-- **The check decides on a node as the query does**, though it replays the workloads for that node alone. -/
theorem checkNode_eq_ok_iff {spec : Spec} {image : Image} {c : Candidate} :
    s.checkNode pick spec image n = .ok c ↔ s.takes? pick spec (some image) n = some c := by
  have halone : candidate? (s.occupancy pick [n]) pick spec (some image) n =
      s.takes? pick spec (some image) n := by
    rw [candidate?, lookup_occupancy_of_mem (List.pairwise_singleton _ n) List.mem_cons_self]
    rfl
  unfold checkNode
  rw [halone]
  split <;> simp_all

/-- A node that is turned down is so with a reason. -/
theorem checkNode_error {spec : Spec} {image : Image} {e : Failure}
    (h : s.checkNode pick spec image n = .error e) : ∃ text, e = .invalidRequest text := by
  unfold checkNode at h
  split at h
  · cases h
  · exact ⟨_, (Except.error.inj h).symm⟩

/-- A candidate is what a listed node was found to offer. -/
theorem mem_candidates {spec : Spec} {image : Option Image} {c : Candidate} :
    c ∈ s.candidates pick spec image ↔ ∃ n ∈ s.listedNodes, s.takes? pick spec image n = some c := by
  rw [candidates_eq, List.mem_filterMap]

/-- **A candidate is a listed node that can take the spec**, as what was found of that node. -/
theorem mem_candidates_of_node {spec : Spec} {image : Option Image} {c : Candidate}
    (hn : s.nodes.find? n.id = some n) : c ∈ s.candidates pick spec image ∧ c.nodeId = n.id ↔
      n.listed = true ∧ s.takes? pick spec image n = some c := by
  rw [mem_candidates]
  constructor
  · rintro ⟨⟨m, hm, hc⟩, hid⟩
    obtain ⟨hfind, hlisted⟩ := mem_listedNodes.mp hm
    rw [← (Candidate.describes_of hc).nodeId, hid, hn] at hfind
    obtain rfl := Option.some.inj hfind
    exact ⟨hlisted, hc⟩
  · rintro ⟨hlisted, hc⟩
    exact ⟨⟨n, mem_listedNodes.mpr ⟨hn, hlisted⟩, hc⟩, (Candidate.describes_of hc).nodeId⟩

/-- A listed node is among the candidates exactly where it can take the spec. -/
theorem exists_candidate_iff {spec : Spec} {image : Option Image} (hn : n ∈ s.listedNodes) :
    (∃ c ∈ s.candidates pick spec image, c.nodeId = n.id) ↔
      ∃ c, s.takes? pick spec image n = some c := by
  obtain ⟨hfind, hlisted⟩ := mem_listedNodes.mp hn
  exact exists_congr fun c => (mem_candidates_of_node hfind).trans (and_iff_right hlisted)

/-- **A candidate is a listed node that the check accepts**, as the check reports it. -/
theorem mem_candidates_iff {spec : Spec} {image : Image} {c : Candidate}
    (hn : s.nodes.find? n.id = some n) :
    c ∈ s.candidates pick spec (some image) ∧ c.nodeId = n.id ↔
      n.listed = true ∧ s.checkNode pick spec image n = .ok c := by
  rw [checkNode_eq_ok_iff]
  exact mem_candidates_of_node hn

end Store

end FleetControl
