import FleetControl.Proofs.Service.Creation

/-!
# What the query for candidates promises

**The query and the placement agree** (`candidates_agree`). A live node is among the candidates for a
spec and an image exactly where it is listed and the check of that node alone succeeds, and both report
it the same; so an order for records that are there is turned down exactly where its node is not among
the candidates.

**What was found for an order is what it takes** (`create_usage`). An order that succeeds adds its spec
to the usage of its node, amount by amount, with the cards as the check had allocated them; an order
that fails takes nothing, and neither touches another node.

**What it does not establish.** Nothing is reserved between the query and the placement, so this is
about orders on the same records. An order that waits for a silent engine has a record and no answer;
its record holds room.
-/

namespace FleetControl.Service

variable {v : Service} {p : Principal} {o : Order} {s s' : Store} {w : Workload} {image : Image}
  {spec : Spec} {n : Node} {r : Except Halt Workload}

/-! ## Small records -/

/-- A node with two cards of three gigabytes each. -/
def smallNode : Node :=
  { Node.blank .epoch with id := 1, name := "small", engineAddress := "small", gpuCount := 2, perCardGb := 3 }

/-- A spec that shares the memory of its cards. -/
def smallSpec (id cards memoryGb : UInt64) : Spec :=
  { Spec.blank .epoch with id := id, gpuCount := cards, gpuMemoryGb := memoryGb, supportsSplit := true }

/-- An image that shares the memory of its cards. -/
def smallImage : Image := { Image.blank .epoch with id := 1, supportsSplit := true }

/-- **Records without workloads**: a node, an image, and specs of one gigabyte, of two, and of one on
each of two cards. -/
def smallStore : Store where
  nodes := ⟨[smallNode], 2, List.pairwise_singleton _ _⟩
  specs := ⟨[smallSpec 1 1 1, smallSpec 2 1 2, smallSpec 3 2 2], 4, by
    unfold Record.Ascending
    decide⟩
  images := ⟨[smallImage], 2, List.pairwise_singleton _ _⟩
  workloads := .empty

/-- The small records, and engines that answer. -/
def smallFleet : Fleet := { store := smallStore, now := .epoch, cache := { ttl := 0 } }

/-- The service with its defaults, no command line being asked for statistics. -/
def smallService : Service :=
  { collector := { samplesCommandLine := false, commandLimit := 0, window := 0 } }

/-- An administrator. -/
def admin : Principal := { userId := 1, isAdmin := true }

/-- An order for a spec of the small records. -/
def smallOrder (spec : RecordId) : Order := { imageId := 1, specId := spec, nodeId := 1 }

/-- The small records hold what the small order names. -/
theorem finds_small : Finds (smallOrder 2) smallStore smallImage (smallSpec 2 1 2) smallNode :=
  ⟨rfl, rfl, rfl⟩

/-! ## The query and the placement -/

/-- A live node is not among the candidates exactly where the order for it would be turned down. -/
theorem forall_candidates_ne_iff (found : Finds o s image spec n) :
    (∀ c ∈ s.candidates Ledger.packFirst spec (some image), c.nodeId ≠ n.id) ↔
      ¬ Accepts s image spec n := by
  have hiff : ∀ c, c ∈ s.candidates Ledger.packFirst spec (some image) ∧ c.nodeId = n.id ↔
      n.listed = true ∧ s.checkNode Ledger.packFirst spec image n = .ok c :=
    fun _ => Store.mem_candidates_iff found.node_self
  constructor
  · rintro h ⟨hlisted, c, hc⟩
    obtain ⟨hmem, hid⟩ := (hiff c).mpr ⟨hlisted, hc⟩
    exact h c hmem hid
  · intro h c hmem hid
    obtain ⟨hlisted, hc⟩ := (hiff c).mp ⟨hmem, hid⟩
    exact h ⟨hlisted, c, hc⟩

/-- The query looks at the records and leaves them, and comes to the candidates of the records that it found. -/
theorem candidates_yields {r : Except Halt (List Candidate)} (found : Finds o s image spec n) :
    (candidates o.specId (some o.imageId)).Yields s r s' ↔
      r = .ok (s.candidates Ledger.packFirst spec (some image)) ∧ s' = s := by
  unfold candidates
  rw [Job.yields_bind_of_ok fun _ _ => Job.yields_get_of_find? found.spec]
  have himage : ∀ q z, Job.Yields (some <$> Job.get Job.images o.imageId) s q z ↔
      q = .ok (some image) ∧ z = s := by
    intro q z
    rw [map_eq_pure_bind, Job.yields_bind_of_ok fun _ _ => Job.yields_get_of_find? found.image,
      Job.yields_pure]
  rw [Job.yields_bind_of_ok himage, Job.yields_look]
  constructor
  · rintro ⟨fl, rfl, hr, hs⟩
    exact ⟨hr, hs⟩
  · rintro ⟨hr, hs⟩
    exact ⟨{ (default : Fleet) with store := s }, rfl, hr, hs⟩

/-- **The query and the placement agree.** -/
theorem candidates_agree (found : Finds o s image spec n) :
    (∀ r s', (candidates o.specId (some o.imageId)).Yields s r s' ↔
      r = .ok (s.candidates Ledger.packFirst spec (some image)) ∧ s' = s) ∧
    (∀ c, c ∈ s.candidates Ledger.packFirst spec (some image) ∧ c.nodeId = n.id ↔
      n.listed = true ∧ s.checkNode Ledger.packFirst spec image n = .ok c) ∧
    (s.candidates Ledger.packFirst spec (some image)).Pairwise (fun a b => a.nodeId < b.nodeId) ∧
    ∀ v p r s', (create v p o).Yields s r s' →
      ((∃ text, r = .error (.failed (.invalidRequest text))) ↔
        ∀ c ∈ s.candidates Ledger.packFirst spec (some image), c.nodeId ≠ n.id) := by
  refine ⟨fun r s' => candidates_yields found,
    fun c => Store.mem_candidates_iff found.node_self, ?_, fun v p r s' hy => ?_⟩
  · rw [Store.candidates_eq]
    exact Store.found_pairwise s Ledger.packFirst spec (some image)
  · rw [forall_candidates_ne_iff found]
    cases create_yields hy with
    | missing absent => exact absurd found (absent image spec n)
    | rejected found' rejects =>
      obtain ⟨rfl, rfl, rfl⟩ := found.unique found'
      exact ⟨fun _ => rejects, fun _ => ⟨_, rfl⟩⟩
    | unstored found' accepts _ =>
      obtain ⟨rfl, rfl, rfl⟩ := found.unique found'
      refine ⟨?_, fun h => absurd accepts h⟩
      rintro ⟨_, he⟩
      cases he
    | made found' accepts _ _ _ ending =>
      obtain ⟨rfl, rfl, rfl⟩ := found.unique found'
      refine ⟨?_, fun h => absurd accepts h⟩
      rintro ⟨_, rfl⟩
      cases ending with
      | halts untold => exact absurd rfl (untold _)

/-- On the small records the node is a candidate for two gigabytes, so an order is not turned down. -/
theorem candidates_agree_small :
    Finds (smallOrder 2) smallStore smallImage (smallSpec 2 1 2) smallNode ∧
    ∀ r s', (create smallService admin (smallOrder 2)).Yields smallStore r s' →
      ¬ ∃ text, r = .error (.failed (.invalidRequest text)) := by
  obtain ⟨_, hmem, _, hcreate⟩ := candidates_agree finds_small
  refine ⟨finds_small, fun r s' hy hr => ?_⟩
  have habsent := (hcreate smallService admin r s' hy).mp hr
  have haccepts : Accepts smallStore smallImage (smallSpec 2 1 2) smallNode := by decide
  obtain ⟨hlisted, c, hc⟩ := haccepts
  obtain ⟨hc, hid⟩ := (hmem c).mpr ⟨hlisted, hc⟩
  exact habsent c hc hid

/-! ## The placement and the usage after it -/

/-- **What was found for an order is what it takes**; an order that fails takes nothing. -/
theorem create_usage (hfresh : s.workloads.Fresh) (hy : (create v p o).Yields s r s') :
    (∀ w, r = .ok w → ∃ image spec n, Finds o s image spec n ∧
      (∀ ns, Record.Ascending ns → n ∈ ns → ∃ u u',
        (s.occupancy Ledger.packFirst ns).lookup n.id = some u ∧
        (s'.occupancy Ledger.packFirst ns).lookup n.id = some u' ∧
        u.Grows Ledger.packFirst n spec (spec.partitions (some image)) u') ∧
      ∀ ns k, k ≠ n.id → (s'.occupancy Ledger.packFirst ns).lookup k =
        (s.occupancy Ledger.packFirst ns).lookup k) ∧
    ∀ f, r = .error (.failed f) → ∀ ns k, (s'.occupancy Ledger.packFirst ns).lookup k =
      (s.occupancy Ledger.packFirst ns).lookup k := by
  cases create_yields hy with
  | missing _ | rejected _ _ => exact ⟨fun _ h => (nomatch h), fun _ _ _ _ => rfl⟩
  | unstored _ _ same =>
    refine ⟨fun _ h => (nomatch h), fun _ _ ns k => ?_⟩
    exact Store.lookup_occupancy_congr (fun m _ => Store.usage_congr same.catalog same.footprints _ m) ns
  | @made image spec n w' _ _ found accepts gains footprint isLive ending =>
    have hprint := ending.footprint? isLive
    cases ending with
    | halts untold => exact ⟨fun _ h => (nomatch h), fun f hf => absurd (Except.error.inj hf) (untold f)⟩
    | fails status =>
      have hsame := gains.footprints_of_none (hprint.trans (if_pos status))
      refine ⟨fun _ h => (nomatch h), fun _ _ ns k => ?_⟩
      exact Store.lookup_occupancy_congr (fun m _ => Store.usage_congr gains.catalog hsame _ m) ns
    | runs status =>
      have hsome : w'.footprint? = some ⟨n.id, spec.id, image.id⟩ := by
        rw [hprint, status, if_neg nofun, footprint]
      have hlast := gains.footprints_of_fresh hfresh hsome
      obtain ⟨_, c, hc⟩ := accepts
      have hgrows := Store.grows_of_candidate Ledger.packFirst_sound gains.catalog hlast rfl
        found.spec_self found.image_self hc
      refine ⟨fun _ _ => ⟨image, spec, n, found, fun ns hns hn => ?_, fun ns k hk => ?_⟩,
        fun _ h => (nomatch h)⟩
      · exact ⟨_, _, Store.lookup_occupancy_of_mem hns hn, Store.lookup_occupancy_of_mem hns hn, hgrows⟩
      · refine Store.lookup_occupancy_congr (fun m hm => ?_) ns
        rw [Store.usage_append gains.catalog hlast, if_neg fun h => hk (hm.symm.trans h.symm)]

/-- On the small records an order of two gigabytes succeeds, and its claim lands on one card. -/
theorem create_usage_small : smallStore.workloads.Fresh ∧
    ∃ w s' u', (create smallService admin (smallOrder 2)).Yields smallStore (.ok w) s' ∧
      (s'.occupancy Ledger.packFirst [smallNode]).lookup 1 = some u' ∧
      (Usage.untouched smallNode).Grows Ledger.packFirst smallNode (smallSpec 2 1 2) true u' := by
  have hfresh : smallStore.workloads.Fresh := fun _ hw => absurd hw List.not_mem_nil
  have hy := Job.run_yields (create smallService admin (smallOrder 2)) smallFleet
  have hok : ((create smallService admin (smallOrder 2)).run.run smallFleet).1.isOk = true := by
    decide +kernel
  refine ⟨hfresh, ?_⟩
  cases hr : ((create smallService admin (smallOrder 2)).run.run smallFleet).1 with
  | error e =>
    rw [hr] at hok
    cases hok
  | ok w =>
    rw [hr] at hy
    obtain ⟨image, spec, n, found, hgrows, _⟩ := (create_usage hfresh hy).1 w rfl
    obtain ⟨rfl, rfl, rfl⟩ := finds_small.unique found
    obtain ⟨u, u', hbefore, hafter, hgrows⟩ :=
      hgrows [smallNode] (List.pairwise_singleton _ _) List.mem_cons_self
    obtain rfl : u = Usage.untouched smallNode := Option.some.inj hbefore.symm
    exact ⟨w, _, u', hy, hafter, hgrows⟩

end FleetControl.Service
