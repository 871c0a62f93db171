import FleetControl.Proofs.Fleet.Inquiry
import FleetControl.Proofs.Service.Placement
import FleetControl.Proofs.Service.Writes
import FleetControl.Proofs.Store.Renewal
import FleetControl.Service.Reconcile

/-!
# Passes over the records

A check of all workloads, or of all nodes, lists its records once and then visits them one by one; each visit
reads its record anew, asks an engine and writes what it makes of the answer. The two have one course in
common: a visit renews its record (`Renewing`), so after some of them the records visited are renewed and
those to come are as they were listed (`Underway`), and a pass renews them all (`run_pass`).

**A pass brings the records in step** with what the engines tell in it, changes nothing else and reports what
it found; **a second one** that is told the same finds nothing to change (`passes_converge`). What the engines
tell is taken in the order of asking, from the engines as the earlier calls left them, and whatever it is,
it is something (`exists_tellsStatuses`, `exists_tellsConnectivity`). A status that an engine tells always
holds room, so a workload that is brought in step is due again.

**What it does not establish.** A silent engine is left out here: a pass waits for it as long as a probe may
take, and takes the record to have failed, or its status to be unknown.
-/

namespace FleetControl

namespace Service

/-! ## Reports -/

/-- **One more record was looked at**: it could not be checked, or it was in step or not. -/
def Report.tallied {α : Type} (isMissed isMoved : α → Bool) (r : Report) (a : α) : Report :=
  if isMissed a then r.missed else r.counted (isMoved a)

/-- **A report counts the records** by what was found of them, in any order of visits. -/
theorem Report.foldl_tallied {α : Type} (isMissed isMoved : α → Bool) : ∀ (items : List α) (r : Report),
    items.foldl (Report.tallied isMissed isMoved) r =
      { r with
        checked := r.checked + items.length
        changed := r.changed + items.countP fun a => !isMissed a && isMoved a
        failed := r.failed + items.countP isMissed }
  | [], r => rfl
  | a :: rest, r => by
    rw [List.foldl_cons, foldl_tallied isMissed isMoved rest, List.length_cons, List.countP_cons,
      List.countP_cons]
    unfold Report.tallied
    cases isMissed a <;> cases isMoved a <;> simp [Report.missed, Report.counted] <;> omega

/-! ## One pass -/

section Pass

variable {α : Type} {visit : Report → α → Job Report}

/-- **Visits one after another**, by an invariant of what is still to come. -/
theorem run_eachAtPace {tally : Report → α → Report} {I : List α → Fleet → Prop}
    (hvisit : ∀ a rest r fl, I (a :: rest) fl →
      ∃ fl', (visit r a).run.run fl = (.ok (tally r a), fl') ∧ I rest fl') :
    ∀ (items : List α) (r : Report) (fl : Fleet), I items fl →
      ∃ fl', (eachAtPace visit r items).run.run fl = (.ok (items.foldl tally r), fl') ∧ I [] fl'
  | [], r, fl, h => ⟨fl, rfl, h⟩
  | [a], r, fl, h => hvisit a [] r fl h
  | a :: b :: rest, r, fl, h => by
    obtain ⟨fl', hrun, h'⟩ := hvisit a (b :: rest) r fl h
    obtain ⟨fl'', hrest, h''⟩ := run_eachAtPace hvisit (b :: rest) (tally r a) fl' h'
    refine ⟨fl'', ?_, h''⟩
    unfold eachAtPace
    rw [Job.run_bind_of_ok hrun, Job.run_bind_of_ok (Job.run_pace fl')]
    exact hrest

/-- A check that is not under way runs, and is marked as long as it does. -/
theorem run_exclusively {isBusy : Fleet → Bool} {mark : Bool → Fleet → Fleet} {check : Job Report}
    {fl fl' : Fleet} {r : Except Halt Report} (hidle : isBusy fl = false)
    (hrun : check.run.run (mark true fl) = (r, fl')) :
    (exclusively isBusy mark check).run.run fl = (r, mark false fl') := by
  unfold exclusively
  rw [Job.run_bind_of_ok (Job.run_look isBusy fl), hidle, if_neg Bool.false_ne_true,
    Job.run_bind_of_ok (Job.run_act _ fl), Job.run_ensuring_of hrun]

variable {β F P : Type} [Record α F P] {shelf : Job.Shelf α} {f : α → α}
  {ask : α → Option (Node × Engine.Call β)} {told : α → Except Failure β → Prop}
  {tally : Report → α → Report} {fl : Fleet}

/-- **Where a pass has come to**: the engines are as the calls so far left them, and so are the records of
its kind. -/
def arrived (shelf : Job.Shelf α) (fl : Fleet) (engines : List (String × Engine)) (repo : Repository α) :
    Fleet :=
  { fl with engines, store := shelf.set repo fl.store }

/-- **The visits of some records renew them**: each asks the engine for its record, puts what it makes of
the answer in its place and counts it. -/
def Renewing (shelf : Job.Shelf α) (f : α → α) (ask : α → Option (Node × Engine.Call β))
    (told : α → Except Failure β → Prop) (tally : Report → α → Report) (fl : Fleet) (items : List α)
    (visit : Report → α → Job Report) : Prop :=
  ∀ r, ∀ a ∈ items, ∀ engines repo, repo.find? (Record.id a) = some a →
    (∀ n c, ask a = some (n, c) → told a (Engines.reply (arrived shelf fl engines repo).engineAt n c)) →
    ∃ engines', (visit r a).run.run (arrived shelf fl engines repo) =
        (.ok (tally r a), arrived shelf fl engines' (repo.put (f a))) ∧
      (arrived shelf fl engines' (repo.put (f a))).engineAt =
        Engines.asked ask (arrived shelf fl engines repo).engineAt a

/-- **A pass that is still to come to some of its records**: the others are renewed, these are as they
were, and the engines tell of them what they are to tell. -/
inductive Underway [DecidableEq α] (shelf : Job.Shelf α) (f : α → α)
    (ask : α → Option (Node × Engine.Call β)) (told : α → Except Failure β → Prop) (fl : Fleet)
    (items : List α) : List α → Fleet → Prop
  | arrived {rest : List α} {engines : List (String × Engine)} {repo : Repository α}
    (renews : (shelf.get fl.store).Renews (Repository.pending rest f) repo) (nodup : rest.Nodup)
    (mem : ∀ a ∈ rest, a ∈ items)
    (tell : Engines.Tell ask told (arrived shelf fl engines repo).engineAt rest) :
    Underway shelf f ask told fl items rest (arrived shelf fl engines repo)

variable [DecidableEq α] {items : List α}

/-- A visit takes a pass on by one record. -/
theorem Underway.advance (hf : Record.IsRenewal f)
    (hvisit : Renewing shelf f ask told tally fl items visit)
    (hlive : ∀ a ∈ items, (shelf.get fl.store).find? (Record.id a) = some a)
    (a : α) (rest : List α) (r : Report) (fl' : Fleet)
    (h : Underway shelf f ask told fl items (a :: rest) fl') : ∃ fl'',
      (visit r a).run.run fl' = (.ok (tally r a), fl'') ∧ Underway shelf f ask told fl items rest fl'' := by
  obtain ⟨renews, nodup, mem, hfirst, hrest⟩ := h
  obtain ⟨hnot, nodup⟩ := List.nodup_cons.mp nodup
  have hitem := mem a List.mem_cons_self
  have ha := hlive a hitem
  obtain ⟨engines, hrun, hengines⟩ := hvisit r a hitem _ _ (renews.find?_next hf ha) hfirst
  refine ⟨_, hrun, .arrived ?_ nodup (fun b hb => mem b (List.mem_cons_of_mem a hb)) ?_⟩
  · exact renews.put_pending hf (Repository.find?_eq_some_iff.mp ha).1 hnot
  · rw [hengines]
    exact hrest

/-- **A pass renews every record that it visits**, each as it was when the pass began. -/
theorem run_pass (hshelf : ∀ s, shelf.set (shelf.get s) s = s) (hf : Record.IsRenewal f)
    (hvisit : Renewing shelf f ask told tally fl items visit) (hnodup : items.Nodup)
    (hlive : ∀ a ∈ items, (shelf.get fl.store).find? (Record.id a) = some a)
    (hothers : ∀ a ∈ (shelf.get fl.store).rows, a ∉ items → f a = a)
    (htell : Engines.Tell ask told fl.engineAt items) :
    ∃ engines repo, (eachAtPace visit {} items).run.run fl =
        (.ok (items.foldl tally {}), arrived shelf fl engines repo) ∧
      (shelf.get fl.store).Renews f repo := by
  have harrived : arrived shelf fl fl.engines (shelf.get fl.store) = fl := by
    unfold arrived
    rw [hshelf]
  have hstart : Underway shelf f ask told fl items items
      (arrived shelf fl fl.engines (shelf.get fl.store)) :=
    .arrived (Repository.renews_pending hothers) hnodup (fun _ h => h) (harrived.symm ▸ htell)
  rw [harrived] at hstart
  obtain ⟨_, hrun, ⟨renews, _, _, _⟩⟩ :=
    run_eachAtPace (Underway.advance hf hvisit hlive) items {} fl hstart
  exact ⟨_, _, hrun, Repository.renews_of_pending_nil renews⟩

end Pass

end Service

/-! ## Workloads -/

/-- **A pass over the workloads comes to it**: it takes room and has a unit. -/
def Workload.isDue (w : Workload) : Bool := w.holdsCapacity && w.unit?.isSome

/-- A workload that gets a status at a time; nothing else of it changes. -/
def Workload.withStatus (now : Time.Instant) (status : Status) (w : Workload) : Workload :=
  { w with status, stamps := { w.stamps with updated := now } }

namespace Store

variable (s : Store)

/-- The workloads that a pass comes to, in order. -/
def due : List Workload := s.workloads.rows.filter Workload.isDue

/-- The node of a workload is gone. -/
def isStray (w : Workload) : Bool := (s.nodes.find? w.nodeId).isNone

/-- **What is asked for a workload**: its node's engine is asked about its unit. -/
def inspection (w : Workload) : Option (Node × Engine.Call Engine.Inspection) :=
  match s.nodes.find? w.nodeId, w.unit? with
  | some n, some unit => some (n, .inspect unit)
  | _, _ => none

/-- A workload is not in step with a status that its engine reports. -/
def isAstray (word : RecordId → Status) (w : Workload) : Bool :=
  w.isDue && !s.isStray w && word w.id != w.status

/-- **A workload brought in step** with the status that its engine reports. -/
def synced (now : Time.Instant) (word : RecordId → Status) (w : Workload) : Workload :=
  if s.isAstray word w then w.withStatus now (word w.id) else w

end Store

namespace Service

variable {v : Service} {fl : Fleet} {w : Workload} {n : Node} {unit : String}

/-- A workload whose node is gone is not brought in step, and keeps the status that it has. -/
theorem run_syncStatus_stray (hw : fl.store.workloads.find? w.id = some w) (hunit : w.unit? = some unit)
    (hn : fl.store.nodes.find? w.nodeId = none) : (syncStatus w.id).run.run fl =
      (.error (.failed (.notFound (Record.label Node w.nodeId))), fl) := by
  unfold syncStatus
  rw [Job.run_bind_of_ok (Job.run_get_of_find? hw), hunit]
  exact Job.run_bind_of_error (Job.run_get_of_none hn)

/-- **A workload is brought in step** with what the engine of its node says. -/
theorem run_syncStatus (hw : fl.store.workloads.find? w.id = some w) (hunit : w.unit? = some unit)
    (hn : fl.store.nodes.find? w.nodeId = some n) (hheard : n.engineAddress ∉ fl.silent)
    {status : Status}
    (hstatus : status = statusOf ((Engines.reply fl.engineAt n (.inspect unit)).map (·.state))) :
    ∃ engines repo, (syncStatus w.id).run.run fl = (.ok status, arrived Job.workloads fl engines repo) ∧
      repo = fl.store.workloads.put (if status != w.status then w.withStatus fl.now status else w) ∧
      (arrived Job.workloads fl engines repo).engineAt = Engines.after fl.engineAt n (.inspect unit) := by
  obtain ⟨engines, hask, hengines⟩ := Job.run_attempt_unitState hheard unit
  have hrun : (syncStatus w.id).run.run fl = (do
      if status != w.status then let _ ← setStatus w.id status
      pure status : Job Status).run.run { fl with engines } := by
    unfold syncStatus
    rw [Job.run_bind_of_ok (Job.run_get_of_find? hw), hunit]
    dsimp only
    rw [Job.run_bind_of_ok (Job.run_get_of_find? hn), Job.run_bind_of_ok hask, ← hstatus]
  refine ⟨engines, _, ?_, rfl, hengines⟩
  rw [hrun]
  by_cases hmoved : (status != w.status) = true
  · have hset : (setStatus w.id status).run.run { fl with engines } = (.ok (w.withStatus fl.now status),
        arrived Job.workloads fl engines (fl.store.workloads.put (w.withStatus fl.now status))) :=
      Job.run_update _ hw
    rw [if_pos hmoved, if_pos hmoved, Job.run_bind_of_ok hset]
    rfl
  · rw [if_neg hmoved, if_neg hmoved, Repository.put_of_find? hw]
    rfl

/-- **The engines answer where a pass asks for them.** -/
def Heard (fl : Fleet) : Prop :=
  ∀ id n, fl.store.nodes.find? id = some n → n.engineAddress ∉ fl.silent

/-- **A visit of a workload renews it.** -/
theorem renewing_resyncWorkload (v : Service) (word : RecordId → Status) (hheard : Heard fl) :
    Renewing Job.workloads (fl.store.synced fl.now word) fl.store.inspection
      (fun w r => word w.id = statusOf (r.map (·.state)))
      (Report.tallied fl.store.isStray fun w => word w.id != w.status) fl fl.store.due v.resyncWorkload := by
  intro r w hw engines repo hfind htold
  have hdue : w.isDue = true := (List.mem_filter.mp hw).2
  obtain ⟨unit, hunit⟩ := Option.isSome_iff_exists.mp (Bool.and_eq_true_iff.mp hdue).2
  cases hn : fl.store.nodes.find? w.nodeId with
  | none =>
    have hstray : fl.store.isStray w = true := by rw [Store.isStray, hn]; rfl
    have hask : fl.store.inspection w = none := by rw [Store.inspection, hn]
    have hsame : fl.store.synced fl.now word w = w := by
      rw [Store.synced, Store.isAstray, hstray, hdue]
      rfl
    have hsync : (syncStatus w.id).run.run (arrived Job.workloads fl engines repo) = _ :=
      run_syncStatus_stray hfind hunit hn
    rw [hsame, Repository.put_of_find? hfind, Engines.asked, hask]
    refine ⟨engines, ?_, rfl⟩
    unfold resyncWorkload
    rw [Job.run_bind_of_ok (Job.run_within_of hsync), Report.tallied, if_pos hstray]
    rfl
  | some n =>
    have hstray : fl.store.isStray w = false := by rw [Store.isStray, hn]; rfl
    have hask : fl.store.inspection w = some (n, .inspect unit) := by rw [Store.inspection, hn, hunit]
    have hsynced : fl.store.synced fl.now word w =
        if word w.id != w.status then w.withStatus fl.now (word w.id) else w := by
      rw [Store.synced, Store.isAstray, hstray, hdue]
      rfl
    have hn' : (arrived Job.workloads fl engines repo).store.nodes.find? w.nodeId = some n := hn
    have hheard' : n.engineAddress ∉ (arrived Job.workloads fl engines repo).silent := hheard _ n hn
    obtain ⟨engines', _, hsync, rfl, hengines⟩ := run_syncStatus hfind hunit hn' hheard' (htold n _ hask)
    rw [Engines.asked, hask, hsynced]
    refine ⟨engines', ?_, hengines⟩
    unfold resyncWorkload
    rw [Job.run_bind_of_ok (Job.run_within_of hsync), Report.tallied, hstray, if_neg Bool.false_ne_true]
    rfl

end Service

/-! ## Nodes -/

/-- A node whose probe found something at a time; nothing else of it changes. -/
def Node.withConnectivity (now : Time.Instant) (c : Connectivity) (n : Node) : Node :=
  { n with connectivity := c, stamps := { n.stamps with updated := now } }

namespace Store

variable (s : Store)

/-- The nodes that a pass comes to, in order. -/
def liveNodes : List Node := s.nodes.rows.filter Record.isLive

/-- **A node with what its probe found.** -/
def probed (now : Time.Instant) (found : RecordId → Connectivity) (n : Node) : Node :=
  if Record.isLive n then n.withConnectivity now (found n.id) else n

end Store

namespace Service

variable {fl : Fleet} {n : Node}

/-- What a probe is to find, by the answer to a ping. -/
def connectivityOf (r : Except Failure Unit) : Connectivity := if r.isOk then .connected else .failed

/-- **A stored node is probed** and keeps what was found. -/
theorem run_testNode (hn : fl.store.nodes.find? n.id = some n) (hheard : n.engineAddress ∉ fl.silent)
    {c : Connectivity} (hc : c = connectivityOf (Engines.reply fl.engineAt n .ping)) :
    ∃ engines test, (testNode n.id).run.run fl =
        (.ok test, arrived Job.nodes fl engines (fl.store.nodes.put (n.withConnectivity fl.now c))) ∧
      test.connectivity = c ∧
      (arrived Job.nodes fl engines (fl.store.nodes.put (n.withConnectivity fl.now c))).engineAt =
        Engines.after fl.engineAt n .ping := by
  obtain ⟨engines, text, htest, hengines⟩ := Job.run_testEngine hheard
  refine ⟨engines, ⟨(Engines.reply fl.engineAt n .ping).isOk, text⟩, ?_, hc.symm, hengines⟩
  have hprobe : (probe n).run.run fl =
      (.ok ⟨(Engines.reply fl.engineAt n .ping).isOk, text⟩, { fl with engines }) :=
    Job.run_bind_of_ok htest
  have hupdate : (Job.update Job.nodes n.id { connectivity := some c : NodePatch }).run.run
      { fl with engines } = (.ok (n.withConnectivity fl.now c),
        arrived Job.nodes fl engines (fl.store.nodes.put (n.withConnectivity fl.now c))) :=
    Job.run_update _ hn
  unfold testNode
  rw [Job.run_bind_of_ok (Job.run_get_of_find? hn), Job.run_bind_of_ok hprobe]
  rw [hc] at hupdate ⊢
  exact Job.run_bind_of_ok hupdate

/-- **A visit of a node renews it.** -/
theorem renewing_recheckNode (v : Service) (found : RecordId → Connectivity) (hheard : Heard fl) :
    Renewing Job.nodes (Store.probed fl.now found) (fun n => some (n, .ping))
      (fun n r => found n.id = connectivityOf r)
      (Report.tallied (fun _ => false) fun n => found n.id != n.connectivity) fl fl.store.liveNodes
      v.recheckNode := by
  intro r n hn engines repo hfind htold
  obtain ⟨hmem, hlive⟩ := List.mem_filter.mp hn
  have hheard' : n.engineAddress ∉ (arrived Job.nodes fl engines repo).silent :=
    hheard n.id n (Repository.find?_eq_some_iff.mpr ⟨hmem, rfl, hlive⟩)
  have hfind' : (arrived Job.nodes fl engines repo).store.nodes.find? n.id = some n := hfind
  obtain ⟨engines', test, htest, hfound, hengines⟩ := run_testNode hfind' hheard' (htold n .ping rfl)
  have hprobed : Store.probed fl.now found n = n.withConnectivity fl.now (found n.id) := if_pos hlive
  rw [hprobed]
  refine ⟨engines', ?_, hengines⟩
  unfold recheckNode
  rw [Job.run_bind_of_ok (Job.run_within_of htest)]
  show ((.ok (r.counted (test.connectivity != n.connectivity)), _) : Except Halt Report × Fleet) = _
  rw [hfound]
  rfl

end Service

/-! ## What passes promise -/

/-- **The engines of a fleet tell the statuses of its workloads**: the engine of every node answers in
time, and when a pass asks for the workloads that are due, the status that is told of each, unknown where
the query fails, is the given one. -/
structure Fleet.TellsStatuses (word : RecordId → Status) (fl : Fleet) : Prop where
  idle : fl.isCheckingWorkloads = false
  heard : Service.Heard fl
  told : Engines.Tell fl.store.inspection
    (fun w r => word w.id = Service.statusOf (r.map (·.state))) fl.engineAt fl.store.due

/-- **The engines of a fleet tell which nodes are connected**: the engine of every node answers in time,
and when a pass probes the live nodes, it finds of each what is given. -/
structure Fleet.TellsConnectivity (found : RecordId → Connectivity) (fl : Fleet) : Prop where
  idle : fl.isCheckingNodes = false
  heard : Service.Heard fl
  told : Engines.Tell (fun n => some (n, .ping)) (fun n r => found n.id = Service.connectivityOf r)
    fl.engineAt fl.store.liveNodes

namespace Store

variable {s s' : Store} {now : Time.Instant} {word : RecordId → Status} {found : RecordId → Connectivity}
  {w : Workload}

/-- What a pass over the workloads reports. -/
def syncReport (s : Store) (word : RecordId → Status) : Service.Report :=
  { checked := s.due.length, changed := s.due.countP (s.isAstray word), failed := s.due.countP s.isStray }

/-- What a pass over the nodes reports. -/
def probeReport (s : Store) (found : RecordId → Connectivity) : Service.Report :=
  { checked := s.liveNodes.length, changed := s.liveNodes.countP fun n => found n.id != n.connectivity }

/-- **The workloads are brought in step**, and nothing else is changed. -/
structure Synced (now : Time.Instant) (word : RecordId → Status) (s s' : Store) : Prop where
  nodes : s'.nodes = s.nodes
  specs : s'.specs = s.specs
  images : s'.images = s.images
  workloads : s.workloads.Renews (s.synced now word) s'.workloads

/-- **The nodes keep what was found**, and nothing else is changed. -/
structure Probed (now : Time.Instant) (found : RecordId → Connectivity) (s s' : Store) : Prop where
  nodes : s.nodes.Renews (probed now found) s'.nodes
  specs : s'.specs = s.specs
  images : s'.images = s.images
  workloads : s'.workloads = s.workloads

/-- A workload brought in step keeps its identifier and stays live or gone, so it renews its row. -/
theorem isRenewal_synced (s : Store) (now : Time.Instant) (word : RecordId → Status) :
    Record.IsRenewal (s.synced now word) :=
  (Record.isRenewal_patch now fun w : Workload => WorkloadPatch.ofStatus (word w.id)).ite
    Record.isRenewal_self

/-- A node with what its probe found keeps its identifier and stays live or gone. -/
theorem isRenewal_probed (now : Time.Instant) (found : RecordId → Connectivity) :
    Record.IsRenewal (probed now found) :=
  (Record.isRenewal_patch now fun n : Node => ({ connectivity := some (found n.id) } : NodePatch)).ite
    Record.isRenewal_self

/-- The workloads that are due are those that a pass lists: live, with a unit, in a status that holds room. -/
theorem due_eq (s : Store) : (s.workloads.list ({ hasUnit := some true } : WorkloadFilter)).filter
    (·.holdsCapacity) = s.due := by
  unfold Repository.list due
  rw [List.filter_filter]
  refine List.filter_congr fun w _ => ?_
  have hselected : Record.isSelected ({ hasUnit := some true } : WorkloadFilter) w = w.unit?.isSome := by
    show WorkloadFilter.selects _ w = _
    simp [WorkloadFilter.selects]
  have hlive : w.holdsCapacity = (w.holdsCapacity && Record.isLive w) := by
    show _ = (_ && w.stamps.deleted.isNone)
    cases hnone : w.stamps.deleted.isNone <;> simp [Workload.holdsCapacity, hnone]
  rw [hselected, ← Bool.and_assoc, ← hlive]
  rfl

/-- A pass over the nodes lists the live ones. -/
theorem liveNodes_eq (s : Store) : s.nodes.list ({} : NodeFilter) = s.liveNodes :=
  List.filter_congr fun _ _ => Bool.and_true _

/-- A workload that is due is live, so its visit finds the record. -/
theorem find?_of_due (h : w ∈ s.due) : s.workloads.find? w.id = some w := by
  obtain ⟨hmem, hdue⟩ := List.mem_filter.mp h
  have hholds := (Bool.and_eq_true_iff.mp hdue).1
  refine Repository.find?_eq_some_iff.mpr ⟨hmem, rfl, ?_⟩
  exact (Bool.and_eq_true_iff.mp (Bool.and_eq_true_iff.mp hholds).1).1

/-- A live node is found under its identifier. -/
theorem find?_of_liveNodes {n : Node} (h : n ∈ s.liveNodes) : s.nodes.find? n.id = some n := by
  obtain ⟨hmem, hlive⟩ := List.mem_filter.mp h
  exact Repository.find?_eq_some_iff.mpr ⟨hmem, rfl, hlive⟩

/-- The visits of the workloads that are due add up to the report. -/
theorem foldl_due (s : Store) (word : RecordId → Status) :
    s.due.foldl (Service.Report.tallied s.isStray fun w => word w.id != w.status) {} =
      s.syncReport word := by
  have hastray : s.due.countP (fun w => !s.isStray w && word w.id != w.status) =
      s.due.countP (s.isAstray word) := by
    refine List.countP_congr fun w hw => ?_
    rw [isAstray, (List.mem_filter.mp hw).2, Bool.true_and]
  rw [Service.Report.foldl_tallied, hastray]
  simp only [Nat.zero_add]
  rfl

theorem foldl_liveNodes (s : Store) (found : RecordId → Connectivity) :
    s.liveNodes.foldl (Service.Report.tallied (fun _ => false) fun n => found n.id != n.connectivity) {} =
      s.probeReport found := by
  rw [Service.Report.foldl_tallied]
  simp only [Nat.zero_add, Bool.not_false, Bool.true_and, List.countP_false]
  rfl

end Store

namespace Service

variable {fl : Fleet} {word : RecordId → Status} {found : RecordId → Connectivity}

theorem ascending_due (s : Store) : Record.Ascending s.due := s.workloads.ordered.filter _

theorem ascending_liveNodes (s : Store) : Record.Ascending s.liveNodes := s.nodes.ordered.filter _

/-- Whatever engines that answer in time say, it is something. -/
theorem exists_tellsStatuses (hidle : fl.isCheckingWorkloads = false) (hheard : Heard fl) :
    ∃ word, fl.TellsStatuses word := by
  obtain ⟨word, htold⟩ := Engines.exists_tell fl.store.inspection Workload.id
    (fun r => statusOf (r.map (·.state))) fl.engineAt (ascending_due fl.store).nodup_id
  exact ⟨word, hidle, hheard, htold⟩

theorem exists_tellsConnectivity (hidle : fl.isCheckingNodes = false) (hheard : Heard fl) :
    ∃ found, fl.TellsConnectivity found := by
  obtain ⟨found, htold⟩ := Engines.exists_tell (fun n => some (n, .ping)) Node.id
    connectivityOf fl.engineAt (ascending_liveNodes fl.store).nodup_id
  exact ⟨found, hidle, hheard, htold⟩

/-- **One pass over the workloads brings them in step.** -/
theorem run_resyncWorkloads (v : Service) (h : fl.TellsStatuses word) : ∃ fl',
    v.resyncWorkloads.run.run fl = (.ok (fl.store.syncReport word), fl') ∧
      fl.store.Synced fl.now word fl'.store := by
  have hothers : ∀ w ∈ fl.store.workloads.rows, w ∉ fl.store.due → fl.store.synced fl.now word w = w := by
    intro w hw hnot
    have hdue : w.isDue = false := by simpa using fun hdue => hnot (List.mem_filter.mpr ⟨hw, hdue⟩)
    rw [Store.synced, Store.isAstray, hdue]
    rfl
  have hheard : Heard { fl with isCheckingWorkloads := true } := h.heard
  obtain ⟨engines, repo, hrun, hrenews⟩ := run_pass (fun _ => rfl) (Store.isRenewal_synced _ _ _)
    (renewing_resyncWorkload v word hheard) (ascending_due _).nodup (fun _ => Store.find?_of_due)
    hothers h.told
  rw [Store.foldl_due, ← Store.due_eq] at hrun
  exact ⟨_, run_exclusively h.idle hrun, ⟨rfl, rfl, rfl, hrenews⟩⟩

/-- **One pass over the nodes** finds what there is to find. -/
theorem run_recheckNodes (v : Service) (h : fl.TellsConnectivity found) : ∃ fl',
    v.recheckNodes.run.run fl = (.ok (fl.store.probeReport found), fl') ∧
      fl.store.Probed fl.now found fl'.store := by
  have hothers : ∀ n ∈ fl.store.nodes.rows, n ∉ fl.store.liveNodes → Store.probed fl.now found n = n :=
    fun n hn hnot => if_neg fun hlive => hnot (List.mem_filter.mpr ⟨hn, hlive⟩)
  have hheard : Heard { fl with isCheckingNodes := true } := h.heard
  obtain ⟨engines, repo, hrun, hrenews⟩ := run_pass (fun _ => rfl) (Store.isRenewal_probed _ _)
    (renewing_recheckNode v found hheard) (ascending_liveNodes _).nodup (fun _ => Store.find?_of_liveNodes)
    hothers h.told
  rw [Store.foldl_liveNodes, ← Store.liveNodes_eq] at hrun
  exact ⟨_, run_exclusively h.idle hrun, ⟨hrenews, rfl, rfl, rfl⟩⟩

end Service

/-! ## What a second pass finds -/

namespace Store

variable {s s' : Store} {now : Time.Instant} {word : RecordId → Status} {found : RecordId → Connectivity}
  {w : Workload}

theorem synced_of_not_astray (h : s.isAstray word w = false) : s.synced now word w = w := by
  rw [synced, h]
  rfl

theorem synced_of_astray (h : s.isAstray word w = true) :
    s.synced now word w = w.withStatus now (word w.id) := by
  rw [synced, if_pos h]

/-- A workload that is brought in step with a status that holds room is due as before. -/
theorem isDue_synced (hsteady : s.isAstray word w = true → (word w.id).Steady) :
    (s.synced now word w).isDue = w.isDue := by
  cases hastray : s.isAstray word w with
  | false => rw [synced_of_not_astray hastray]
  | true =>
    obtain ⟨_, hfailed, hremoved⟩ := hsteady hastray
    have hdue : w.isDue = true := by
      simp only [isAstray, Bool.and_eq_true] at hastray
      exact hastray.1.1
    rw [synced_of_astray hastray, hdue]
    simp only [Workload.isDue, Workload.holdsCapacity, Bool.and_eq_true] at hdue ⊢
    exact ⟨⟨⟨hdue.1.1.1, bne_iff_ne.mpr hfailed⟩, bne_iff_ne.mpr hremoved⟩, hdue.2⟩

namespace Synced

variable (h : s.Synced now word s')

include h

/-- Whether a workload's node is gone does not change with a pass. -/
theorem isStray : s'.isStray (s.synced now word w) = s.isStray w := by
  unfold Store.isStray
  rw [h.nodes]
  cases hastray : s.isAstray word w with
  | false => rw [synced_of_not_astray hastray]
  | true => rw [synced_of_astray hastray]; rfl

/-- **No workload is out of step afterwards**: what its engine tells is what its record says. -/
theorem isAstray : s'.isAstray word (s.synced now word w) = false := by
  cases hastray : s.isAstray word w with
  | false =>
    rw [synced_of_not_astray hastray]
    unfold Store.isAstray Store.isStray
    rw [h.nodes]
    exact hastray
  | true =>
    rw [synced_of_astray hastray]
    simp [Store.isAstray, Workload.withStatus]

theorem due (hsteady : ∀ w ∈ s.workloads.rows, s.isAstray word w = true → (word w.id).Steady) :
    s'.due = s.due.map (s.synced now word) := by
  unfold Store.due
  rw [h.workloads.rows, List.filter_map]
  congr 1
  exact List.filter_congr fun w hw => isDue_synced (hsteady w hw)

/-- **A second pass counts the same workloads**, and none that had to be changed, as long as the engines tell what
they told. -/
theorem syncReport (hsteady : ∀ w ∈ s.workloads.rows, s.isAstray word w = true → (word w.id).Steady) :
    s'.syncReport word = { s.syncReport word with changed := 0 } := by
  have hchanged : s'.due.countP (s'.isAstray word) = 0 := by
    rw [h.due hsteady, List.countP_map, List.countP_eq_zero]
    exact fun w _ => Bool.eq_false_iff.mp h.isAstray
  have hfailed : s'.due.countP s'.isStray = s.due.countP s.isStray := by
    rw [h.due hsteady, List.countP_map]
    exact List.countP_congr fun w _ => by rw [Function.comp_apply, h.isStray]
  unfold Store.syncReport
  rw [hchanged, hfailed, h.due hsteady, List.length_map]

/-- A pass over workloads that are in step leaves the records alone, to the letter. -/
theorem eq_self (hin : ∀ w ∈ s.workloads.rows, s.isAstray word w = false) : s' = s := by
  have hworkloads := h.workloads.eq_self fun w hw => synced_of_not_astray (hin w hw)
  obtain ⟨nodes, specs, images, _⟩ := h
  cases s
  cases s'
  simp_all

end Synced

namespace Probed

variable (h : s.Probed now found s')

include h

theorem liveNodes : s'.liveNodes = s.liveNodes.map (probed now found) := by
  unfold Store.liveNodes
  rw [h.nodes.rows, List.filter_map]
  congr 1
  exact List.filter_congr fun n _ => (isRenewal_probed now found).isLive n

/-- **A second pass counts the same nodes**, and finds none otherwise than they were found. -/
theorem probeReport : s'.probeReport found = { s.probeReport found with changed := 0 } := by
  have hchanged : s'.liveNodes.countP (fun n => found n.id != n.connectivity) = 0 := by
    rw [h.liveNodes, List.countP_map, List.countP_eq_zero]
    intro n hn
    have hlive := (List.mem_filter.mp hn).2
    simp [probed, hlive, Node.withConnectivity]
  unfold Store.probeReport
  rw [hchanged, h.liveNodes, List.length_map]

end Probed

end Store

namespace Service

variable {fl : Fleet} {word : RecordId → Status}

/-- A status that is told holds room, so a pass never takes a workload's room away. -/
theorem steady_of_told (h : fl.TellsStatuses word) :
    ∀ w ∈ fl.store.workloads.rows, fl.store.isAstray word w = true → (word w.id).Steady := by
  intro w hw hastray
  simp only [Store.isAstray, Bool.and_eq_true, Bool.not_eq_true'] at hastray
  obtain ⟨⟨hdue, hstray⟩, _⟩ := hastray
  obtain ⟨unit, hunit⟩ := Option.isSome_iff_exists.mp (Bool.and_eq_true_iff.mp hdue).2
  obtain ⟨n, hn⟩ := Option.isSome_iff_exists.mp (Option.isNone_eq_false_iff.mp hstray)
  have hask : fl.store.inspection w = some (n, .inspect unit) := by rw [Store.inspection, hn, hunit]
  obtain ⟨es, hword⟩ := h.told.exists hask (List.mem_filter.mpr ⟨hw, hdue⟩)
  rw [hword]
  exact steady_statusOf _

/-- A workload that is due and whose node is live stores the status that is told. -/
theorem stores_told {now : Time.Instant} {s s' : Store} (h : s.Synced now word s') {w : Workload}
    {unit : String} {n : Node} (hw : s.workloads.find? w.id = some w) (hholds : w.holdsCapacity = true)
    (hunit : w.unit? = some unit) (hn : s.nodes.find? w.nodeId = some n) :
    ∃ w', s'.workloads.find? w.id = some w' ∧ w'.status = word w.id := by
  refine ⟨s.synced now word w, ?_, ?_⟩
  · rw [h.workloads.find? (Store.isRenewal_synced s now word), hw]
    rfl
  · have hdue : w.isDue = true := by rw [Workload.isDue, hholds, hunit]; rfl
    have hstray : s.isStray w = false := by rw [Store.isStray, hn]; rfl
    have hastray : s.isAstray word w = (word w.id != w.status) := by
      rw [Store.isAstray, hdue, hstray]
      rfl
    cases hsame : word w.id != w.status with
    | false =>
      rw [Store.synced_of_not_astray (hastray.trans hsame)]
      exact (bne_eq_false_iff_eq.mp hsame).symm
    | true =>
      rw [Store.synced_of_astray (hastray.trans hsame)]
      rfl

/-- **A pass brings the records in step, and a second one finds them so.** -/
theorem passes_converge (v : Service) :
    (∀ word fl, fl.TellsStatuses word → ∃ fl',
      v.resyncWorkloads.run.run fl = (.ok (fl.store.syncReport word), fl') ∧
      fl.store.Synced fl.now word fl'.store ∧
      (∀ w unit n, fl.store.workloads.find? w.id = some w → w.holdsCapacity = true →
        w.unit? = some unit → fl.store.nodes.find? w.nodeId = some n →
        ∃ w', fl'.store.workloads.find? w.id = some w' ∧ w'.status = word w.id) ∧
      ∀ later : Fleet, later.store = fl'.store → later.TellsStatuses word → ∃ last,
        v.resyncWorkloads.run.run later = (.ok { fl.store.syncReport word with changed := 0 }, last) ∧
        last.store = later.store) ∧
    ∀ found fl, fl.TellsConnectivity found → ∃ fl',
      v.recheckNodes.run.run fl = (.ok (fl.store.probeReport found), fl') ∧
      fl.store.Probed fl.now found fl'.store ∧
      (∀ n, fl.store.nodes.find? n.id = some n →
        ∃ n', fl'.store.nodes.find? n.id = some n' ∧ n'.connectivity = found n.id) ∧
      ∀ later : Fleet, later.store = fl'.store → later.TellsConnectivity found → ∃ last,
        v.recheckNodes.run.run later = (.ok { fl.store.probeReport found with changed := 0 }, last) := by
  constructor
  · intro word fl h
    obtain ⟨fl', hrun, hsynced⟩ := run_resyncWorkloads v h
    refine ⟨fl', hrun, hsynced, fun w unit n => stores_told hsynced, fun later hlater hagain => ?_⟩
    obtain ⟨last, hrerun, hresynced⟩ := run_resyncWorkloads v hagain
    rw [hlater] at hrerun hresynced ⊢
    rw [hsynced.syncReport (steady_of_told h)] at hrerun
    refine ⟨last, hrerun, hresynced.eq_self fun w' hw' => ?_⟩
    rw [hsynced.workloads.rows] at hw'
    obtain ⟨w, _, rfl⟩ := List.mem_map.mp hw'
    exact hsynced.isAstray
  · intro found fl h
    obtain ⟨fl', hrun, hprobed⟩ := run_recheckNodes v h
    refine ⟨fl', hrun, hprobed, fun n hn => ?_, fun later hlater hagain => ?_⟩
    · refine ⟨Store.probed fl.now found n, ?_, ?_⟩
      · rw [hprobed.nodes.find? (Store.isRenewal_probed _ _), hn]
        rfl
      · rw [Store.probed, if_pos (Repository.find?_eq_some_iff.mp hn).2.2]
        rfl
    · obtain ⟨last, hrerun, _⟩ := run_recheckNodes v hagain
      rw [hlater, hprobed.probeReport] at hrerun
      exact ⟨last, hrerun⟩

/-! ### A fleet out of step -/

/-- A workload that is taken for running. -/
def runningWorkload (id node : RecordId) (unit : String) : Workload :=
  { Workload.blank with id, nodeId := node, containerId := some unit, status := .running }

/-- Three workloads that are taken for running: the container of the first has ended, the node of the second
is gone, and the container of the third is not there. -/
def driftedFleet : Fleet :=
  { smallFleet with
    store := { smallStore with workloads :=
      ⟨[runningWorkload 1 1 "c1", runningWorkload 2 9 "c2", runningWorkload 3 1 "c3"], 4, by
        unfold Record.Ascending
        decide⟩ }
    engines := [("small",
      { address := "small",
        containers := [("c1", { (default : Engine.Container) with state := "exited" })] })] }

/-- What its engine says. -/
def driftedWord (id : RecordId) : Status := if id = 1 then .stopped else .unknown

theorem tellsStatuses_drifted : driftedFleet.TellsStatuses driftedWord where
  idle := rfl
  heard _ _ _ := List.not_mem_nil
  told := by
    have hdue : driftedFleet.store.due =
        [runningWorkload 1 1 "c1", runningWorkload 2 9 "c2", runningWorkload 3 1 "c3"] := by decide +kernel
    rw [hdue]
    refine Engines.tell_cons_of_some rfl ?_ (Engines.tell_cons_of_none rfl
      (Engines.tell_cons_of_some rfl ?_ trivial))
    · decide +kernel
    · decide +kernel

/-- The same fleet after a pass over its workloads. -/
def driftedSynced : Fleet := (smallService.resyncWorkloads.run.run driftedFleet).2

theorem tellsStatuses_synced (h : driftedFleet.store.Synced .epoch driftedWord driftedSynced.store) :
    driftedSynced.TellsStatuses driftedWord where
  idle := by decide +kernel
  heard := by
    have hsilent : driftedSynced.silent = [] := by decide +kernel
    intro _ _ _
    rw [hsilent]
    exact List.not_mem_nil
  told := by
    have hinspection : driftedSynced.store.inspection = driftedFleet.store.inspection := by
      unfold Store.inspection
      rw [h.nodes]
    have hdue : driftedSynced.store.due = [(runningWorkload 1 1 "c1").withStatus .epoch .stopped,
        runningWorkload 2 9 "c2", (runningWorkload 3 1 "c3").withStatus .epoch .unknown] := by
      decide +kernel
    rw [hinspection, hdue]
    refine Engines.tell_cons_of_some rfl ?_ (Engines.tell_cons_of_none rfl
      (Engines.tell_cons_of_some rfl ?_ trivial))
    · decide +kernel
    · decide +kernel

/-- What a probe of its node finds. -/
theorem tellsConnectivity_drifted : driftedFleet.TellsConnectivity fun _ => .connected where
  idle := rfl
  heard _ _ _ := List.not_mem_nil
  told := by
    have hlive : driftedFleet.store.liveNodes = [smallNode] := by decide +kernel
    rw [hlive]
    refine Engines.tell_cons_of_some rfl ?_ trivial
    decide +kernel

/-- The same fleet after a pass over its nodes. -/
def driftedProbed : Fleet := (smallService.recheckNodes.run.run driftedFleet).2

theorem tellsConnectivity_probed : driftedProbed.TellsConnectivity fun _ => .connected where
  idle := by decide +kernel
  heard := by
    have hsilent : driftedProbed.silent = [] := by decide +kernel
    intro _ _ _
    rw [hsilent]
    exact List.not_mem_nil
  told := by
    have hlive : driftedProbed.store.liveNodes = [smallNode.withConnectivity .epoch .connected] := by
      decide +kernel
    rw [hlive]
    refine Engines.tell_cons_of_some rfl ?_ trivial
    decide +kernel

/-- **Two passes of each kind over a fleet out of step**: the first finds what is to be changed, the second
nothing. -/
theorem passes_converge_drifted :
    driftedFleet.TellsStatuses driftedWord ∧ driftedSynced.TellsStatuses driftedWord ∧
    (smallService.resyncWorkloads.run.run driftedFleet).1 = .ok { checked := 3, changed := 2, failed := 1 } ∧
    (∃ last, smallService.resyncWorkloads.run.run driftedSynced =
      (.ok { checked := 3, changed := 0, failed := 1 }, last) ∧ last.store = driftedSynced.store) ∧
    (smallService.recheckNodes.run.run driftedFleet).1 = .ok { checked := 1, changed := 1 } ∧
    ∃ last, smallService.recheckNodes.run.run driftedProbed = (.ok { checked := 1, changed := 0 }, last) := by
  obtain ⟨hsync, hprobe⟩ := passes_converge smallService
  obtain ⟨fl, hrun, hsynced, _, hresync⟩ := hsync driftedWord driftedFleet tellsStatuses_drifted
  obtain ⟨fl', hrun', _, _, hreprobe⟩ := hprobe _ driftedFleet tellsConnectivity_drifted
  obtain rfl : driftedSynced = fl := congrArg Prod.snd hrun
  obtain rfl : driftedProbed = fl' := congrArg Prod.snd hrun'
  have hagain := tellsStatuses_synced hsynced
  refine ⟨tellsStatuses_drifted, hagain, congrArg Prod.fst hrun, hresync _ rfl hagain,
    congrArg Prod.fst hrun', hreprobe _ rfl tellsConnectivity_probed⟩

end Service

end FleetControl
