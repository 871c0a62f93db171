import FleetControl.Proofs.Fleet.Run
import FleetControl.Proofs.Service.Creation
import FleetControl.Service.Reconcile

/-!
# What the calls write

What a call does to records that are there already it does by three writes. The status of a workload
that has a unit is set; what a probe found of a node is recorded; a workload is marked and removed. A
relation of the records that holds across the first two (`Bears`) holds across every call that runs
or watches units and across both checks, on every course. One that holds across the third (`Drops`)
holds across removals.

What such calls do to the records is then a statement about single writes.
-/

namespace FleetControl

/-- **A status that a unit can be in**, as far as its engine says. -/
def Status.Steady (s : Status) : Prop := s ≠ .creating ∧ s ≠ .failed ∧ s ≠ .removed

instance (s : Status) : Decidable s.Steady := inferInstanceAs (Decidable (_ ∧ _ ∧ _))

namespace Service

variable {v : Service} {p : Principal} {id : RecordId} {s s' : Store} {w : Workload}
  {R : Store → Store → Prop}

/-- A workload whose removal is under way. -/
def marked (now : Time.Instant) (w : Workload) : Workload :=
  Record.touch now { w with status := .removed }

/-- **The relation holds across the writes that keep records in step.** -/
structure Bears (R : Store → Store → Prop) : Prop where
  status : ∀ {s : Store} {w : Workload} {status : Status} (now : Time.Instant),
    s.workloads.find? w.id = some w → w.unit?.isSome = true → status.Steady →
    R s { s with workloads := s.workloads.put (Record.touch now { w with status := status }) }
  connectivity : ∀ {s : Store} {n : Node} (now : Time.Instant) (c : Connectivity),
    s.nodes.find? n.id = some n →
    R s { s with nodes := s.nodes.put (Record.touch now { n with connectivity := c }) }

/-- **The relation holds across a removal**, which writes twice and may see the clock move between. -/
def Drops (R : Store → Store → Prop) : Prop := ∀ {s : Store} {w : Workload} (now later : Time.Instant),
  s.workloads.find? w.id = some w →
  R s { s with workloads := s.workloads.put (Record.markDeleted later (marked now w)) }

/-! ## Calls on one workload -/

/-- To look a workload of the caller's up changes no record. -/
theorem keeps_owned (p : Principal) (id : RecordId) : (owned p id).Keeps := by
  refine Job.preserves_bind (Job.keeps_get _ _) fun w => ?_
  split
  · exact Job.preserves_pure _
  · exact Job.preserves_fail _

/-- A workload of the caller's that was found is a live record. -/
theorem owned_ok (hy : (owned p id).Yields s (.ok w) s') : s.workloads.find? id = some w := by
  rcases Job.yields_get_bind hy with ⟨w', hfind, hrest⟩ | ⟨_, hr, _⟩
  · split at hrest
    · obtain ⟨hr, _⟩ := Job.yields_pure.mp hrest
      rw [Except.ok.inj hr]
      exact hfind
    · cases (Job.yields_fail.mp hrest).1
  · cases hr

/-- Who comes by a workload may manage it: its owner, or an administrator. -/
theorem owned_canManage (hy : (owned p id).Yields s (.ok w) s') : p.canManage w = true := by
  rcases Job.yields_get_bind hy with ⟨w', _, hrest⟩ | ⟨_, hr, _⟩
  · split at hrest
    · rename_i hcan
      obtain ⟨hr, _⟩ := Job.yields_pure.mp hrest
      rw [Except.ok.inj hr]
      exact hcan
    · cases (Job.yields_fail.mp hrest).1
  · cases hr

/-- To find a workload of the caller's with its unit and node changes no record. -/
theorem keeps_ownedUnit (p : Principal) (id : RecordId) : (ownedUnit p id).Keeps :=
  Job.preserves_bind (keeps_owned p id) fun _ => Job.preserves_bind (Job.preserves_ofExcept _) fun _ =>
    Job.preserves_bind (Job.keeps_get _ _) fun _ => Job.preserves_pure _

/-- A relation that holds across doing nothing holds where a workload of the caller's is looked up. -/
theorem leads_owned {R : Fleet → Fleet → Prop} [IsPreorder Fleet R] (p : Principal) (id : RecordId) :
    (owned p id).Leads R := by
  refine Job.leads_bind (Job.leads_get _ _) fun w => ?_
  split
  · exact Job.leads_pure _
  · exact Job.leads_fail _

theorem leads_ownedUnit {R : Fleet → Fleet → Prop} [IsPreorder Fleet R] (p : Principal) (id : RecordId) :
    (ownedUnit p id).Leads R :=
  Job.leads_bind (leads_owned p id) fun _ => Job.leads_bind (Job.leads_ofExcept _) fun _ =>
    Job.leads_bind (Job.leads_get _ _) fun _ => Job.leads_pure _

/-- A unit that was found is the workload's own. -/
theorem unitOf_eq_ok {unit : String} (h : (.ok unit : Except Halt String) = (unitOf w).mapError .failed) :
    w.unit? = some unit := by
  unfold unitOf at h
  cases hunit : w.unit? with
  | none =>
    rw [hunit] at h
    cases h
  | some unit' =>
    rw [hunit] at h
    rw [Except.ok.inj h]

/-- A workload that its owner runs is live and has a unit, which is the one that the engine is asked about. -/
theorem ownedUnit_ok {unit : String} {n : Node} (hy : (ownedUnit p id).Yields s (.ok (w, unit, n)) s') :
    s.workloads.find? id = some w ∧ w.unit? = some unit ∧ p.canManage w = true := by
  rcases Job.yields_bind_keeps (keeps_owned p id) hy with ⟨w', howned, hrest⟩ | ⟨_, _, hr, _⟩
  · rcases Job.yields_bind_keeps (Job.preserves_ofExcept _) hrest with ⟨unit', hunit, hlast⟩ | ⟨_, _, hr, _⟩
    · have hunit := (Job.yields_ofExcept.mp hunit).1
      rcases Job.yields_get_bind hlast with ⟨n', _, hpure⟩ | ⟨_, hr, _⟩
      · obtain ⟨hr, _⟩ := Job.yields_pure.mp hpure
        cases hr
        exact ⟨owned_ok howned, unitOf_eq_ok hunit, owned_canManage howned⟩
      · cases hr
    · cases hr
  · cases hr

/-- **The status of a workload that has a unit is set**, to one that a unit can be in. -/
theorem Bears.setStatus (hR : Bears R) {status : Status} {r : Except Halt Workload}
    (hfind : s.workloads.find? id = some w) (hunit : w.unit?.isSome = true) (hstatus : status.Steady)
    (hy : (setStatus id status).Yields s r s') : R s s' := by
  obtain ⟨now, rfl, rfl⟩ := (setStatus_yields hfind).mp hy
  exact hR.status now (Repository.find?_self hfind) hunit hstatus

/-- What an engine says of a unit is never that it is being made, has failed or is removed. -/
theorem steady_statusOf (answer : Except Failure String) : (statusOf answer).Steady := by
  cases answer with
  | error e => exact ⟨nofun, nofun, nofun⟩
  | ok state =>
    show (Status.ofEngineState state).Steady
    unfold Status.ofEngineState
    split <;> exact ⟨nofun, nofun, nofun⟩

/-- Do something to the unit of a workload, and set the workload's status after it: what it is to start,
to stop and to restart one. -/
def tend (t : Node → String → Job Unit) (p : Principal) (id : RecordId) (status : Status) :
    Job Workload := do
  let (_, unit, n) ← ownedUnit p id
  t n unit
  setStatus id status

/-- **Something is done to the unit of a workload that the caller may manage, and its status is set after
it**, or nothing is written. -/
theorem tend_yields {t : Node → String → Job Unit} (ht : ∀ n unit, (t n unit).Keeps)
    {status : Status} {r : Except Halt Workload} (hy : (tend t p id status).Yields s r s') :
    ((∃ e, r = .error e) ∧ s' = s) ∨ ∃ w now, s.workloads.find? w.id = some w ∧
      w.unit?.isSome = true ∧ p.canManage w = true ∧ r = .ok (Record.touch now { w with status := status }) ∧
      s' = { s with workloads := s.workloads.put (Record.touch now { w with status := status }) } := by
  rcases Job.yields_bind_keeps (keeps_ownedUnit p id) hy with
    ⟨⟨w, unit, n⟩, hunit, hrest⟩ | ⟨e, _, rfl, rfl⟩
  · obtain ⟨hfind, hsome, hcan⟩ := ownedUnit_ok hunit
    rcases Job.yields_bind_keeps (ht n unit) hrest with ⟨_, _, hset⟩ | ⟨e, _, rfl, rfl⟩
    · obtain ⟨now, hr, hs⟩ := (setStatus_yields hfind).mp hset
      exact .inr ⟨w, now, Repository.find?_self hfind, by rw [hsome]; rfl, hcan, hr, hs⟩
    · exact .inl ⟨⟨e, rfl⟩, rfl⟩
  · exact .inl ⟨⟨e, rfl⟩, rfl⟩

/-- **A status that is brought in step** is that of a unit, or nothing is written; where the engine
stays silent there is a unit. -/
theorem syncStatus_yields {r : Except Halt Status} (hy : (syncStatus id).Yields s r s') :
    (s' = s ∧ (r = .error .silent →
      ∃ w, s.workloads.find? id = some w ∧ w.unit?.isSome = true)) ∨
    ∃ w status now, s.workloads.find? w.id = some w ∧ w.unit?.isSome = true ∧ status.Steady ∧
      r = .ok status ∧
      s' = { s with workloads := s.workloads.put (Record.touch now { w with status := status }) } := by
  rcases Job.yields_get_bind hy with ⟨w, hfind, hrest⟩ | ⟨_, rfl, rfl⟩
  · cases hunit : w.unit? with
    | none =>
      rw [hunit] at hrest
      obtain ⟨rfl, rfl⟩ := Job.yields_pure.mp hrest
      exact .inl ⟨rfl, nofun⟩
    | some unit =>
      rw [hunit] at hrest
      have hsome : w.unit?.isSome = true := by rw [hunit]; rfl
      rcases Job.yields_get_bind hrest with ⟨n, _, hask⟩ | ⟨_, rfl, rfl⟩
      · rcases Job.yields_bind_keeps (Job.preserves_attempt (Job.keeps_unitState n unit)) hask with
          ⟨answer, _, hset⟩ | ⟨e, _, rfl, rfl⟩
        · have hsteady := steady_statusOf answer
          dsimp only at hset
          split at hset
          · rcases Job.yields_bind.mp hset with ⟨_, z, hput, hpure⟩ | ⟨e, hput, _⟩
            · obtain ⟨rfl, rfl⟩ := Job.yields_pure.mp hpure
              obtain ⟨now, _, hs⟩ := (setStatus_yields hfind).mp hput
              exact .inr ⟨w, _, now, Repository.find?_self hfind, hsome, hsteady, rfl, hs⟩
            · obtain ⟨_, he, _⟩ := (setStatus_yields hfind).mp hput
              cases he
          · obtain ⟨rfl, rfl⟩ := Job.yields_pure.mp hset
            exact .inl ⟨rfl, nofun⟩
        · exact .inl ⟨rfl, fun _ => ⟨w, hfind, hsome⟩⟩
      · exact .inl ⟨rfl, nofun⟩
  · exact .inl ⟨rfl, nofun⟩

section Steps

variable [IsPreorder Store R]

/-- Whatever is done to the unit of a workload, of the records only the status is written, after it. -/
theorem Bears.tend (hR : Bears R) {t : Node → String → Job Unit} (ht : ∀ n unit, (t n unit).Keeps)
    {status : Status} (hstatus : status.Steady) : (tend t p id status).Preserves R := by
  intro s r s' hy
  rcases tend_yields ht hy with ⟨_, rfl⟩ | ⟨w, now, hfind, hunit, _, _, rfl⟩
  · exact Std.Refl.refl _
  · exact hR.status now hfind hunit hstatus

/-- A start writes a status and no more. -/
theorem Bears.start (hR : Bears R) (p : Principal) (id : RecordId) : (start p id).Preserves R :=
  hR.tend (t := Job.start) (fun _ _ => Job.keeps_onNode _ _) ⟨nofun, nofun, nofun⟩

/-- A stop writes a status and no more. -/
theorem Bears.stop (hR : Bears R) (v : Service) (p : Principal) (id : RecordId) :
    (stop v p id).Preserves R :=
  hR.tend (t := Job.stop v.engine) (fun _ _ => Job.keeps_onNode _ _) ⟨nofun, nofun, nofun⟩

/-- A restart writes a status and no more. -/
theorem Bears.restart (hR : Bears R) (v : Service) (p : Principal) (id : RecordId) :
    (restart v p id).Preserves R :=
  hR.tend (t := Job.restart v.engine) (fun _ _ => Job.keeps_onNode _ _) ⟨nofun, nofun, nofun⟩

/-- A status that is brought in step is one that a unit can be in, or nothing is written. -/
theorem Bears.syncStatus (hR : Bears R) (id : RecordId) : (syncStatus id).Preserves R := by
  intro s r s' hy
  rcases syncStatus_yields hy with ⟨rfl, _⟩ | ⟨w, status, now, hfind, hunit, hsteady, _, rfl⟩
  · exact Std.Refl.refl _
  · exact hR.status now hfind hunit hsteady

end Steps

/-! ## Removals -/

/-- **To take a unit down changes no record**; that is left to what strikes the workload off. -/
theorem keeps_unmake (v : Service) (w : Workload) : (unmake v w).Keeps := by
  unfold unmake
  split
  · exact Job.preserves_pure _
  · refine Job.preserves_bind (fun _ _ _ h => (Job.yields_find?.mp h).2.symm) fun n => ?_
    split
    · exact Job.preserves_pure _
    · exact Job.preserves_bind (Job.preserves_attempt (Job.keeps_teardown _ _ _ _)) fun _ =>
        Job.preserves_pure _

/-- What a removal does with the records, once the unit is taken down. -/
def strike (id : RecordId) : Job Unit := do
  let _ ← setStatus id .removed
  let _ ← Job.delete Job.workloads [id]
  pure ()

/-- **A removal** finds a workload of the caller's, takes its unit down, and strikes it off. -/
theorem delete_eq (v : Service) (p : Principal) (id : RecordId) :
    v.delete p id = owned p id >>= fun w => unmake v w >>= fun _ => strike id := rfl

/-- **A workload that is struck off** is marked where it stands, and nothing else changes. -/
theorem strike_yields (hfind : s.workloads.find? id = some w) {r : Except Halt Unit}
    (hy : (strike id).Yields s r s') : r = .ok () ∧ ∃ now later,
      s' = { s with workloads := s.workloads.put (Record.markDeleted later (marked now w)) } := by
  obtain ⟨_, rfl, hlive⟩ := Repository.find?_eq_some_iff.mp hfind
  rcases Job.yields_bind.mp hy with ⟨_, z, hput, hrest⟩ | ⟨e, hput, _⟩
  · obtain ⟨now, _, rfl⟩ := (setStatus_yields hfind).mp hput
    rcases Job.yields_bind.mp hrest with ⟨_, z, hdelete, hpure⟩ | ⟨e, hdelete, _⟩
    · obtain ⟨rfl, rfl⟩ := Job.yields_pure.mp hpure
      obtain ⟨later, _, rfl⟩ := Job.yields_write.mp hdelete
      -- the clock may have moved between the two writes; only the second one's row is left
      have hgone : ((s.workloads.put (marked now w)).delete later [w.id]).2 =
          s.workloads.put (Record.markDeleted later (marked now w)) := Repository.delete_put later hlive
      exact ⟨rfl, now, later, congrArg (fun ws => { s with workloads := ws }) hgone⟩
    · obtain ⟨_, he, _⟩ := Job.yields_write.mp hdelete
      cases he
  · obtain ⟨_, he, _⟩ := (setStatus_yields hfind).mp hput
    cases he

/-- **A removal comes to its end or to nothing**: what was turned down, or waits for a silent engine,
has changed no record. -/
theorem delete_yields {r : Except Halt Unit} (hy : (delete v p id).Yields s r s') :
    ((∃ e, r = .error e) ∧ s' = s) ∨ r = .ok () ∧ ∃ w now later, s.workloads.find? id = some w ∧
      p.canManage w = true ∧
      s' = { s with workloads := s.workloads.put (Record.markDeleted later (marked now w)) } := by
  rw [delete_eq] at hy
  rcases Job.yields_bind_keeps (keeps_owned p id) hy with ⟨w, howned, hrest⟩ | ⟨e, _, rfl, rfl⟩
  · have hfind := owned_ok howned
    rcases Job.yields_bind_keeps (keeps_unmake v w) hrest with ⟨_, _, hstrike⟩ | ⟨e, _, rfl, rfl⟩
    · obtain ⟨hr, now, later, hs⟩ := strike_yields hfind hstrike
      exact .inr ⟨hr, w, now, later, hfind, owned_canManage howned, hs⟩
    · exact .inl ⟨⟨e, rfl⟩, rfl⟩
  · exact .inl ⟨⟨e, rfl⟩, rfl⟩

section Removals

variable [IsPreorder Store R]

/-- A relation across the two writes of a removal holds across the whole of it. -/
theorem delete_preserves (hR : Drops R) (v : Service) (p : Principal) (id : RecordId) :
    (delete v p id).Preserves R := by
  intro s r s' hy
  rcases delete_yields hy with ⟨_, rfl⟩ | ⟨_, w, now, later, hfind, _, rfl⟩
  · exact Std.Refl.refl _
  · exact hR now later (Repository.find?_self hfind)

/-- Removals one after another, each failing or not, by induction on the identifiers. -/
theorem deleteFrom_preserves (hdelete : ∀ id, (delete v p id).Preserves R) :
    ∀ (ids removed : List RecordId), (deleteFrom v p ids removed).Preserves R
  | [], _ => Job.preserves_pure _
  | id :: rest, removed => by
    refine Job.preserves_bind (Job.preserves_attempt (hdelete id)) fun r => ?_
    split
    · exact deleteFrom_preserves hdelete rest _
    · exact Job.preserves_fail _
    · exact deleteFrom_preserves hdelete rest _

end Removals

/-! ## Checks -/

/-- A probe of a node changes no record; what it found is recorded by what asked for it. -/
theorem keeps_probe (n : Node) : (probe n).Keeps :=
  Job.preserves_bind (Job.keeps_testEngine n) fun _ => Job.preserves_pure _

section Checks

variable [IsPreorder Store R]

/-- What a probe found is recorded. -/
theorem Bears.setConnectivity (hR : Bears R) (id : RecordId) (c : Connectivity) :
    Job.Preserves R (Job.update Job.nodes id { connectivity := some c : NodePatch }) := by
  intro s r s' hy
  cases hfind : s.nodes.find? id with
  | none =>
    obtain ⟨_, rfl⟩ := Job.yields_update_none hfind hy
    exact Std.Refl.refl _
  | some n =>
    obtain ⟨now, _, rfl⟩ := (Job.yields_update hfind).mp hy
    exact hR.connectivity now c (Repository.find?_self hfind)

/-- A test of a node records what the probe found. -/
theorem Bears.testNode (hR : Bears R) (id : RecordId) : (testNode id).Preserves R :=
  Job.preserves_bind (Job.keeps_get _ _).preserves fun n =>
    Job.preserves_bind (keeps_probe n).preserves fun _ =>
      Job.preserves_bind (hR.setConnectivity id _) fun _ => Job.preserves_pure _

/-- The check of one node records what the probe found, and counts it. -/
theorem Bears.recheckNode (hR : Bears R) (v : Service) (r : Report) (n : Node) :
    (recheckNode v r n).Preserves R := by
  refine Job.preserves_bind (Job.preserves_within (hR.testNode n.id)) fun answer => ?_
  split
  · exact Job.preserves_pure _
  · exact Job.preserves_pure _
  · split
    · exact Job.preserves_bind (hR.setConnectivity n.id _) fun _ => Job.preserves_pure _
    · exact Job.preserves_pure _

/-- **The status of one workload is brought in step.** One that an engine is silent about has a
unit. -/
theorem Bears.resyncWorkload (hR : Bears R) (v : Service) (r : Report) (w : Workload) :
    (resyncWorkload v r w).Preserves R := by
  intro s q s' hy
  rcases Job.yields_bind.mp hy with ⟨answer, z, hwithin, hrest⟩ | ⟨e, hwithin, _⟩
  · obtain ⟨q', hsync, hanswer⟩ := Job.yields_within.mp hwithin
    have hheld := hR.syncStatus w.id _ _ _ hsync
    obtain (f | _ | _) | status := q'
    · cases hanswer
      obtain ⟨_, rfl⟩ := Job.yields_pure.mp hrest
      exact hheld
    · cases hanswer
      rcases syncStatus_yields hsync with ⟨rfl, hsilent⟩ | ⟨_, _, _, _, _, _, hr, _⟩
      case inr => cases hr
      -- unknown is a status that holds room, so it must not be given to a workload that held none
      obtain ⟨w', hfind, hunit⟩ := hsilent rfl
      have hunknown : Status.Steady .unknown := ⟨nofun, nofun, nofun⟩
      rcases Job.yields_bind.mp hrest with ⟨_, z, hset, hpure⟩ | ⟨_, hset, _⟩
      · obtain ⟨_, rfl⟩ := Job.yields_pure.mp hpure
        exact hR.setStatus hfind hunit hunknown hset
      · exact hR.setStatus hfind hunit hunknown hset
    · cases hanswer
    · cases hanswer
      obtain ⟨_, rfl⟩ := Job.yields_pure.mp hrest
      exact hheld
  · obtain ⟨_, hsync, _⟩ := Job.yields_within.mp hwithin
    exact hR.syncStatus w.id _ _ _ hsync

/-- Visits one after another, with pauses between them, by induction on what is visited. -/
theorem eachAtPace_preserves {α : Type} {visit : Report → α → Job Report}
    (hvisit : ∀ r a, (visit r a).Preserves R) : ∀ (items : List α) (r : Report),
    (eachAtPace visit r items).Preserves R
  | [], _ => Job.preserves_pure _
  | [a], r => hvisit r a
  | a :: b :: rest, r => Job.preserves_bind (hvisit r a) fun r' =>
      Job.preserves_bind Job.keeps_pace.preserves fun _ => eachAtPace_preserves hvisit (b :: rest) r'

/-- That only one check of a kind runs at a time is kept in marks, which are no records. -/
theorem exclusively_preserves {isBusy : Fleet → Bool} {mark : Bool → Fleet → Fleet}
    {check : Job Report} (hmark : ∀ b fl, (mark b fl).store = fl.store) (hcheck : check.Preserves R) :
    (exclusively isBusy mark check).Preserves R := by
  refine Job.preserves_bind (Job.keeps_look _).preserves fun busy => ?_
  split
  · exact Job.preserves_pure _
  · exact Job.preserves_bind (Job.keeps_act (hmark true)).preserves fun _ =>
      Job.preserves_ensuring (hmark false) hcheck

/-- **The check of all nodes** writes what probes found of single nodes, and nothing else. -/
theorem Bears.recheckNodes (hR : Bears R) (v : Service) : (recheckNodes v).Preserves R := by
  refine exclusively_preserves (fun _ _ => rfl) ?_
  refine Job.preserves_bind (Job.keeps_list _ _).preserves fun ns => ?_
  exact eachAtPace_preserves (hR.recheckNode v) ns {}

/-- **The check of all workloads** writes statuses of single workloads that have units, and nothing else. -/
theorem Bears.resyncWorkloads (hR : Bears R) (v : Service) : (resyncWorkloads v).Preserves R := by
  refine exclusively_preserves (fun _ _ => rfl) ?_
  refine Job.preserves_bind (Job.keeps_list _ _).preserves fun ws => ?_
  exact eachAtPace_preserves (hR.resyncWorkload v) _ {}

end Checks

end Service

end FleetControl
