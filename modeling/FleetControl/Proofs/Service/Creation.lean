import FleetControl.Proofs.Fleet.Course
import FleetControl.Proofs.Placement.Growth
import FleetControl.Service.Workload

/-!
# How making a workload ends

`Creation o s r s'` lists what an order can come to on the records `s`: a record that it names is
missing; the node is turned down; the new record cannot be stored; or the record is made, under the
next identifier, and ends running, failed, or as it was made, where the caller is told nothing: an engine stays
silent, or a number of the plan does not fit. Every course of `Service.create` is one of these
(`create_yields`), whatever the engine answers. The record that is made
is the caller's, and has a unit exactly where it runs (`create_gains`).
-/

namespace FleetControl

/-! ## One more workload -/

/-- **The records with one workload more**, under the next identifier; the next identifier is then
another. -/
structure Store.Gains (w : Workload) (s s' : Store) : Prop where
  nodes : s'.nodes = s.nodes
  specs : s'.specs = s.specs
  images : s'.images = s.images
  id : w.id = s.workloads.nextId
  isNew : ∀ v ∈ s.workloads.rows, v.id ≠ w.id
  rows : s'.workloads.rows = Record.place w s.workloads.rows

/-- **The same records**; the next identifier of a workload may be another. -/
structure Store.SameRows (s s' : Store) : Prop where
  nodes : s'.nodes = s.nodes
  specs : s'.specs = s.specs
  images : s'.images = s.images
  rows : s'.workloads.rows = s.workloads.rows

/-- **The next identifier of a workload is taken already**, and is passed over. -/
structure Store.Skips (s s' : Store) : Prop where
  taken : ∃ w ∈ s.workloads.rows, w.id = s.workloads.nextId
  skipped : s' = { s with workloads := { s.workloads with nextId := s.workloads.nextId + 1 } }

namespace Store

variable {s s' : Store} {w : Workload}

theorem Skips.sameRows (h : Skips s s') : SameRows s s' := by
  rw [h.skipped]
  exact ⟨rfl, rfl, rfl, rfl⟩

theorem SameRows.catalog (h : SameRows s s') : SameCatalog s s' := ⟨h.specs, h.images⟩

theorem SameRows.footprints (h : SameRows s s') : s'.footprints = s.footprints := by
  rw [Store.footprints, h.rows]
  rfl

/-- Where no row is new there is no workload more, so the two ends of an order exclude each other. -/
theorem SameRows.not_gains (h : SameRows s s') : ¬ Gains w s s' := by
  intro gains
  have hmem : w ∈ s.workloads.rows := by
    rw [← h.rows, gains.rows]
    exact Record.mem_place_self _ _
  exact gains.isNew w hmem rfl

/-- The new workload is found, if it is live, for its identifier was free. -/
theorem Gains.find?_self (h : Gains w s s') (hlive : Record.isLive w = true) :
    s'.workloads.find? w.id = some w := by
  refine Repository.find?_eq_some_iff.mpr ⟨?_, rfl, hlive⟩
  rw [h.rows]
  exact Record.mem_place_self _ _

/-- **There is one workload more**, and what it is follows from the records before and after. -/
theorem Gains.unique {w' : Workload} (h : Gains w s s') (h' : Gains w' s s') : w' = w := by
  have hmem : w' ∈ Record.place w s.workloads.rows := by
    rw [← h.rows, h'.rows]
    exact Record.mem_place_self _ _
  rcases Record.mem_place hmem with heq | hold
  · exact heq
  · exact absurd (h'.id.trans h.id.symm) (h.isNew w' hold)

theorem Gains.catalog (h : Gains w s s') : SameCatalog s s' := ⟨h.specs, h.images⟩

/-- The new record's footprint is somewhere among the others: in the order of the identifiers, which need not be
the order of the orders. -/
theorem Gains.footprints_perm (h : Gains w s s') :
    s'.footprints.Perm (w.footprint?.toList ++ s.footprints) := by
  obtain ⟨before, after, hrows, hplace⟩ := Record.place_of_new h.isNew
  unfold Store.footprints
  rw [h.rows, hplace, hrows, List.filterMap_append, List.filterMap_append, List.filterMap_cons]
  cases hf : w.footprint? with
  | none => exact .refl _
  | some f => exact List.perm_middle

/-- **A sum over the residents of a node grows by the new footprint's term**, on its own node. -/
theorem Gains.sum_residents (h : Gains w s s') {f : Footprint} (hw : w.footprint? = some f)
    (g : Footprint → Nat) (n : Node) : ((s'.residents n).map g).sum =
      ((s.residents n).map g).sum + if f.nodeId = n.id then g f else 0 := by
  have hperm : s'.footprints.Perm (f :: s.footprints) := by
    have hgains := h.footprints_perm
    rw [hw] at hgains
    exact hgains
  unfold residents
  rw [((hperm.filter _).map _).sum_eq, List.filter_cons]
  by_cases hn : f.nodeId = n.id
  · rw [if_pos (beq_iff_eq.mpr hn), if_pos hn, List.map_cons, List.sum_cons, Nat.add_comm]
  · rw [beq_false_of_ne hn, if_neg Bool.false_ne_true, if_neg hn, Nat.add_zero]

/-- **A record that holds no room leaves the footprints as they are**; so an order whose unit could not be made
takes nothing of its node. -/
theorem Gains.footprints_of_none (h : Gains w s s') (hw : w.footprint? = none) :
    s'.footprints = s.footprints := by
  obtain ⟨before, after, hrows, hplace⟩ := Record.place_of_new h.isNew
  unfold Store.footprints
  rw [h.rows, hplace, hrows, List.filterMap_append, List.filterMap_append, List.filterMap_cons, hw]

/-- **Where the next identifier is above all others, the new footprint is the last.** -/
theorem Gains.footprints_of_fresh (h : Gains w s s') (hs : s.workloads.Fresh) {f : Footprint}
    (hw : w.footprint? = some f) : s'.footprints = s.footprints ++ [f] := by
  have hplace : Record.place w s.workloads.rows = s.workloads.rows ++ [w] := by
    refine Record.place_append fun v hv => ?_
    show v.id < w.id
    rw [h.id]
    exact hs v hv
  unfold Store.footprints
  rw [h.rows, hplace, List.filterMap_append]
  simp [hw]

end Store

namespace Service

variable {v : Service} {p : Principal} {o : Order} {s s' : Store} {w : Workload} {image : Image}
  {spec : Spec} {n : Node} {r : Except Halt Workload}

/-- **The records that an order names are there.** -/
structure Finds (o : Order) (s : Store) (image : Image) (spec : Spec) (n : Node) : Prop where
  image : s.images.find? o.imageId = some image
  spec : s.specs.find? o.specId = some spec
  node : s.nodes.find? o.nodeId = some n

theorem Finds.node_self (found : Finds o s image spec n) : s.nodes.find? n.id = some n := by
  have hid : n.id = o.nodeId := (Repository.find?_eq_some_iff.mp found.node).2.1
  rw [hid]
  exact found.node

theorem Finds.spec_self (found : Finds o s image spec n) : s.specs.find? spec.id = some spec := by
  have hid : spec.id = o.specId := (Repository.find?_eq_some_iff.mp found.spec).2.1
  rw [hid]
  exact found.spec

theorem Finds.image_self (found : Finds o s image spec n) : s.images.find? image.id = some image := by
  have hid : image.id = o.imageId := (Repository.find?_eq_some_iff.mp found.image).2.1
  rw [hid]
  exact found.image

/-- The records that an order names are found once. -/
theorem Finds.unique {image' : Image} {spec' : Spec} {n' : Node} (found : Finds o s image spec n)
    (found' : Finds o s image' spec' n') : image' = image ∧ spec' = spec ∧ n' = n :=
  ⟨Option.some.inj (found'.image.symm.trans found.image),
    Option.some.inj (found'.spec.symm.trans found.spec),
    Option.some.inj (found'.node.symm.trans found.node)⟩

/-- **A listed node can take a spec with an image**, on top of what is committed there. -/
def Accepts (s : Store) (image : Image) (spec : Spec) (n : Node) : Prop :=
  n.listed = true ∧ ∃ c, s.checkNode Ledger.packFirst spec image n = .ok c

theorem accepts_iff : Accepts s image spec n ↔
    n.listed = true ∧ (s.checkNode Ledger.packFirst spec image n).isOk = true := by
  unfold Accepts
  cases s.checkNode Ledger.packFirst spec image n <;> simp [Except.isOk, Except.toBool]

instance : Decidable (Accepts s image spec n) := decidable_of_iff _ accepts_iff.symm

/-- **How a new workload ends**, by what the caller is told. -/
inductive Ending : Except Halt Workload → Workload → Prop
  | runs {w : Workload} (status : w.status = .running) : Ending (.ok w) w
  | fails {w : Workload} {text : String} (status : w.status = .failed) (unit : w.unit? = none) :
      Ending (.error (.failed (.provision text))) w
  /-- An engine stays silent, or a number of the plan does not fit, and the caller is told nothing. -/
  | halts {w : Workload} {e : Halt} (untold : ∀ f, e ≠ .failed f) (status : w.status = .creating)
      (unit : w.unit? = none) : Ending (.error e) w

/-- **What became of a new workload's unit**: it runs, or there is none. -/
inductive Realized : Except Halt Workload → Workload → Prop
  | runs {w : Workload} {unit name : String} (status : w.status = .running)
      (container : w.containerId = some unit) (isNamed : unit ≠ "") (name : w.containerName = some name) :
      Realized (.ok w) w
  | fails {w : Workload} {text : String} (status : w.status = .failed) (container : w.containerId = none)
      (name : w.containerName = none) : Realized (.error (.failed (.provision text))) w
  | halts {w : Workload} {e : Halt} (untold : ∀ f, e ≠ .failed f) (status : w.status = .creating)
      (container : w.containerId = none) (name : w.containerName = none) : Realized (.error e) w

theorem Workload.unit?_of_none (h : w.containerId = none) : w.unit? = none := by
  rw [Workload.unit?, h, Option.filter_none]

/-- What became of a new workload's unit is one way for the workload to end. -/
theorem Realized.ending (h : Realized r w) : Ending r w := by
  cases h with
  | runs status _ _ _ => exact .runs status
  | fails status container _ => exact .fails status (Workload.unit?_of_none container)
  | halts untold status container _ => exact .halts untold status (Workload.unit?_of_none container)

/-- A workload that runs, or whose making came to nothing, holds room; one that failed does not. -/
theorem Ending.footprint? (h : Ending r w) (isLive : w.stamps.deleted = none) :
    w.footprint? = if w.status = .failed then none else some w.footprint := by
  unfold Workload.footprint? Workload.holdsCapacity
  cases h with
  | runs status => simp [status, isLive]
  | fails status _ => simp [status]
  | halts _ status _ => simp [status, isLive]

/-- **A new workload holds room exactly where the caller is not told of a failure.** -/
theorem Ending.footprint?_cases (h : Ending r w) (isLive : w.stamps.deleted = none) :
    (w.footprint? = none ∧ ∃ e, r = .error (.failed e)) ∨
      (w.footprint? = some w.footprint ∧ ∀ e, r ≠ .error (.failed e)) := by
  have hprint := h.footprint? isLive
  cases h with
  | runs status =>
    rw [status, if_neg nofun] at hprint
    exact .inr ⟨hprint, nofun⟩
  | fails status _ =>
    rw [status, if_pos rfl] at hprint
    exact .inl ⟨hprint, _, rfl⟩
  | halts untold status _ =>
    rw [status, if_neg nofun] at hprint
    exact .inr ⟨hprint, fun f hf => untold f (Except.error.inj hf)⟩

/-- A new workload that has a unit runs, and holds room; there is no unit without room. -/
theorem Ending.holdsCapacity (h : Ending r w) (isLive : w.stamps.deleted = none)
    (hunit : w.unit?.isSome = true) : w.holdsCapacity = true := by
  cases h with
  | runs status => simp [Workload.holdsCapacity, isLive, status]
  | fails _ unit | halts _ _ unit =>
    rw [unit] at hunit
    cases hunit

/-- **What an order can come to.** -/
inductive Creation (o : Order) (s : Store) : Except Halt Workload → Store → Prop
  | missing {text : String} (absent : ∀ image spec n, ¬ Finds o s image spec n) :
      Creation o s (.error (.failed (.notFound text))) s
  | rejected {image : Image} {spec : Spec} {n : Node} {text : String} (found : Finds o s image spec n)
      (rejects : ¬ Accepts s image spec n) :
      Creation o s (.error (.failed (.invalidRequest text))) s
  | unstored {image : Image} {spec : Spec} {n : Node} {text : String} {s' : Store}
      (found : Finds o s image spec n) (accepts : Accepts s image spec n) (same : s.SameRows s') :
      Creation o s (.error (.failed (.storage text))) s'
  | made {image : Image} {spec : Spec} {n : Node} {w : Workload} {r : Except Halt Workload} {s' : Store}
      (found : Finds o s image spec n) (accepts : Accepts s image spec n) (gains : s.Gains w s')
      (footprint : w.footprint = ⟨n.id, spec.id, image.id⟩) (isLive : w.stamps.deleted = none)
      (ending : Ending r w) :
      Creation o s r s'

/-! ## The courses of an order -/

/-- The check of a node only looks at the records. -/
theorem checkNode_yields {r : Except Halt Candidate} : (checkNode n spec image).Yields s r s' ↔
    r = (s.checkNode Ledger.packFirst spec image n).mapError .failed ∧ s' = s := by
  simp only [checkNode, Job.yields_bind, Job.yields_look, Job.yields_ofExcept]
  constructor
  · rintro (⟨_, _, ⟨_, rfl, hb, rfl⟩, rfl, rfl⟩ | ⟨_, ⟨_, _, he, _⟩, _⟩)
    · cases hb
      exact ⟨rfl, rfl⟩
    · cases he
  · rintro ⟨rfl, rfl⟩
    exact .inl ⟨_, _, ⟨{ (default : Fleet) with store := s' }, rfl, rfl, rfl⟩, rfl, rfl⟩

/-- The status of a live workload is set, and nothing else; the time of the change is some time that the clock
shows. -/
theorem setStatus_yields {id : RecordId} {status : Status} (h : s.workloads.find? id = some w) :
    (setStatus id status).Yields s r s' ↔ ∃ now,
      r = .ok (Record.touch now { w with status := status }) ∧
      s' = { s with workloads := s.workloads.put (Record.touch now { w with status := status }) } :=
  Job.yields_update h

/-- A failure to provision is told as one, whatever failed: an engine that cannot be opened, too. -/
theorem provisionFailure_eq (e : Failure) : ∃ text, provisionFailure e = .provision text := by
  cases e <;> exact ⟨_, rfl⟩

/-- **A stored workload is provisioned**: its record is advanced by what the engine did. -/
theorem realize_yields (hw : s.workloads.find? w.id = some w) (hstatus : w.status = .creating)
    (hcontainer : w.containerId = none) (hname : w.containerName = none)
    (hy : (v.realize w n spec image).Yields s r s') :
    ∃ w', s'.workloads.rows = Record.place w' s.workloads.rows ∧ w'.id = w.id ∧
      w'.footprint = w.footprint ∧ w'.stamps.deleted = w.stamps.deleted ∧ w'.ownerId = w.ownerId ∧
      Realized r w' ∧ s'.nodes = s.nodes ∧ s'.specs = s.specs ∧ s'.images = s.images := by
  unfold realize at hy
  rcases Job.yields_bind.mp hy with ⟨name, z, hlook, hy⟩ | ⟨e, hlook, _⟩
  · obtain ⟨_, rfl, _, rfl⟩ := Job.yields_look.mp hlook
    rcases Job.yields_bind_keeps (Job.preserves_attempt (Job.keeps_provision v.engine n spec image name)) hy with
      ⟨made, hmade, hy⟩ | ⟨e, hmade, rfl, rfl⟩
    · obtain ⟨(f | _ | _) | unit, hprovision, hheard⟩ := Job.yields_attempt.mp hmade
      · cases hheard
        rcases Job.yields_bind.mp hy with ⟨w', z, hset, hy⟩ | ⟨e', hset, rfl⟩
        · obtain ⟨now, hw', rfl⟩ := (setStatus_yields hw).mp hset
          obtain ⟨rfl, rfl⟩ := Job.yields_fail.mp hy
          obtain ⟨text, htext⟩ := provisionFailure_eq f
          rw [htext]
          exact ⟨_, rfl, rfl, rfl, rfl, rfl, .fails rfl hcontainer hname, rfl, rfl, rfl⟩
        · obtain ⟨now, hw', rfl⟩ := (setStatus_yields hw).mp hset
          cases hw'
      · cases hheard
      · cases hheard
      · cases hheard
        obtain ⟨now, rfl, rfl⟩ := (Job.yields_update hw).mp hy
        exact ⟨_, rfl, rfl, rfl, rfl, rfl, .runs rfl rfl (Job.provision_ok hprovision) rfl, rfl, rfl, rfl⟩
    -- what was not heard of leaves the record as it was stored
    · have hmem := (Repository.find?_eq_some_iff.mp hw).1
      have untold : ∀ f, e ≠ .failed f := Job.untold_of_attempt hmade
      exact ⟨w, (Record.place_of_mem (Repository.ordered _) hmem).symm, rfl, rfl, rfl, rfl,
        .halts untold hstatus hcontainer hname, rfl, rfl, rfl⟩
  · obtain ⟨_, _, he, _⟩ := Job.yields_look.mp hlook
    cases he

/-- **A workload that is accepted** is stored under the next identifier and provisioned, unless that
identifier is taken. -/
theorem store_yields (hy : Job.Yields (do
      let w ← Job.create Job.workloads (ordered p o image spec n)
      v.realize w n spec image) s r s') :
    (∃ text, r = .error (.failed (.storage text)) ∧ s.Skips s') ∨
      ∃ w, s.Gains w s' ∧ w.footprint = ⟨n.id, spec.id, image.id⟩ ∧ w.stamps.deleted = none ∧
        w.ownerId = p.userId ∧ Realized r w := by
  rcases Job.yields_bind.mp hy with ⟨w, z, hcreate, hy⟩ | ⟨e, hcreate, rfl⟩
  · obtain ⟨now, hw, rfl⟩ := Job.yields_write.mp hcreate
    change Except.ok w = (s.workloads.create now _).1.mapError Halt.failed at hw
    rcases Repository.create_cases now s.workloads (a := ordered p o image spec n) rfl with
      ⟨text, he, _⟩ | ⟨hnew, hok, hrows⟩
    · rw [he] at hw
      cases hw
    · rw [hok] at hw
      obtain rfl := Except.ok.inj hw
      -- the record that is advanced below is the one that was stored, and takes its place
      have hfind : (s.workloads.create now (ordered p o image spec n)).2.find? s.workloads.nextId =
          some (Record.stampCreated now (Record.withId s.workloads.nextId (ordered p o image spec n))) := by
        refine Repository.find?_eq_some_iff.mpr ⟨?_, rfl, rfl⟩
        rw [hrows]
        exact Record.mem_place_self _ _
      obtain ⟨w', hrows', hid, hfoot, hdel, howner, hend, hnodes, hspecs, himages⟩ :=
        realize_yields (v := v) hfind rfl rfl rfl hy
      refine .inr ⟨w', ⟨hnodes, hspecs, himages, hid, ?_, ?_⟩, hfoot, hdel, howner, hend⟩
      · rw [hid]
        exact hnew
      · refine hrows'.trans ?_
        show Record.place w' (s.workloads.create now _).2.rows = _
        rw [hrows]
        exact Record.place_place hid _
  · obtain ⟨now, hw, rfl⟩ := Job.yields_write.mp hcreate
    change Except.error e = (s.workloads.create now _).1.mapError Halt.failed at hw
    rcases Repository.create_cases now s.workloads (a := ordered p o image spec n) rfl with
      ⟨text, he, _⟩ | ⟨_, hok, _⟩
    · rw [he] at hw
      obtain rfl := Except.error.inj hw
      obtain ⟨taken, hnext⟩ := Repository.create_error rfl he
      exact .inl ⟨text, rfl, taken, congrArg (fun ws => { s with workloads := ws }) hnext⟩
    · rw [hok] at hw
      cases hw

/-- **An order is turned down, and the records stay, or its workload is accepted.** -/
theorem create_cases (hy : (v.create p o).Yields s r s') : (s' = s ∧ Creation o s r s') ∨
    ∃ image spec n, Finds o s image spec n ∧ Accepts s image spec n ∧ Job.Yields (do
      let w ← Job.create Job.workloads (ordered p o image spec n)
      v.realize w n spec image) s r s' := by
  unfold create at hy
  rcases Job.yields_get_bind hy with ⟨image, himage, hy⟩ | ⟨hnone, rfl, rfl⟩
  · rcases Job.yields_get_bind hy with ⟨spec, hspec, hy⟩ | ⟨hnone, rfl, rfl⟩
    · rcases Job.yields_get_bind hy with ⟨n, hn, hy⟩ | ⟨hnone, rfl, rfl⟩
      · have found : Finds o s image spec n := ⟨himage, hspec, hn⟩
        split at hy
        · rename_i hlisted
          rcases Job.yields_bind.mp hy with ⟨c, z, hcheck, hrest⟩ | ⟨e, hcheck, rfl⟩
          · obtain ⟨hc, rfl⟩ := checkNode_yields.mp hcheck
            cases hnode : z.checkNode Ledger.packFirst spec image n with
            | ok c' => exact .inr ⟨image, spec, n, found, ⟨hlisted, c', hnode⟩, hrest⟩
            | error e =>
              rw [hnode] at hc
              cases hc
          · obtain ⟨he, rfl⟩ := checkNode_yields.mp hcheck
            cases hnode : s'.checkNode Ledger.packFirst spec image n with
            | ok c =>
              rw [hnode] at he
              cases he
            | error e' =>
              obtain ⟨text, rfl⟩ := Store.checkNode_error hnode
              rw [hnode] at he
              obtain rfl := Except.error.inj he
              refine .inl ⟨rfl, .rejected found fun accepts => ?_⟩
              obtain ⟨c, hc⟩ := accepts.2
              exact nomatch hc.symm.trans hnode
        · rename_i hlisted
          obtain ⟨rfl, rfl⟩ := Job.yields_fail.mp hy
          exact .inl ⟨rfl, .rejected found fun accepts => hlisted accepts.1⟩
      · exact .inl ⟨rfl, .missing fun _ _ _ found => nomatch found.node.symm.trans hnone⟩
    · exact .inl ⟨rfl, .missing fun _ _ _ found => nomatch found.spec.symm.trans hnone⟩
  · exact .inl ⟨rfl, .missing fun _ _ _ found => nomatch found.image.symm.trans hnone⟩

/-- **Every course of an order ends in one of the listed ways**, whatever engines answer, clocks show and caches
hold meanwhile. -/
theorem create_yields (hy : (v.create p o).Yields s r s') : Creation o s r s' := by
  rcases create_cases hy with ⟨_, creation⟩ | ⟨image, spec, n, found, accepts, hstore⟩
  · exact creation
  · rcases store_yields hstore with ⟨text, rfl, skips⟩ | ⟨w, gains, footprint, isLive, _, realized⟩
    · exact .unstored found accepts skips.sameRows
    · exact .made found accepts gains footprint isLive realized.ending

/-- **The workload that an order makes is the caller's**, and has a unit exactly where it runs. That it is made
does not mean that the caller is told of success. -/
theorem create_gains (hy : (v.create p o).Yields s r s') (gains : s.Gains w s') :
    w.ownerId = p.userId ∧ Realized r w := by
  rcases create_cases hy with ⟨rfl, _⟩ | ⟨image, spec, n, _, _, hstore⟩
  · exact absurd gains (Store.SameRows.not_gains ⟨rfl, rfl, rfl, rfl⟩)
  · rcases store_yields hstore with ⟨_, _, skips⟩ | ⟨w', gains', _, _, howner, realized⟩
    · exact absurd gains skips.sameRows.not_gains
    · obtain rfl := gains'.unique gains
      exact ⟨howner, realized⟩

end Service

end FleetControl
