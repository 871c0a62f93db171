import FleetControl.Proofs.Fleet.Interleave
import FleetControl.Proofs.Service.RoundTrip

/-!
# An order and a removal at a time

A workload is stored before its unit is made, so that a removal may find it in between. The removal then
takes nothing down, and the unit that the order makes meanwhile is nobody's: the record that is to name it
is gone. An order is overtaken (`Overtakes`) if the removal's first look at the record comes between the
record and its unit.

Whatever else the schedule is, containers end as units of live workloads (`held_iff_not_overtaken`): a
removal that looks before the record is there fails, and one that looks after the unit is recorded takes it
down. Where the order is overtaken exactly the container that it made is left over.
-/

namespace FleetControl

namespace Estate

variable {E E' : Estate} {left : List (String × String)}

/-- **Every container is the unit of a live workload** of a node at its address. -/
def Attended (E : Estate) : Prop := ∀ a unit x, (E.stock a).unit? unit = some x →
  ∃ id name, E.berth? id = some ⟨some a, unit, name⟩

/-- A container that is there after a move was there before, or has the identifier that was next. -/
theorem Alters.unit?_cases (hnew : ∀ a, (E.stock a).unit? (E.stock a).nextId = none)
    (move : E.Alters left E') {a unit : String} {x : String × List String}
    (h : (E'.stock a).unit? unit = some x) :
    (E.stock a).unit? unit = some x ∨ unit = (E.stock a).nextId := by
  cases move with
  | still => exact .inl h
  | recorded => exact .inl h
  | housed =>
    rcases (unit?_housed (hnew _)).mp h with ⟨rfl, hunit, _⟩ | h
    · exact .inr hunit
    · exact .inl h
  | stranded =>
    rw [unit?_stranded] at h
    exact .inl h
  | cleared => exact .inl (unit?_cleared.mp h).2

/-- Where a workload goes with its unit every other container stays held, for a container is the unit of no more
than one berth. -/
theorem Attended.cleared (hE : E.Attended) {id : RecordId} {address unit : String} {name : Option String}
    (berth : E.berth? id = some ⟨some address, unit, name⟩) : (E.cleared id address unit name).Attended := by
  intro a u x hx
  obtain ⟨hother, hx⟩ := unit?_cleared.mp hx
  obtain ⟨k, name, hk⟩ := hE a u x hx
  refine ⟨k, name, (Function.update_of_ne ?_ _ _).trans hk⟩
  rintro rfl
  cases berth.symm.trans hk
  exact hother ⟨rfl, rfl⟩

/-- **A move leaves every container a unit of a live workload**: what a move brings is a unit with its workload,
and what it takes is the same. -/
theorem Attended.alters (hE : E.Attended) (hknown : ∀ id, id ∉ E.known → E.berth? id = none)
    (hnew : ∀ a, (E.stock a).unit? (E.stock a).nextId = none) (move : E.Alters left E') : E'.Attended := by
  intro a unit x hx
  cases move with
  | still => exact hE a unit x hx
  | recorded => exact hE a unit x hx
  | stranded =>
    rw [unit?_stranded] at hx
    exact hE a unit x hx
  | @housed id _ _ _ _ isNew =>
    rcases (unit?_housed (hnew _)).mp hx with ⟨rfl, rfl, _⟩ | hx
    · exact ⟨id, _, Function.update_self _ _ _⟩
    · obtain ⟨k, name, hk⟩ := hE a unit x hx
      refine ⟨k, name, (Function.update_of_ne ?_ _ _).trans hk⟩
      rintro rfl
      cases (hknown k isNew).symm.trans hk
  | cleared berth => exact hE.cleared berth a unit x hx

/-- The unit of a workload that had none was made, at an address; a unit cannot be at a node without one. -/
theorem Alters.address_of_berth? {id : RecordId} {b : Berth} (move : E.Alters left E')
    (hbefore : E.berth? id = none) (h : E'.berth? id = some b) : ∃ a, b.address = some a ∧ a ≠ "" := by
  cases move with
  | still => cases hbefore.symm.trans h
  | recorded => cases hbefore.symm.trans h
  | stranded => cases hbefore.symm.trans h
  | @housed k address _ _ _ _ isSome =>
    have h : Function.update E.berth? k _ id = some b := h
    rw [Function.update_apply] at h
    split at h
    · cases h
      exact ⟨address, rfl, isSome⟩
    · cases hbefore.symm.trans h
  | @cleared k _ _ _ _ =>
    have h : Function.update E.berth? k none id = some b := h
    rw [Function.update_apply] at h
    split at h
    · cases h
    · cases hbefore.symm.trans h

end Estate

namespace Service

open Fleet (Keeping)
open Routine (headStart interleave)

variable {v : Service} {p q : Principal} {o : Order} {fl₀ fl fl' : Fleet} {id : RecordId}
  {w : Workload} {n : Node} {spec : Spec} {image : Image}

/-! ## Changes to one workload -/

/-- **No workload but one is other than it was**, and no node. -/
structure Spares (id : RecordId) (fl fl' : Fleet) : Prop where
  nodes : fl'.store.nodes = fl.store.nodes
  others : ∀ j, j ≠ id → fl'.store.workloads.find? j = fl.store.workloads.find? j

instance (id : RecordId) : IsPreorder Fleet (Spares id) where
  refl _ := ⟨rfl, fun _ _ => rfl⟩
  trans _ _ _ h h' := ⟨h'.nodes.trans h.nodes, fun j hj => (h'.others j hj).trans (h.others j hj)⟩

/-- **Only what is said of one workload changes**, which stays live or stays gone. -/
structure Minds (id : RecordId) (fl fl' : Fleet) : Prop extends Spares id fl fl' where
  lives : (fl'.store.workloads.find? id).isSome = (fl.store.workloads.find? id).isSome

instance (id : RecordId) : IsPreorder Fleet (Minds id) where
  refl _ := ⟨Std.Refl.refl _, rfl⟩
  trans _ _ _ h h' := ⟨IsTrans.trans _ _ _ h.toSpares h'.toSpares, h'.lives.trans h.lives⟩

/-- A workload is put, and no other is other than it was, nor is any node. -/
theorem spares_put (fl : Fleet) (w : Workload) {rows : Repository Workload}
    (hrows : rows.rows = Record.place w fl.store.workloads.rows) :
    Spares w.id fl { fl with store := { fl.store with workloads := rows } } := by
  refine ⟨rfl, fun j hj => ?_⟩
  have hfind : rows.find? j = (fl.store.workloads.put w).find? j := by
    unfold Repository.find? Repository.row?
    rw [hrows]
    rfl
  exact hfind.trans ((Repository.find?_put _ _ _).trans (if_neg hj))

/-- A live workload takes the place of the one under its identifier, so it stays live and the others stay as they
are. -/
theorem minds_put (w' : Workload) (hfind : fl.store.workloads.find? w'.id = some w)
    (hlive : Record.isLive w' = true) : Minds w'.id fl
      { fl with store := { fl.store with workloads := fl.store.workloads.put w' } } := by
  refine ⟨spares_put fl w' (Repository.rows_put _ _), ?_⟩
  have hput : (fl.store.workloads.put w').find? w'.id = some w' := Repository.find?_put_self hlive
  rw [hfind]
  exact (congrArg Option.isSome hput).trans rfl

theorem minds_update (id : RecordId) (patch : WorkloadPatch) :
    (Job.update Job.workloads id patch).Within (Minds id) := by
  refine Job.within_tryAct fun fl => ?_
  show Minds id fl { fl with store :=
    { fl.store with workloads := (fl.store.workloads.update fl.now id patch).2 } }
  cases hfind : fl.store.workloads.find? id with
  | none =>
    rw [Repository.update_of_none hfind]
    exact Std.Refl.refl fl
  | some w =>
    obtain ⟨_, rfl, hlive⟩ := Repository.find?_eq_some_iff.mp hfind
    rw [Repository.update_of_find? hfind]
    exact minds_put (Record.touch fl.now (Record.patch patch w)) hfind hlive

/-! ## How far an order is -/

/-- Making a unit, up to what is recorded of it: the unit's name, and the unit or a failure. -/
def attemptUnit (v : Service) (w : Workload) (n : Node) (spec : Spec) (image : Image) :
    Job (String × Except Failure String) := do
  let name ← Job.look fun fl => Engine.unitName w.name w.id fl.now.unix
  let r ← Job.attempt (Job.provision v.engine n spec image name)
  pure (name, r)

/-- Recording what came of making a unit. -/
def recordUnit (w : Workload) : String × Except Failure String → Job Workload
  | (name, .ok unit) => Job.update Job.workloads w.id
      { status := some .running, containerId := some unit, containerName := some name }
  | (_, .error e) => do
    let _ ← setStatus w.id .failed
    Job.fail (provisionFailure e)

/-- **A new workload's unit is made, and then recorded**: the first part looks at no record, and the second asks
no engine. Between the two lies the one moment at which a removal can overtake the order. -/
theorem realize_eq (v : Service) (w : Workload) (n : Node) (spec : Spec) (image : Image) :
    realize v w n spec image = attemptUnit v w n spec image >>= recordUnit w := by
  unfold realize attemptUnit
  simp only [bind_assoc, pure_bind]
  refine bind_congr fun name => bind_congr fun r => ?_
  cases r <;> rfl

/-- To make a unit takes no heed of the records. -/
theorem blind_attemptUnit (v : Service) (w : Workload) (n : Node) (spec : Spec) (image : Image) :
    (attemptUnit v w n spec image).Blind :=
  Job.blind_bind (Job.blind_act fun _ _ => rfl) fun _ =>
    Job.blind_bind (Job.blind_attempt (Job.blind_provision _ _ _ _ _)) fun _ => Job.blind_pure _

theorem clerical_goOn_recordUnit (w : Workload) (r : Except Halt (String × Except Failure String)) :
    (Job.goOn (recordUnit w) r).Clerical := by
  obtain e | ⟨name, e | unit⟩ := r
  · exact .done _
  · exact Job.within_bind (Job.filed_update Job.workloads _ _) fun _ => Job.within_fail _
  · exact Job.filed_update Job.workloads _ _

theorem minds_goOn_recordUnit (w : Workload) (r : Except Halt (String × Except Failure String)) :
    (Job.goOn (recordUnit w) r).Within (Minds w.id) := by
  obtain e | ⟨name, e | unit⟩ := r
  · exact .done _
  · exact Job.within_bind (minds_update _ _) fun _ => Job.within_fail _
  · exact minds_update _ _

/-- **The workload of an order is there**, and no other is other than it was. -/
structure Placed (p : Principal) (fl₀ : Fleet) (w : Workload) (fl : Fleet) : Prop where
  found : fl.store.workloads.find? fl₀.store.workloads.nextId = some w
  owner : w.ownerId = p.userId
  spares : Spares fl₀.store.workloads.nextId fl₀ fl

/-- An order has come to its end, or stores its workload next. -/
inductive Settling (v : Service) (p : Principal) (o : Order) : Routine Fleet (Except Halt Workload) → Prop
  | ended (r : Except Halt Workload) : Settling v p o (.done r)
  | store (image : Image) (spec : Spec) (n : Node) : Settling v p o (do
      let w ← Job.create Job.workloads (ordered p o image spec n)
      v.realize w n spec image : Job Workload).run

/-- **How far an order is** that began on a fleet and was by itself since: it looks at records; its
workload is there and its unit is being made; or it is over. -/
inductive Stage (v : Service) (p : Principal) (o : Order) (fl₀ : Fleet) :
    Routine Fleet (Except Halt Workload) → Fleet → Prop
  | looking {c : Routine Fleet (Except Halt Workload)} (peeks : c.Peeks fl₀ (Settling v p o)) :
      Stage v p o fl₀ c fl₀
  | making {b : Routine Fleet (Except Halt (String × Except Failure String))} {w : Workload} {fl : Fleet}
      (blind : b.Blind) (placed : Placed p fl₀ w fl) (hasNone : w.unit? = none) :
      Stage v p o fl₀ (b >>= Job.goOn (recordUnit w)) fl
  | ended (r : Except Halt Workload) {w : Workload} {fl : Fleet} (placed : Placed p fl₀ w fl) :
      Stage v p o fl₀ (.done r) fl

/-- At first an order only looks: nothing is stored until all the records that it names were found. -/
theorem stage_create (v : Service) (p : Principal) (o : Order) (fl : Fleet) :
    Stage v p o fl (create v p o).run fl := by
  have ended : ∀ e, Settling v p o (.done (.error e)) := fun e => .ended _
  refine .looking (Job.peeks_bind ended fun image => Job.peeks_bind ended fun spec =>
    Job.peeks_bind ended fun n => ?_)
  split
  · refine Job.peeks_bind (f := fun fl => fl.store.checkNode Ledger.packFirst spec image n) ended fun _ => ?_
    exact .here (.store image spec n)
  · exact .here (.ended _)

theorem Placed.of_store (placed : Placed p fl₀ w fl) (h : fl'.store = fl.store) : Placed p fl₀ w fl' :=
  ⟨h ▸ placed.found, placed.owner, h ▸ placed.spares.nodes, h ▸ placed.spares.others⟩

/-- A placed workload whose record is changed is placed. -/
theorem Placed.put (placed : Placed p fl₀ w fl) (patch : WorkloadPatch) (now : Time.Instant)
    (howner : (Record.patch patch w : Workload).ownerId = w.ownerId) :
    Placed p fl₀ (Record.touch now (Record.patch patch w)) { fl with store := { fl.store with
      workloads := fl.store.workloads.put (Record.touch now (Record.patch patch w)) } } := by
  obtain ⟨_, hid, hlive⟩ := Repository.find?_eq_some_iff.mp placed.found
  have hspares := spares_put fl (Record.touch now (Record.patch patch w)) (Repository.rows_put _ _)
  refine ⟨?_, howner.trans placed.owner, IsTrans.trans _ _ _ placed.spares (hid ▸ hspares)⟩
  rw [← hid]
  exact Repository.find?_put_self (a := Record.touch now (Record.patch patch w)) hlive

/-- What came of making a unit is recorded in one step, or there is nothing to record. -/
theorem stage_goOn_recordUnit (placed : Placed p fl₀ w fl)
    (r : Except Halt (String × Except Failure String)) :
    Stage v p o fl₀ ((Job.goOn (recordUnit w) r).advance fl).1
      ((Job.goOn (recordUnit w) r).advance fl).2 := by
  have hfind : (Job.workloads.get fl.store).find? w.id = some w := Repository.find?_self placed.found
  obtain e | ⟨name, e | unit⟩ := r
  · exact .ended _ placed
  · rw [show (Job.goOn (recordUnit w) (.ok (name, .error e))).advance fl = _ from
      Job.advance_update_bind hfind]
    exact .ended _ (placed.put _ _ rfl)
  · rw [show (Job.goOn (recordUnit w) (.ok (name, .ok unit))).advance fl = _ from Job.advance_update hfind]
    exact .ended _ (placed.put _ _ rfl)

/-- **A step takes an order from stage to stage**, one case for each stage; the workload is there from the step
that stores it to the end. -/
theorem Stage.advance (isNew : ∀ w ∈ fl₀.store.workloads.rows, w.id ≠ fl₀.store.workloads.nextId)
    {c : Routine Fleet (Except Halt Workload)} (h : Stage v p o fl₀ c fl) :
    Stage v p o fl₀ (c.advance fl).1 (c.advance fl).2 := by
  cases h with
  | ended r placed => exact .ended r placed
  | looking peeks =>
    cases peeks with
    | look same later =>
      show Stage v p o fl₀ _ _
      rw [Routine.advance, same]
      exact .looking later
    | here settling =>
      cases settling with
      | ended r => exact .looking (.here (.ended r))
      | store image spec n =>
        rcases Repository.create_cases fl₀.now fl₀.store.workloads (a := ordered p o image spec n) rfl with
          ⟨text, he, _⟩ | ⟨_, hok, hrows⟩
        -- the identifier is not taken, so the workload is stored
        · obtain ⟨⟨w, hw, hid⟩, _⟩ := Repository.create_error rfl he
          exact absurd hid (isNew w hw)
        · rw [Job.create, Job.advance_write_bind hok, realize_eq, Job.run_bind_goOn]
          refine .making (blind_attemptUnit _ _ _ _ _) ⟨?_, rfl, spares_put fl₀ _ hrows⟩ rfl
          refine Repository.find?_eq_some_iff.mpr ⟨?_, rfl, rfl⟩
          exact hrows ▸ Record.mem_place_self _ _
  | @making b w _ blind placed hasNone =>
    cases blind with
    | step now later => exact .making (later _) (placed.of_store (Routine.store_of_heedless now fl)) hasNone
    | done r => exact stage_goOn_recordUnit placed r

/-- **What an order is** where its workload is found: before the unit is recorded it takes no heed of the
records and minds that workload only, and once the unit is recorded it is over. -/
theorem Stage.of_find? (isNew : ∀ w ∈ fl₀.store.workloads.rows, w.id ≠ fl₀.store.workloads.nextId)
    {c : Routine Fleet (Except Halt Workload)} (h : Stage v p o fl₀ c fl)
    (hfind : fl.store.workloads.find? fl₀.store.workloads.nextId = some w) : Placed p fl₀ w fl ∧
      (w.unit? = none → c.Indifferent ∧ c.Within (Minds fl₀.store.workloads.nextId)) ∧
      (w.unit? ≠ none → ∃ r, c = .done r) := by
  cases h with
  | looking _ =>
    obtain ⟨hmem, hid, _⟩ := Repository.find?_eq_some_iff.mp hfind
    exact absurd hid (isNew w hmem)
  | ended r placed =>
    obtain rfl := Option.some.inj (placed.found.symm.trans hfind)
    exact ⟨placed, fun _ => ⟨.clerical (.done r), .done r⟩, fun _ => ⟨r, rfl⟩⟩
  | @making _ w' _ blind placed hasNone =>
    obtain rfl : w' = w := Option.some.inj (placed.found.symm.trans hfind)
    have hid : w'.id = fl₀.store.workloads.nextId := (Repository.find?_eq_some_iff.mp hfind).2.1
    refine ⟨placed, fun _ => ⟨blind.indifferent (clerical_goOn_recordUnit w'), ?_⟩,
      fun hunit => absurd hasNone hunit⟩
    rw [← hid]
    refine (blind.within.mono fun fl fl' h => ?_).bind (minds_goOn_recordUnit w')
    exact ⟨⟨congrArg Store.nodes h, fun j _ => by rw [h]⟩, by rw [h]⟩

/-! ## The removal of a workload without a unit -/

/-- **How far the removal of a workload without a unit is**: the workload is to be marked, it is to be
removed, or it is gone. -/
inductive Removing (id : RecordId) : Routine Fleet (Except Halt Unit) → Fleet → Prop
  | marks {fl : Fleet} (lives : (fl.store.workloads.find? id).isSome = true) :
      Removing id (strike id).run fl
  | removes {fl : Fleet} (lives : (fl.store.workloads.find? id).isSome = true) : Removing id (do
      let _ ← Job.delete Job.workloads [id]
      pure () : Job Unit).run fl
  | gone {fl : Fleet} (isGone : (fl.store.workloads.find? id).isSome = false) :
      Removing id (.done (.ok ())) fl

/-- What minds the workload does not bring the removal off its way: the workload stays live, and a removal goes by
its identifier alone. -/
theorem Removing.minds {c : Routine Fleet (Except Halt Unit)} (h : Removing id c fl)
    (hminds : Minds id fl fl') : Removing id c fl' := by
  cases h with
  | marks lives => exact .marks (hminds.lives.trans lives)
  | removes lives => exact .removes (hminds.lives.trans lives)
  | gone isGone => exact .gone (hminds.lives.trans isGone)

/-- **A step takes a removal on**, and no other workload changes: it marks the workload, then removes it, and then
it is gone. -/
theorem Removing.advance {c : Routine Fleet (Except Halt Unit)} (h : Removing id c fl) :
    Removing id (c.advance fl).1 (c.advance fl).2 ∧ Spares id fl (c.advance fl).2 := by
  cases h with
  | gone isGone => exact ⟨.gone isGone, Std.Refl.refl fl⟩
  | marks lives =>
    obtain ⟨w, hfind⟩ := Option.isSome_iff_exists.mp lives
    obtain ⟨_, rfl, hlive⟩ := Repository.find?_eq_some_iff.mp hfind
    have hminds := minds_put (marked fl.now w) hfind hlive
    have hget : (Job.workloads.get fl.store).find? (Record.id w) = some w := hfind
    rw [strike, setStatus, Job.advance_update_bind hget]
    exact ⟨.removes (hminds.lives.trans lives), hminds.toSpares⟩
  | removes lives =>
    obtain ⟨w, hfind⟩ := Option.isSome_iff_exists.mp lives
    obtain ⟨_, rfl, _⟩ := Repository.find?_eq_some_iff.mp hfind
    have hdelete := Repository.delete_of_find? fl.now hfind
    have hput : (fl.store.workloads.put (Record.markDeleted fl.now w)).find? (Record.id w) = none :=
      (Repository.find?_put _ _ _).trans (if_pos rfl)
    rw [Job.delete, Job.advance_write_bind rfl]
    refine ⟨.gone ?_, ?_⟩
    · show ((fl.store.workloads.delete fl.now [Record.id w]).2.find? (Record.id w)).isSome = false
      rw [hdelete, hput]
      rfl
    · exact spares_put fl (Record.markDeleted fl.now w) (congrArg Repository.rows hdelete)

/-- **Where a removal is over the workload is gone**, if what is done meanwhile only minds it. -/
theorem gone_of_interleave {turns : List Bool} {c c' : Routine Fleet (Except Halt Workload)}
    {d : Routine Fleet (Except Halt Unit)} {r : Except Halt Unit} (hc : c.Within (Minds id))
    (hd : Removing id d fl) (h : interleave turns c d fl = ((c', .done r), fl')) :
    fl'.store.workloads.find? id = none ∧ Spares id fl fl' := by
  have hkept := Routine.interleave_induct (p := c) (q := d)
    (I := fun c d fl' => c.Within (Minds id) ∧ Removing id d fl' ∧ Spares id fl fl') ?_ ?_ turns
    ⟨hc, hd, Std.Refl.refl fl⟩
  · rw [h] at hkept
    obtain ⟨_, hgone, hspares⟩ := hkept
    cases hgone with
    | gone isGone => exact ⟨Option.isNone_iff_eq_none.mp (Option.isSome_eq_false_iff.mp isGone), hspares⟩
  · rintro c d fl' ⟨hc, hd, hspares⟩
    obtain ⟨hc', hminds⟩ := hc.advance fl'
    exact ⟨hc', hd.minds hminds, IsTrans.trans _ _ _ hspares hminds.toSpares⟩
  · rintro c d fl' ⟨hc, hd, hspares⟩
    obtain ⟨hd', hstep⟩ := hd.advance
    exact ⟨hc, hd', IsTrans.trans _ _ _ hspares hstep⟩

/-- A removal first looks for its workload: it fails where that is not there, -/
theorem advance_delete_of_none (v : Service) (q : Principal) (hfind : fl.store.workloads.find? id = none) :
    ∃ e, (delete v q id).run.advance fl = (.done (.error e), fl) := by
  have hget : (Job.workloads.get fl.store).find? id = none := hfind
  rw [delete_eq, owned, bind_assoc]
  exact Job.advance_get_bind_of_none hget

/-- and has nothing to take down where that has no unit. -/
theorem removing_delete (v : Service) (hfind : fl.store.workloads.find? id = some w)
    (hq : q.canManage w = true) (hunit : w.unit? = none) :
    Removing id ((delete v q id).run.advance fl).1 ((delete v q id).run.advance fl).2 ∧
      ((delete v q id).run.advance fl).2 = fl ∧ ((delete v q id).run.advance fl).1.Clerical := by
  have hunmake : unmake v w = pure () := by
    unfold unmake
    rw [hunit]
  have hnext : (delete v q id).run.advance fl = ((strike id).run, fl) := by
    have hget : (Job.workloads.get fl.store).find? id = some w := hfind
    rw [delete_eq, owned, bind_assoc, Job.advance_get_bind hget, if_pos hq, pure_bind, hunmake, pure_bind]
  rw [hnext]
  exact ⟨.marks (Option.isSome_iff_exists.mpr ⟨w, hfind⟩), rfl,
    Job.within_bind (Job.filed_update Job.workloads _ _) fun _ =>
      Job.within_bind (Job.filed_write Job.workloads _) fun _ => Job.within_pure _⟩

/-! ## An order and a removal at a time -/

/-- **An order is overtaken by a removal**: the removal first looks for the workload when that is there and
its unit is not recorded. -/
def Overtakes (v : Service) (p q : Principal) (o : Order) (turns : List Bool) (fl : Fleet) : Prop :=
  ∃ w, (interleave (headStart turns) (create v p o).run
      (delete v q fl.store.workloads.nextId).run fl).2.store.workloads.find? fl.store.workloads.nextId = some w ∧
    w.unit? = none

/-- Engines that oblige do so after an order, for no call of it sets a failure. -/
theorem obliging_create (v : Service) (p : Principal) (o : Order) :
    (create v p o).Leads (Keeping Fleet.Obliging) := by
  have hwrite : ∀ fl (s : Store), Keeping Fleet.Obliging fl { fl with store := s } :=
    fun _ _ h => ⟨h.heard, h.obliges⟩
  have hprovision : ∀ n spec image name,
      (Job.provision v.engine n spec image name).Leads (Keeping Fleet.Obliging) := by
    intro n spec image name
    refine Job.leads_bind (Job.leads_openEngine n) fun address => Job.leads_bind (Job.leads_fitting _) fun p => ?_
    refine Job.leads_bind (fun fl h => ?_) fun _ => Job.leads_ofExcept _
    obtain ⟨fl', hrun, hbecame⟩ := Job.run_dialog address (Engine.Unit.provision p) fl
    rw [hrun]
    exact hbecame.obliging h ((h.obliges address).of_tempered (Engine.tempered_run _ _))
  refine Job.leads_bind (Job.leads_get _ _) fun image => Job.leads_bind (Job.leads_get _ _) fun spec =>
    Job.leads_bind (Job.leads_get _ _) fun n => ?_
  split
  · refine Job.leads_bind (Job.leads_bind (Job.leads_look _) fun _ => Job.leads_ofExcept _) fun _ =>
      Job.leads_bind (Job.leads_tryAct fun fl => hwrite fl _) fun w =>
      Job.leads_bind (Job.leads_look _) fun name =>
      Job.leads_bind (Job.leads_attempt (hprovision _ _ _ _)) fun r => ?_
    cases r with
    | ok unit => exact Job.leads_tryAct fun fl => hwrite fl _
    | error e => exact Job.leads_bind (Job.leads_tryAct fun fl => hwrite fl _) fun _ => Job.leads_fail _
  · exact Job.leads_fail _

/-- A workload that comes and goes leaves the others their berths, and has none itself in the end. -/
theorem Spares.berth? (h : Spares id fl fl') (hbefore : fl.store.workloads.find? id = none)
    (hafter : fl'.store.workloads.find? id = none) : fl'.store.berth? = fl.store.berth? := by
  have hberthOf : fl'.store.berthOf = fl.store.berthOf := by
    funext w
    rw [Store.berthOf, Store.berthOf, h.nodes]
  funext j
  rw [Store.berth?, Store.berth?, hberthOf]
  by_cases hj : j = id
  · rw [hj, hbefore, hafter]
  · rw [h.others j hj]

theorem find?_nextId (isNew : ∀ w ∈ fl.store.workloads.rows, w.id ≠ fl.store.workloads.nextId) :
    fl.store.workloads.find? fl.store.workloads.nextId = none :=
  Repository.find?_eq_none_iff.mpr fun w hw hid => absurd hid (isNew w hw)

/-- **Where the order is by itself all containers are held**, if all were, whatever the order comes to. -/
theorem attended_create (h : fl.Obliging) (hnew : ∀ a, (fl.stock a).unit? (fl.stock a).nextId = none)
    (hheld : fl.estate.Attended) (v : Service) (p : Principal) (o : Order) :
    ((create v p o).run.run fl).2.estate.Attended := by
  obtain ⟨more, halters, _⟩ := alters_create h hnew v p o
  exact hheld.alters (fun id hid => Store.berth?_eq_none hid) hnew halters

/-- **A removal after the order takes its unit down**, and all other containers stay held. -/
theorem attended_delete {r : Except Halt Workload} (h : fl.Obliging)
    (hnew : ∀ a, (fl.stock a).unit? (fl.stock a).nextId = none)
    (isNew : ∀ w ∈ fl.store.workloads.rows, w.id ≠ fl.store.workloads.nextId) (hheld : fl.estate.Attended)
    (hrun : (create v p o).run.run fl = (r, fl₁))
    (hfind : fl₁.store.workloads.find? fl.store.workloads.nextId = some w) (hq : q.canManage w = true)
    {unit : String} (hunit : w.unit? = some unit) :
    ((delete v q fl.store.workloads.nextId).run.run fl₁).2.estate.Attended := by
  have hobliging := obliging_create v p o fl h
  have hattended := attended_create h hnew hheld v p o
  obtain ⟨more, halters, _⟩ := alters_create h hnew v p o
  rw [hrun] at hobliging hattended halters
  have hberth : fl₁.store.berth? fl.store.workloads.nextId =
      some ⟨(fl₁.store.nodes.find? w.nodeId).map Node.engineAddress, unit, w.containerName⟩ :=
    (Store.berth?_of_find? hfind).trans (Store.berthOf_of_some hunit)
  -- an order that makes a unit does so at a node that has an address
  have hbefore : fl.estate.berth? fl.store.workloads.nextId = none := by
    refine Store.berth?_eq_none ?_
    rintro ⟨u, hu, hid⟩
    exact isNew u hu hid
  obtain ⟨a, haddress, ha⟩ := halters.address_of_berth? hbefore hberth
  obtain ⟨n, hn, rfl⟩ := Option.map_eq_some_iff.mp haddress
  obtain ⟨fl₂, htakedown, _, hestate⟩ := estate_takedown hobliging hfind hunit hn ha v
  rw [hn] at hberth
  have hdelete : (delete v q fl.store.workloads.nextId).run.run fl₁ = (.ok (), fl₂) := by
    rw [delete_eq, Job.run_bind_of_ok (run_owned_of_find? hfind hq), htakedown]
  rw [hdelete, hestate]
  exact hattended.cleared hberth

/-- **Where the order is overtaken the container that it made is held by nobody**, and all others are. -/
theorem held_of_overtaken {turns : List Bool} {c : Routine Fleet (Except Halt Workload)}
    {d : Routine Fleet (Except Halt Unit)} {r : Except Halt Workload} {r' : Except Halt Unit}
    (h : fl.Obliging) (hnew : ∀ a, (fl.stock a).unit? (fl.stock a).nextId = none)
    (isNew : ∀ w ∈ fl.store.workloads.rows, w.id ≠ fl.store.workloads.nextId) (hheld : fl.estate.Attended)
    (hfree : ∀ a id name, fl.store.berth? id ≠ some ⟨some a, (fl.stock a).nextId, name⟩)
    (hspares : Spares fl.store.workloads.nextId fl fl₁) (hsame : c.run fl₁ = (create v p o).run.run fl)
    (hc : c.Indifferent) (hminds : c.Within (Minds fl.store.workloads.nextId))
    (hd : Removing fl.store.workloads.nextId d fl₁) (hclerical : d.Clerical)
    (hrun : interleave turns c d fl₁ = ((.done r, .done r'), fl')) {a unit : String}
    {x : String × List String} (hx : (fl'.estate.stock a).unit? unit = some x) :
    (∃ id name, fl'.store.berth? id = some ⟨some a, unit, name⟩) ↔ unit ≠ (fl.stock a).nextId := by
  obtain ⟨hgone, hspares'⟩ := gone_of_interleave hminds hd hrun
  have hberth : fl'.store.berth? = fl.store.berth? :=
    (IsTrans.trans _ _ _ hspares hspares').berth? (find?_nextId isNew) hgone
  -- the removal only writes records, so the engines hold what the order by itself leaves there
  obtain ⟨s, hs⟩ := Routine.filed_interleave hc hclerical hrun
  rw [hsame] at hs
  have hs : fl' = { ((create v p o).run.run fl).2 with store := s } := hs
  have hstock : fl'.estate.stock = ((create v p o).run.run fl).2.estate.stock := by
    rw [hs]
    rfl
  obtain ⟨more, halters, _⟩ := alters_create h hnew v p o
  rw [hberth]
  rw [hstock] at hx
  constructor
  · rintro ⟨id, name, hid⟩ rfl
    exact hfree a id name hid
  · intro hne
    exact hheld a unit x ((halters.unit?_cases hnew hx).resolve_right hne)

/-- **Whatever the schedule of an order and a removal of its workload**, each container ends as the unit of
a live workload, but for one: where the order is overtaken, the container that it makes is left over. -/
theorem held_iff_not_overtaken (h : fl.Obliging) (hnew : ∀ a, (fl.stock a).unit? (fl.stock a).nextId = none)
    (isNew : ∀ w ∈ fl.store.workloads.rows, w.id ≠ fl.store.workloads.nextId) (hheld : fl.estate.Attended)
    (hfree : ∀ a id name, fl.store.berth? id ≠ some ⟨some a, (fl.stock a).nextId, name⟩)
    (hq : q.isAdmin = true ∨ q.userId = p.userId) {turns : List Bool} {r : Except Halt Workload}
    {r' : Except Halt Unit} (hrun : interleave turns (create v p o).run
      (delete v q fl.store.workloads.nextId).run fl = ((.done r, .done r'), fl')) {a unit : String}
    {c : Engine.Container} (hc : (fl'.engineAt a).containers.lookup unit = some c) :
    (∃ id name, fl'.store.berth? id = some ⟨some a, unit, name⟩) ↔
      ¬ (Overtakes v p q o turns fl ∧ unit = (fl.stock a).nextId) := by
  have hx : (fl'.estate.stock a).unit? unit = some (c.name, c.body.volumes) := congrArg (Option.map _) hc
  have hhead : ∀ turn ∈ headStart turns, turn = true := Routine.of_mem_headStart
  obtain ⟨c', fl₁, hmixed, hsame, hstage⟩ := Routine.interleave_of_left
    (q := (delete v q fl.store.workloads.nextId).run) (fun _ _ => Stage.advance isNew) hhead
    (stage_create v p o fl)
  have hovertakes : Overtakes v p q o turns fl ↔
      ∃ w, fl₁.store.workloads.find? fl.store.workloads.nextId = some w ∧ w.unit? = none := by
    rw [Overtakes, hmixed]
  obtain hturns | ⟨rest, hturns⟩ := Routine.headStart_cases turns
  -- without a turn the removal is not over
  · rw [hturns, hmixed] at hrun
    cases hrun
  rw [hturns, Routine.interleave_append, hmixed] at hrun
  have hrun : interleave rest c' ((delete v q fl.store.workloads.nextId).run.advance fl₁).1
      ((delete v q fl.store.workloads.nextId).run.advance fl₁).2 = ((.done r, .done r'), fl') := hrun
  rw [hovertakes]
  cases hfind : fl₁.store.workloads.find? fl.store.workloads.nextId with
  | none =>
    -- the removal fails, and the order goes on by itself
    obtain ⟨e, he⟩ := advance_delete_of_none v q hfind
    rw [he] at hrun
    have hend : (r, fl') = (create v p o).run.run fl := (Routine.interleave_done_right hrun).trans hsame
    have hattended := attended_create h hnew hheld v p o
    rw [← hend] at hattended
    exact iff_of_true (hattended a unit _ hx) (by simp)
  | some w =>
    obtain ⟨placed, hnone, hsome⟩ := hstage.of_find? isNew hfind
    have hcan : q.canManage w = true := by
      rw [Principal.canManage, placed.owner, Bool.or_eq_true, beq_iff_eq]
      exact hq.imp_right Eq.symm
    cases hunit : w.unit? with
    | none =>
      obtain ⟨hremoving, hfleet, hclerical⟩ := removing_delete v hfind hcan hunit
      rw [hfleet] at hrun hremoving
      obtain ⟨hindifferent, hminds⟩ := hnone hunit
      rw [held_of_overtaken h hnew isNew hheld hfree placed.spares hsame hindifferent hminds hremoving
        hclerical hrun hx]
      simp [hunit]
    | some unit' =>
      -- the order is over, and the removal goes on by itself
      obtain ⟨r'', rfl⟩ := hsome (by simp [hunit])
      have hend : (delete v q fl.store.workloads.nextId).run.run fl₁ = (r', fl') := by
        rw [← Routine.run_advance]
        exact (Routine.interleave_done_left hrun).symm
      have hattended := attended_delete h hnew isNew hheld hsame.symm hfind hcan hunit
      rw [hend] at hattended
      exact iff_of_true (hattended a unit _ hx) (by simp [hunit])

/-! ## Two schedules -/

theorem attended_disk : diskFleet.estate.Attended := fun _ _ _ hx => by cases hx

/-- The removal looks before the workload is there: it fails, and the container of the order is held. -/
theorem held_iff_not_overtaken_disk : ∃ r r' fl' c,
    diskFleet.Obliging ∧ (∀ a, (diskFleet.stock a).unit? (diskFleet.stock a).nextId = none) ∧
    (∀ w ∈ diskFleet.store.workloads.rows, w.id ≠ diskFleet.store.workloads.nextId) ∧
    diskFleet.estate.Attended ∧
    (∀ a id name, diskFleet.store.berth? id ≠ some ⟨some a, (diskFleet.stock a).nextId, name⟩) ∧
    (tenant.isAdmin = true ∨ tenant.userId = tenant.userId) ∧
    interleave (false :: List.replicate 11 true) (create smallService tenant (smallOrder 1)).run
      (delete smallService tenant 1).run diskFleet = ((.done r, .done r'), fl') ∧
    (fl'.engineAt "small").containers.lookup "c1" = some c ∧
    ((∃ id name, fl'.store.berth? id = some ⟨some "small", "c1", name⟩) ↔
      ¬ (Overtakes smallService tenant tenant (smallOrder 1) (false :: List.replicate 11 true) diskFleet ∧
        "c1" = (diskFleet.stock "small").nextId)) := by
  have hrun : ∀ x, interleave (false :: List.replicate 11 true)
      (create smallService tenant (smallOrder 1)).run (delete smallService tenant 1).run diskFleet = x →
      x.1.1.result?.isSome = true ∧ x.1.2.result?.isSome = true ∧
        ((x.2.engineAt "small").containers.lookup "c1").isSome = true := by
    rintro _ rfl
    decide +kernel
  generalize hx : interleave (false :: List.replicate 11 true) (create smallService tenant (smallOrder 1)).run
    (delete smallService tenant 1).run diskFleet = x at hrun
  obtain ⟨⟨c, d⟩, fl'⟩ := x
  obtain ⟨hc, hd, hmade⟩ := hrun _ rfl
  obtain ⟨r, hc⟩ := Option.isSome_iff_exists.mp hc
  obtain ⟨r', hd⟩ := Option.isSome_iff_exists.mp hd
  obtain rfl := Routine.result?_eq_some_iff.mp hc
  obtain rfl := Routine.result?_eq_some_iff.mp hd
  obtain ⟨container, hcontainer⟩ := Option.isSome_iff_exists.mp hmade
  have hnew : ∀ a, (diskFleet.stock a).unit? (diskFleet.stock a).nextId = none := fun _ => rfl
  have isNew : ∀ w ∈ diskFleet.store.workloads.rows, w.id ≠ diskFleet.store.workloads.nextId :=
    List.forall_mem_nil _
  have hfree : ∀ a id name, diskFleet.store.berth? id ≠ some ⟨some a, (diskFleet.stock a).nextId, name⟩ :=
    fun _ _ _ => nofun
  exact ⟨r, r', fl', container, obliging_disk, hnew, isNew, attended_disk, hfree, .inr rfl, rfl, hcontainer,
    held_iff_not_overtaken obliging_disk hnew isNew attended_disk hfree (.inr rfl) hx hcontainer⟩

/-- **The removal is done between the record and the unit**: it succeeds, and the order leaves a container
that no workload holds. -/
theorem removal_overtakes_order : diskFleet.Obliging ∧ diskFleet.estate.Attended ∧ ∃ turns r fl' c,
    interleave turns (create smallService tenant (smallOrder 1)).run (delete smallService tenant 1).run
      diskFleet = ((.done r, .done (.ok ())), fl') ∧
    (fl'.engineAt "small").containers.lookup "c1" = some c ∧ ∀ id, fl'.store.workloads.find? id = none := by
  let turns := List.replicate 5 true ++ List.replicate 3 false ++ List.replicate 6 true
  have hrun : ∀ x, interleave turns (create smallService tenant (smallOrder 1)).run
      (delete smallService tenant 1).run diskFleet = x →
      x.1.1.result?.isSome = true ∧ x.1.2.result? = some (.ok ()) ∧
        ((x.2.engineAt "small").containers.lookup "c1").isSome = true ∧
        ∀ w ∈ x.2.store.workloads.rows, Record.isLive w = false := by
    rintro _ rfl
    decide +kernel
  generalize hx : interleave turns (create smallService tenant (smallOrder 1)).run
    (delete smallService tenant 1).run diskFleet = x at hrun
  obtain ⟨⟨c, d⟩, fl'⟩ := x
  obtain ⟨hc, hd, hmade, hgone⟩ := hrun _ rfl
  obtain ⟨r, hc⟩ := Option.isSome_iff_exists.mp hc
  obtain rfl := Routine.result?_eq_some_iff.mp hc
  obtain rfl := Routine.result?_eq_some_iff.mp hd
  obtain ⟨container, hcontainer⟩ := Option.isSome_iff_exists.mp hmade
  exact ⟨obliging_disk, attended_disk, turns, r, fl', container, hx, hcontainer,
    fun id => Repository.find?_eq_none_iff.mpr fun w hw _ => hgone w hw⟩

end Service

end FleetControl
