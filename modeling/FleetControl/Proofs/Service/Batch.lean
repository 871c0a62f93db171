import FleetControl.Proofs.Fleet.Units
import FleetControl.Proofs.Service.RoundTrip
import FleetControl.Proofs.Store.Renewal

/-!
# Batches of removals

A batch of removals is worked off in its order, as far as its border: the first identifier of a live workload
that the caller may not manage, or its end. Before the border each live workload is removed where it is named
first; what is named there again, or names nothing, is passed over.

One removal strikes one row off and takes one unit down (`removal_delete`), and what it leaves of a batch
is the batch of the records after it (`Store.batch_cons_of_live`). So a batch is the fold of the single
removals before the border (`deleteMany_folds`): its rows are struck off in place, and each engine goes
through the take-downs of their units and nothing else. Engines may fail as they are set to; the one thing
that ends a batch early is an engine that stays silent when it is opened.
-/

namespace FleetControl

/-! ## What a batch names -/

namespace Store

variable {s s' : Store} {p : Principal} {id : RecordId} {ids : List RecordId} {w : Workload}

/-- The identifier names a live workload that the caller may not manage. -/
def isForeign (s : Store) (p : Principal) (id : RecordId) : Bool :=
  (s.workloads.find? id).any fun w => !p.canManage w

/-- **The border of a batch**: where the first such workload is named, or the end. -/
def border (s : Store) (p : Principal) (ids : List RecordId) : Nat := ids.findIdx (s.isForeign p)

/-- **What a batch removes**: the live workloads that are named before the border, in the order in which
they are named first. -/
def batch (s : Store) (p : Principal) (ids : List RecordId) : List RecordId :=
  ((ids.take (s.border p ids)).filter fun id => (s.workloads.find? id).isSome).eraseDups

/-- **What a batch comes to**: what it removes, or the refusal at the border. -/
def verdict (s : Store) (p : Principal) (ids : List RecordId) : Except Failure (List RecordId) :=
  match ids[s.border p ids]? with
  | none => .ok (s.batch p ids)
  | some id => .error (Service.refusal p id)

/-- An identifier that the caller may go past lies before the border, and the border of the rest is one nearer. -/
theorem border_cons (ids : List RecordId) (h : s.isForeign p id = false) :
    s.border p (id :: ids) = s.border p ids + 1 := by
  rw [border, List.findIdx_cons, h]
  rfl

/-- A live workload that the caller may not manage is the border itself. -/
theorem border_cons_of_foreign (ids : List RecordId) (h : s.isForeign p id = true) :
    s.border p (id :: ids) = 0 := by
  rw [border, List.findIdx_cons, h]
  rfl

/-- An identifier that names no live workload is nobody's, and the batch goes past it. -/
theorem isForeign_of_none (h : s.workloads.find? id = none) : s.isForeign p id = false := by
  rw [isForeign, h]
  rfl

/-- Whether a live workload is foreign to the caller is what the caller may manage, turned round. -/
theorem isForeign_of_some (h : s.workloads.find? id = some w) : s.isForeign p id = !p.canManage w := by
  rw [isForeign, h]
  rfl

theorem isForeign_of_own (h : s.workloads.find? id = some w) (own : p.canManage w = true) :
    s.isForeign p id = false := by
  rw [isForeign_of_some h, own]
  rfl

/-- **What a batch removes** is named before the border and is alive; how often and where it is named there does
not matter. -/
theorem mem_batch : id ∈ s.batch p ids ↔
    id ∈ ids.take (s.border p ids) ∧ (s.workloads.find? id).isSome = true :=
  List.mem_eraseDups.trans List.mem_filter

/-- What names nothing is passed over, and the batch is that of the identifiers after it. -/
theorem batch_cons_of_none (p : Principal) (ids : List RecordId) (h : s.workloads.find? id = none) :
    s.batch p (id :: ids) = s.batch p ids := by
  unfold batch
  rw [border_cons ids (isForeign_of_none h), List.take_succ_cons, List.filter_cons, h]
  rfl

/-- What the caller may manage is removed where it is named first, so it heads the batch. -/
theorem batch_cons_of_own (ids : List RecordId) (hfind : s.workloads.find? id = some w)
    (own : p.canManage w = true) : ∃ later, s.batch p (id :: ids) = id :: later := by
  unfold batch
  rw [border_cons ids (isForeign_of_own hfind own), List.take_succ_cons, List.filter_cons, hfind,
    if_pos Option.isSome_some, List.eraseDups_cons]
  exact ⟨_, rfl⟩

/-- **A removal strikes one identifier off**: of a batch that starts with a live workload of the caller's, what is
left after it is the batch of the records as the removal leaves them. Those have the same border, since what is
gone is foreign to nobody. This is the step of every induction on batches. -/
theorem batch_cons_of_live (ids : List RecordId) (hfind : s.workloads.find? id = some w)
    (own : p.canManage w = true)
    (hgone : ∀ i, s'.workloads.find? i = if i = id then none else s.workloads.find? i) :
    s'.border p ids = s.border p ids ∧ s.batch p (id :: ids) = id :: s'.batch p ids := by
  have hown := isForeign_of_own hfind own
  have hforeign : s'.isForeign p = s.isForeign p := by
    funext i
    rw [isForeign, hgone]
    split
    · rename_i hi
      rw [hi, hown]
      rfl
    · rfl
  have hborder : s'.border p ids = s.border p ids := by rw [border, border, hforeign]
  have hlive : ∀ i, (!i == id && (s.workloads.find? i).isSome) = (s'.workloads.find? i).isSome := by
    intro i
    rw [hgone]
    by_cases hi : i = id
    · simp [hi]
    · simp [hi]
  refine ⟨hborder, ?_⟩
  unfold batch
  rw [border_cons ids hown, hborder, List.take_succ_cons, List.filter_cons, hfind, if_pos Option.isSome_some,
    List.eraseDups_cons, List.filter_filter, List.filter_congr fun i _ => hlive i]

/-- Nothing is removed of a batch that starts with what the caller may not manage. -/
theorem batch_cons_of_foreign (ids : List RecordId) (h : s.isForeign p id = true) :
    s.batch p (id :: ids) = [] := by
  unfold batch
  rw [border_cons_of_foreign ids h]
  rfl

/-- What names nothing has no part in what a batch comes to. -/
theorem verdict_cons_of_none (p : Principal) (ids : List RecordId) (h : s.workloads.find? id = none) :
    s.verdict p (id :: ids) = s.verdict p ids := by
  unfold verdict
  rw [border_cons ids (isForeign_of_none h), List.getElem?_cons_succ, batch_cons_of_none p ids h]

/-- A batch that starts with what the caller may not manage is refused, and the refusal names that identifier. -/
theorem verdict_cons_of_foreign (ids : List RecordId) (h : s.isForeign p id = true) :
    s.verdict p (id :: ids) = .error (Service.refusal p id) := by
  unfold verdict
  rw [border_cons_of_foreign ids h]
  rfl

/-- A batch that starts with a removal comes to what the rest comes to, the removed workload put before what else
was removed; a refusal further on stays the same. -/
theorem verdict_cons_of_live (hown : s.isForeign p id = false) (hborder : s'.border p ids = s.border p ids)
    (hbatch : s.batch p (id :: ids) = id :: s'.batch p ids) :
    s.verdict p (id :: ids) = (s'.verdict p ids).map (id :: ·) := by
  unfold verdict
  rw [border_cons ids hown, List.getElem?_cons_succ, hbatch, hborder]
  cases ids[s.border p ids]? <;> rfl

/-- **Where the unit of a workload can be taken down**: the address of its engine, its container and its
name. -/
def site? (s : Store) (id : RecordId) : Option (String × String × Option String) :=
  (s.berth? id).bind fun b => (b.address.filter fun a => a != "").map fun a => (a, b.unit, b.name)

/-- The units of workloads at an address, containers and names. -/
def unitsAt (s : Store) (address : String) (ids : List RecordId) : List (String × Option String) :=
  ids.filterMap fun id => (s.site? id).bind fun x => if x.1 = address then some x.2 else none

/-- Where nothing can be taken down for a workload, it has no unit at any address. -/
theorem unitsAt_of_none (h : s.site? id = none) (a : String) : s.unitsAt a [id] = [] := by
  simp [unitsAt, h]

/-- The unit of a workload is at one address, and at no other. -/
theorem unitsAt_of_some {address : String} {unit : String × Option String}
    (h : s.site? id = some (address, unit)) (a : String) :
    s.unitsAt a [id] = if address = a then [unit] else [] := by
  by_cases ha : address = a
  · simp [unitsAt, h, ha]
  · simp [unitsAt, h, ha]

end Store

/-- No identifier is removed twice, for of those that are named again only the first is kept; the induction is
over the identifiers that are kept. -/
theorem nodup_eraseDups : ∀ ids : List RecordId, ids.eraseDups.Nodup
  | [] => List.nodup_nil
  | id :: rest => by
    have hless : (rest.filter fun i => !i == id).length < rest.length + 1 :=
      Nat.lt_succ_of_le (List.length_filter_le _ _)
    rw [List.eraseDups_cons]
    refine List.nodup_cons.mpr ⟨fun hmem => ?_, nodup_eraseDups _⟩
    have hne := (List.mem_filter.mp (List.mem_eraseDups.mp hmem)).2
    simp at hne
termination_by ids => ids.length

/-! ## What removals leave of a fleet -/

/-- An engine after units were taken down, one after another. -/
def Engine.withoutUnits (c : EngineSettings) (e : Engine) (units : List (String × Option String)) : Engine :=
  units.foldl (fun e u => (e.run (Engine.Unit.teardown c u.1 u.2)).2) e

/-- Other containers are spared: what is taken down are the named units, one after another, and each take-down
spares the others. -/
theorem Engine.lookup_withoutUnits (c : EngineSettings) {unit : String} :
    ∀ (units : List (String × Option String)) (e : Engine), unit ∉ units.map Prod.fst →
      (e.withoutUnits c units).containers.lookup unit = e.containers.lookup unit
  | [], _, _ => rfl
  | u :: rest, e, h => by
    obtain ⟨hu, hrest⟩ := not_or.mp fun hor => h (List.mem_cons.mpr hor)
    have hspared := congrArg (List.lookup unit) (Engine.Unit.spares_teardown c u.1 u.2 e).containers
    rw [Engine.lookup_filter_ne, Engine.lookup_filter_ne, if_neg hu, if_neg hu] at hspared
    exact (lookup_withoutUnits c rest _ hrest).trans hspared

namespace Fleet

variable {c : EngineSettings} {fl fl₁ fl₂ : Fleet} {id : RecordId} {removed : List RecordId}

/-- The unit of the workload is at an engine that stays silent. -/
def isMute (fl : Fleet) (id : RecordId) : Bool := (fl.store.site? id).any fun x => fl.silent.contains x.1

/-- **Only the engines changed.** -/
def OnlyEngines (fl fl' : Fleet) : Prop := fl' = { fl with engines := fl'.engines }

instance : IsPreorder Fleet OnlyEngines where
  refl _ := rfl
  trans _ _ fl₂ h h' := h'.trans (congrArg (fun x : Fleet => { x with engines := fl₂.engines }) h)

/-- **Workloads are removed**: their rows are struck off where they stand, their units are taken down one
after another, and nothing else is changed. -/
structure Removes (c : EngineSettings) (removed : List RecordId) (fl fl' : Fleet) : Prop where
  records : fl.store.workloads.Renews (fun w => if w.id ∈ removed then Service.struck fl.now w else w)
    fl'.store.workloads
  engineAt : ∀ a, fl'.engineAt a = (fl.engineAt a).withoutUnits c (fl.store.unitsAt a removed)
  still : fl' = { fl with
    engines := fl'.engines, store := { fl.store with workloads := fl'.store.workloads } }

namespace Removes

/-- Of nothing removed nothing is left behind. -/
theorem refl (c : EngineSettings) (fl : Fleet) : fl.Removes c [] fl where
  records := Repository.renews_self fun _ _ => if_neg List.not_mem_nil
  engineAt _ := rfl
  still := rfl

/-- The clock of the fleet is as it was. -/
theorem now (h : fl.Removes c removed fl₁) : fl₁.now = fl.now := by rw [h.still]

/-- **What is removed is not found any more**, and every other workload is found as it was: with the same owner,
unit and status. -/
theorem find? (h : fl.Removes c removed fl₁) (i : RecordId) :
    fl₁.store.workloads.find? i = if i ∈ removed then none else fl.store.workloads.find? i := by
  have hid : ∀ w : Workload,
      Record.id (if w.id ∈ removed then Service.struck fl.now w else w) = Record.id w := by
    intro w
    split <;> rfl
  have hrow : fl₁.store.workloads.row? i =
      (fl.store.workloads.row? i).map fun w => if w.id ∈ removed then Service.struck fl.now w else w := by
    unfold Repository.row?
    rw [h.records.rows, List.find?_map]
    exact congrArg _ (congrArg (fun f => List.find? f _) (funext fun w => congrArg (· == i) (hid w)))
  unfold Repository.find?
  rw [hrow]
  cases hw : fl.store.workloads.row? i with
  | none =>
    split <;> rfl
  | some w =>
    have hwi : w.id = i := (Repository.row?_eq_some_iff.mp hw).2
    rw [Option.map_some, hwi]
    split
    · rfl
    · rfl

/-- Where another workload's unit is does not change with a removal. -/
theorem site? (h : fl.Removes c removed fl₁) {i : RecordId} (hi : i ∉ removed) :
    fl₁.store.site? i = fl.store.site? i := by
  have hnodes : fl₁.store.nodes = fl.store.nodes := by rw [h.still]
  unfold Store.site? Store.berth? Store.berthOf
  rw [h.find?, if_neg hi, hnodes]

/-- Whether another workload's engine stays silent does not change with a removal. -/
theorem isMute (h : fl.Removes c removed fl₁) {i : RecordId} (hi : i ∉ removed) :
    fl₁.isMute i = fl.isMute i := by
  have hsilent : fl₁.silent = fl.silent := by rw [h.still]
  unfold Fleet.isMute
  rw [h.site? hi, hsilent]

/-- One workload is removed, and then others: the rows are struck off in turn, and each engine goes through the
take-downs in this order. -/
theorem cons (h : fl.Removes c [id] fl₁) (h' : fl₁.Removes c removed fl₂) (hid : id ∉ removed) :
    fl.Removes c (id :: removed) fl₂ where
  records := by
    refine ⟨?_, h'.records.nextId.trans h.records.nextId⟩
    rw [h'.records.rows, h.records.rows, List.map_map, h.now]
    refine List.map_congr_left fun w _ => ?_
    by_cases hw : w.id = id
    · have hstruck : (Service.struck fl.now w).id ∉ removed := fun hmem => hid (hw ▸ hmem)
      simp [hw, hstruck]
    · simp [hw]
  engineAt a := by
    have hrest : fl₁.store.unitsAt a removed = fl.store.unitsAt a removed := by
      refine List.filterMap_congr fun i hi => ?_
      rw [h.site? fun hmem => hid (List.mem_singleton.mp hmem ▸ hi)]
    have hunits : fl.store.unitsAt a ([id] ++ removed) =
        fl.store.unitsAt a [id] ++ fl.store.unitsAt a removed := List.filterMap_append
    rw [List.singleton_append] at hunits
    rw [h'.engineAt, h.engineAt, hrest, hunits, Engine.withoutUnits, Engine.withoutUnits, Engine.withoutUnits,
      List.foldl_append]
  still := h'.still.trans (congrArg (fun x : Fleet => { x with
    engines := fl₂.engines, store := { x.store with workloads := fl₂.store.workloads } }) h.still)

end Removes

end Fleet

/-! ## One removal -/

namespace Job

/-- A dialog with an engine leads wherever putting another engine at its address does, call by call. -/
theorem leads_dialog {α : Type} {R : Fleet → Fleet → Prop} [IsPreorder Fleet R]
    (hR : ∀ fl address e, R fl (fl.setEngine address e)) (address : String) :
    ∀ d : Engine.Dialog α, (dialog address d).Leads R
  | .done a => leads_pure a
  | .ask c next => leads_bind (fun fl => hR fl address ((fl.engineAt address).answer c).2) fun r =>
      leads_dialog hR address (next r)

end Job

namespace Service

variable {v : Service} {p : Principal} {id : RecordId} {fl : Fleet} {w : Workload}

/-- To take a unit down is a matter of the engines alone. -/
theorem onlyEngines_unmake (v : Service) (w : Workload) : (unmake v w).Leads Fleet.OnlyEngines := by
  unfold unmake
  split
  · exact Job.leads_pure _
  · refine Job.leads_bind (Job.leads_look _) fun n => ?_
    split
    · exact Job.leads_pure _
    · exact Job.leads_bind (Job.leads_attempt (Job.leads_bind (Job.leads_openEngine _) fun _ =>
        Job.leads_dialog (fun _ _ _ => rfl) _ _)) fun _ => Job.leads_pure _

/-- **The unit of a workload is taken down where it is**, or its engine stays silent and nothing is done. A
workload without a unit, or with a node that is gone, has nothing to take down and no engine to wait for. -/
theorem run_unmake_cases (v : Service) (hfind : fl.store.workloads.find? id = some w) :
    (fl.isMute id = true ∧ (unmake v w).run.run fl = (.error .silent, fl)) ∨
    fl.isMute id = false ∧ ∃ fl', (unmake v w).run.run fl = (.ok (), fl') ∧
      ∀ a, fl'.engineAt a = (fl.engineAt a).withoutUnits v.engine (fl.store.unitsAt a [id]) := by
  have hberth : fl.store.berth? id = fl.store.berthOf w := Store.berth?_of_find? hfind
  -- where the unit is nowhere, nothing is done
  have nowhere : fl.store.site? id = none → (unmake v w).run.run fl = (.ok (), fl) →
      fl.isMute id = false ∧ ∃ fl', (unmake v w).run.run fl = (.ok (), fl') ∧ ∀ a,
        fl'.engineAt a = (fl.engineAt a).withoutUnits v.engine (fl.store.unitsAt a [id]) := by
    intro hnone hrun
    refine ⟨by rw [Fleet.isMute, hnone]; rfl, fl, hrun, fun a => ?_⟩
    rw [Store.unitsAt_of_none hnone]
    rfl
  cases hunit : w.unit? with
  | none =>
    rw [Store.berthOf_of_none hunit] at hberth
    refine .inr (nowhere ?_ (run_unmake_of_none hunit))
    rw [Store.site?, hberth]
    rfl
  | some unit =>
    rw [Store.berthOf_of_some hunit] at hberth
    cases hn : fl.store.nodes.find? w.nodeId with
    | none =>
      refine .inr (nowhere ?_ (run_unmake_of_unknown hunit hn))
      rw [Store.site?, hberth, hn]
      rfl
    | some n =>
      have hsite : fl.store.site? id = ((some n.engineAddress).filter fun a => a != "").map fun a =>
          (a, unit, w.containerName) := by
        rw [Store.site?, hberth, hn]
        rfl
      rcases Job.run_opened_cases n _ fl with
        ⟨haddress, hrun⟩ | ⟨haddress, hsilent, hrun⟩ | ⟨haddress, hopen, _⟩
      · -- a node without an address fails the take-down, which is passed over
        rw [haddress] at hsite
        exact .inr (nowhere hsite (run_unmake_of hunit hn hrun))
      · rw [Option.filter_some_pos (by simpa using haddress)] at hsite
        exact .inl ⟨by simp [Fleet.isMute, hsite, hsilent], run_unmake_of hunit hn hrun⟩
      · rw [Option.filter_some_pos (by simpa using haddress)] at hsite
        obtain ⟨fl', hrun, hbecame⟩ :=
          Job.run_teardown_dialog hopen haddress v.engine unit w.containerName
        refine .inr ⟨by simp [Fleet.isMute, hsite, hopen], fl', run_unmake_of hunit hn hrun, fun a => ?_⟩
        rw [hbecame.engineAt, Store.unitsAt_of_some hsite]
        by_cases ha : n.engineAddress = a
        · rw [if_pos ha, ← ha, Function.update_self]
          rfl
        · rw [if_neg ha, Function.update_of_ne (Ne.symm ha)]
          rfl

/-- One row is marked as removed where it stands, and no other changes. -/
theorem renews_put_struck {r : Repository Workload} (hfind : r.find? id = some w) (now : Time.Instant) :
    r.Renews (fun x => if x.id ∈ [id] then struck now x else x) (r.put (struck now w)) := by
  obtain ⟨hmem, rfl, _⟩ := Repository.find?_eq_some_iff.mp hfind
  refine ⟨?_, rfl⟩
  have hself : Record.id (struck now w) = Record.id w := rfl
  rw [Repository.rows_put, Record.place_eq_map hself r.ordered hmem]
  refine List.map_congr_left fun x hx => ?_
  by_cases hid : x.id = w.id
  · obtain rfl := r.ordered.eq_of_id_eq hx hmem hid
    exact (if_pos rfl).trans (if_pos (List.mem_singleton_self _)).symm
  · exact (if_neg hid).trans (if_neg fun h => hid (List.mem_singleton.mp h)).symm

/-- What a removal comes to: nothing, or the workload's end, or it waits for an engine. -/
inductive Removal (v : Service) (p : Principal) (id : RecordId) (fl : Fleet) : Except Halt Unit → Fleet → Prop
  | missing (notFound : fl.store.workloads.find? id = none) :
      Removal v p id fl (.error (.failed (.notFound (Record.label Workload id)))) fl
  | foreign (isForeign : fl.store.isForeign p id = true) :
      Removal v p id fl (.error (.failed (refusal p id))) fl
  | waits {w : Workload} (found : fl.store.workloads.find? id = some w) (own : p.canManage w = true)
      (isMute : fl.isMute id = true) : Removal v p id fl (.error .silent) fl
  | done {w : Workload} {fl' : Fleet} (found : fl.store.workloads.find? id = some w)
      (own : p.canManage w = true) (answered : fl.isMute id = false)
      (removes : fl.Removes v.engine [id] fl') : Removal v p id fl (.ok ()) fl'

/-- **Every removal comes to one of these.** The cases are those of the operation itself: no such workload, not
the caller's, an engine that stays silent, or the end of the workload. -/
theorem removal_delete (v : Service) (p : Principal) (id : RecordId) (fl : Fleet) :
    Removal v p id fl ((delete v p id).run.run fl).1 ((delete v p id).run.run fl).2 := by
  rw [delete_eq]
  rcases run_owned_cases p id fl with ⟨hnone, hrun⟩ | ⟨w, hfind, hother, hrun⟩ | ⟨w, hfind, hown, hrun⟩
  · rw [Job.run_bind_of_error hrun]
    exact .missing hnone
  · rw [Job.run_bind_of_error hrun]
    refine .foreign ?_
    rw [Store.isForeign_of_some hfind, hother]
    rfl
  · rw [Job.run_bind_of_ok hrun]
    have honly := onlyEngines_unmake v w fl
    rcases run_unmake_cases v hfind with ⟨hmute, hrun⟩ | ⟨hheard, fl₁, hrun, hengines⟩
    · rw [Job.run_bind_of_error hrun]
      exact .waits hfind hown hmute
    · rw [hrun] at honly
      have hfl₁ : fl₁ = { fl with engines := fl₁.engines } := honly
      have hfind₁ : fl₁.store.workloads.find? id = some w := by
        rw [hfl₁]
        exact hfind
      rw [Job.run_bind_of_ok hrun, run_strike hfind₁]
      refine .done hfind hown hheard ⟨?_, hengines, ?_⟩
      · rw [hfl₁]
        exact renews_put_struck hfind fl.now
      · rw [hfl₁]

/-! ## Batches -/

/-- The fleet after single removals, one after another. -/
def afterDeletes (v : Service) (p : Principal) (fl : Fleet) (ids : List RecordId) : Fleet :=
  ids.foldl (fun fl id => ((delete v p id).run.run fl).2) fl

/-- **What a batch comes to** after other removals: all of it, or what stands before a workload whose engine
stays silent. -/
inductive Batch (v : Service) (p : Principal) (ids removed : List RecordId) (fl : Fleet) :
    Except Halt (List RecordId) → Fleet → Prop
  | waits {later : List RecordId} {id : RecordId} {fl' : Fleet} (done : List RecordId)
      (batch : fl.store.batch p ids = done ++ id :: later) (answered : ∀ i ∈ done, fl.isMute i = false)
      (isMute : fl.isMute id = true) (removes : fl.Removes v.engine done fl') :
      Batch v p ids removed fl (.error .silent) fl'
  | done {fl' : Fleet} (answered : ∀ i ∈ fl.store.batch p ids, fl.isMute i = false)
      (folds : fl' = afterDeletes v p fl (ids.take (fl.store.border p ids)))
      (removes : fl.Removes v.engine (fl.store.batch p ids) fl') :
      Batch v p ids removed fl (((fl.store.verdict p ids).map (removed ++ ·)).mapError .failed) fl'

namespace Batch

variable {rest removed : List RecordId} {fl₁ fl' : Fleet} {r : Except Halt (List RecordId)}

/-- What names nothing is passed over, in the batch as in the fold of single removals. -/
theorem cons_missing (h : Batch v p rest removed fl r fl') (notFound : fl.store.workloads.find? id = none)
    (hrun : ((delete v p id).run.run fl).2 = fl) : Batch v p (id :: rest) removed fl r fl' := by
  have hbatch := Store.batch_cons_of_none p rest notFound
  cases h with
  | waits done batch answered isMute removes =>
    exact .waits done (hbatch.trans batch) answered isMute removes
  | done answered folds removes =>
    rw [← hbatch] at answered removes
    rw [← Store.verdict_cons_of_none p rest notFound]
    refine .done answered ?_ removes
    rw [Store.border_cons rest (Store.isForeign_of_none notFound), List.take_succ_cons, afterDeletes,
      List.foldl_cons, hrun]
    exact folds

/-- **One removal, and the batch of what is left**: what was removed before, this workload and the rest of the
batch make up one batch of the records as they were found. -/
theorem cons_done (h : Batch v p rest (removed ++ [id]) fl₁ r fl')
    (found : fl.store.workloads.find? id = some w) (own : p.canManage w = true)
    (answered : fl.isMute id = false) (removes : fl.Removes v.engine [id] fl₁)
    (hrun : ((delete v p id).run.run fl).2 = fl₁) : Batch v p (id :: rest) removed fl r fl' := by
  have hgone : ∀ i, fl₁.store.workloads.find? i = if i = id then none else fl.store.workloads.find? i := by
    intro i
    simp only [removes.find? i, List.mem_singleton]
  obtain ⟨hborder, hbatch⟩ := Store.batch_cons_of_live rest found own hgone
  have hown := Store.isForeign_of_own found own
  -- what is left of the batch does not name the workload again
  have hid : id ∉ fl₁.store.batch p rest := by
    intro hmem
    have hlive := (Store.mem_batch.mp hmem).2
    rw [hgone, if_pos rfl] at hlive
    cases hlive
  have hmute : ∀ i, i ≠ id → fl₁.isMute i = fl.isMute i := fun i hi =>
    removes.isMute fun hmem => hi (List.mem_singleton.mp hmem)
  cases h with
  | @waits later stuck _ done batch heard isMute hremoves =>
    rw [batch] at hid
    have hdone : ∀ i ∈ done, i ≠ id := fun i hi heq => hid (heq ▸ List.mem_append_left _ hi)
    have hstuck : stuck ≠ id := fun heq => hid (heq ▸ List.mem_append_right _ List.mem_cons_self)
    refine .waits (id :: done) (hbatch.trans (congrArg (id :: ·) batch)) ?_
      (hmute stuck hstuck ▸ isMute) (removes.cons hremoves fun hmem => hdone id hmem rfl)
    exact List.forall_mem_cons.mpr ⟨answered, fun i hi => hmute i (hdone i hi) ▸ heard i hi⟩
  | done heard folds hremoves =>
    have hverdict : (fl₁.store.verdict p rest).map (removed ++ [id] ++ ·) =
        (fl.store.verdict p (id :: rest)).map (removed ++ ·) := by
      rw [Store.verdict_cons_of_live hown hborder hbatch]
      cases fl₁.store.verdict p rest with
      | error f => rfl
      | ok ids => exact congrArg Except.ok (List.append_assoc removed [id] ids)
    rw [hverdict]
    refine .done ?_ ?_ ?_
    · rw [hbatch]
      exact List.forall_mem_cons.mpr
        ⟨answered, fun i hi => hmute i (fun heq => hid (heq ▸ hi)) ▸ heard i hi⟩
    · rw [Store.border_cons rest hown, List.take_succ_cons, afterDeletes, List.foldl_cons, hrun, ← hborder]
      exact folds
    · rw [hbatch]
      exact removes.cons hremoves hid

end Batch

/-- **Removals one after another are a batch**, by induction on the identifiers: the removal of the first leaves
records of which the others are a batch. -/
theorem batch_deleteFrom (v : Service) (p : Principal) : ∀ (ids removed : List RecordId) (fl : Fleet),
    Batch v p ids removed fl ((deleteFrom v p ids removed).run.run fl).1
      ((deleteFrom v p ids removed).run.run fl).2
  | [], removed, fl => by
    have h : Batch v p [] removed fl (.ok (removed ++ [])) fl :=
      .done (List.forall_mem_nil _) rfl (.refl _ fl)
    rw [List.append_nil] at h
    exact h
  | id :: rest, removed, fl => by
    have hremoval := removal_delete v p id fl
    unfold deleteFrom
    rw [Job.run_bind, Job.run_attempt]
    rcases hrun : (delete v p id).run.run fl with ⟨r, fl₁⟩
    have hafter : ((delete v p id).run.run fl).2 = fl₁ := congrArg Prod.snd hrun
    rw [hrun] at hremoval
    dsimp only at hremoval ⊢
    cases hremoval with
    | missing notFound => exact (batch_deleteFrom v p rest removed fl).cons_missing notFound hafter
    | foreign isForeign =>
      have hbatch := Store.batch_cons_of_foreign rest isForeign
      have hfolds : fl = afterDeletes v p fl ((id :: rest).take (fl.store.border p (id :: rest))) := by
        rw [Store.border_cons_of_foreign rest isForeign]
        rfl
      have h : Batch v p (id :: rest) removed fl _ fl :=
        .done (hbatch ▸ List.forall_mem_nil _) hfolds (hbatch ▸ .refl _ fl)
      rw [Store.verdict_cons_of_foreign rest isForeign] at h
      exact h
    | waits found own isMute =>
      obtain ⟨later, hbatch⟩ := Store.batch_cons_of_own rest found own
      exact .waits [] hbatch (List.forall_mem_nil _) isMute (.refl _ fl)
    | done found own answered removes =>
      exact (batch_deleteFrom v p rest (removed ++ [id]) fl₁).cons_done found own answered removes hafter

/-- **A batch of removals is the fold of single removals before its border.** It answers with the workloads it
removed, in the order in which they are named first, or with the refusal at the border; the rows of these
workloads are struck off, their units are taken down, and every other row, record and container is as it was.
The one thing that ends it before is an engine that stays silent when it is opened. -/
theorem deleteMany_folds (v : Service) (p : Principal) (ids : List RecordId) (fl : Fleet) :
    (∃ done id later fl', fl.store.batch p ids = done ++ id :: later ∧ (∀ i ∈ done, fl.isMute i = false) ∧
      fl.isMute id = true ∧ (deleteMany v p ids).run.run fl = (.error .silent, fl') ∧
      fl.Removes v.engine done fl') ∨
    (∀ i ∈ fl.store.batch p ids, fl.isMute i = false) ∧ ∃ fl',
      (deleteMany v p ids).run.run fl = ((fl.store.verdict p ids).mapError .failed, fl') ∧
      fl' = afterDeletes v p fl (ids.take (fl.store.border p ids)) ∧
      fl.Removes v.engine (fl.store.batch p ids) fl' ∧ (fl.store.batch p ids).Nodup ∧
      (∀ i, fl'.store.workloads.find? i =
        if i ∈ fl.store.batch p ids then none else fl.store.workloads.find? i) ∧
      ∀ a unit, unit ∉ (fl.store.unitsAt a (fl.store.batch p ids)).map Prod.fst →
        (fl'.engineAt a).containers.lookup unit = (fl.engineAt a).containers.lookup unit := by
  have h := batch_deleteFrom v p ids [] fl
  rcases hrun : (deleteFrom v p ids []).run.run fl with ⟨r, fl'⟩
  rw [hrun] at h
  cases h with
  | waits done batch answered isMute removes =>
    exact .inl ⟨done, _, _, fl', batch, answered, isMute, hrun, removes⟩
  | done answered folds removes =>
    refine .inr ⟨answered, fl', ?_, folds, removes, nodup_eraseDups _, removes.find?, fun a unit hunit => ?_⟩
    · rw [deleteMany, hrun]
      cases fl.store.verdict p ids <;> rfl
    · rw [removes.engineAt]
      exact Engine.lookup_withoutUnits v.engine _ _ hunit

-- of the caller's one workload, an unknown one and another caller's, the first is removed and the last ends it
example :
    let fl := ((create smallService { userId := 8, isAdmin := false } (smallOrder 1)).run.run
      ((create smallService tenant (smallOrder 1)).run.run sulkingFleet).2).2
    (fl.store.batch tenant [1, 9, 1, 2, 1], fl.store.border tenant [1, 9, 1, 2, 1]) = ([1], 3) := by
  decide +kernel

end Service

end FleetControl
