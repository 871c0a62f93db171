import FleetControl.Proofs.Engine.Unit
import FleetControl.Proofs.Fleet.Run

/-!
# Fleets whose engines oblige

Where every engine of a fleet opens and obliges, a unit that is made or taken down does to the stock at
its node's address what `Engine.Unit.stock_provision` and `Engine.Unit.stock_teardown` say, and nothing to
any other (`Job.run_provision`, `Job.run_teardown`). A call that neither makes nor removes containers or
volumes spares all stocks (`Job.spared_onNode`).
-/

namespace FleetControl

namespace Fleet

variable {fl fl' : Fleet} {address : String} {e : Engine}

/-- What the engine at an address holds. -/
def stock (fl : Fleet) (address : String) : Engine.Stock := (fl.engineAt address).stock

/-- **Every engine opens, and refuses no call that looks after units.** -/
structure Obliging (fl : Fleet) : Prop where
  heard : fl.silent = []
  obliges : ∀ address, (fl.engineAt address).Obliges

/-- **The engine at one address became another**; the records are as they were. -/
structure Became (address : String) (e : Engine) (fl fl' : Fleet) : Prop where
  store : fl'.store = fl.store
  silent : fl'.silent = fl.silent
  engineAt : fl'.engineAt = Function.update fl.engineAt address e

/-- **Every engine holds what it held**, and obliges if it did. -/
structure Spared (fl fl' : Fleet) : Prop where
  stock : fl'.stock = fl.stock
  obliging : fl.Obliging → fl'.Obliging

instance : IsPreorder Fleet Spared where
  refl _ := ⟨rfl, id⟩
  trans _ _ _ h h' := ⟨h'.stock.trans h.stock, h'.obliging ∘ h.obliging⟩

/-- The engine at an address is what it is. -/
theorem Became.self (fl : Fleet) (address : String) : fl.Became address (fl.engineAt address) fl :=
  ⟨rfl, rfl, (Function.update_eq_self _ _).symm⟩

/-- To put an engine at an address makes it the engine there, and leaves all the others. -/
theorem became_setEngine (fl : Fleet) (address : String) (e : Engine) :
    fl.Became address e (fl.setEngine address e) where
  store := rfl
  silent := rfl
  engineAt := by
    funext a
    unfold engineAt setEngine
    dsimp only
    rw [Engine.lookup_putKey, Function.update_apply]
    split <;> rfl

/-- The engine at an address becomes another twice, and is the last of them in the end. -/
theorem Became.trans {e' : Engine} {fl'' : Fleet} (h : fl.Became address e fl')
    (h' : fl'.Became address e' fl'') : fl.Became address e' fl'' where
  store := h'.store.trans h.store
  silent := h'.silent.trans h.silent
  engineAt := by rw [h'.engineAt, h.engineAt, Function.update_idem]

/-- Where one engine became another, the stock at its address changed, and no other did. -/
theorem Became.stock (h : fl.Became address e fl') :
    fl'.stock = Function.update fl.stock address e.stock := by
  funext a
  rw [Fleet.stock, h.engineAt, Function.update_apply, Function.update_apply]
  split <;> rfl

/-- A fleet goes on obliging, as long as what its engine became obliges too. -/
theorem Became.obliging (h : fl.Became address e fl') (hfl : fl.Obliging) (he : e.Obliges) :
    fl'.Obliging where
  heard := h.silent.trans hfl.heard
  obliges a := by
    rw [h.engineAt, Function.update_apply]
    split
    · exact he
    · exact hfl.obliges a

/-- An engine that holds what it held, and refuses no more than it did, spares the fleet. -/
theorem Became.spared (h : fl.Became address e fl') (htempered : (fl.engineAt address).Tempered e)
    (hstock : e.stock = fl.stock address) : fl.Spared fl' where
  stock := by rw [h.stock, hstock, Function.update_eq_self]
  obliging hfl := h.obliging hfl ((hfl.obliges address).of_tempered htempered)

end Fleet

namespace Job

open Fleet (Spared)

variable {α β : Type} {fl : Fleet} {n : Node} {c : EngineSettings} {spec : Spec} {i : Image}

/-- **A run of a dialog** with the engine at an address is a run of the dialog against that engine alone; the rest
of the fleet is as it was. The induction is on the calls of the dialog. -/
theorem run_dialog (address : String) : ∀ (d : Engine.Dialog α) (fl : Fleet), ∃ fl',
    (dialog address d).run.run fl = (.ok ((fl.engineAt address).run d).1, fl') ∧
      fl.Became address ((fl.engineAt address).run d).2 fl'
  | .done a, fl => ⟨fl, rfl, .self fl address⟩
  | .ask call next, fl => by
    have hbecame := fl.became_setEngine address ((fl.engineAt address).answer call).2
    obtain ⟨fl', hrun, hrest⟩ := run_dialog address (next ((fl.engineAt address).answer call).1)
      (fl.setEngine address ((fl.engineAt address).answer call).2)
    have hself : (fl.setEngine address ((fl.engineAt address).answer call).2).engineAt address =
        ((fl.engineAt address).answer call).2 := by
      rw [hbecame.engineAt, Function.update_self]
    rw [hself] at hrun hrest
    exact ⟨fl', hrun, hbecame.trans hrest⟩

/-- An engine that has an address and is not silent opens, and nothing is asked of it. -/
theorem run_openEngine (h : n.engineAddress ∉ fl.silent) (hn : n.engineAddress ≠ "") :
    (openEngine n).run.run fl = (.ok n.engineAddress, fl) := by
  unfold openEngine
  rw [if_neg (by simpa using hn), run_bind_of_ok (run_look _ fl), if_neg (by simpa using h)]
  rfl

/-- A node without an address has no engine to open; the configuration is incomplete. -/
theorem run_openEngine_empty (hn : n.engineAddress = "") :
    (openEngine n).run.run fl = (.error (.failed (.incomplete "engine address is empty")), fl) := by
  unfold openEngine
  rw [if_pos (by simpa using hn)]
  rfl

/-- An engine that stays silent is waited for, and nothing is asked of it. -/
theorem run_openEngine_silent (hn : n.engineAddress ≠ "") (h : n.engineAddress ∈ fl.silent) :
    (openEngine n).run.run fl = (.error .silent, fl) := by
  unfold openEngine
  rw [if_neg (by simpa using hn), run_bind_of_ok (run_look _ fl), if_pos (by simpa using h)]
  rfl

/-- **An engine is opened**, or it has no address, or it stays silent. -/
theorem run_openEngine_cases (n : Node) (fl : Fleet) :
    (∃ e, (openEngine n).run.run fl = (.error e, fl)) ∨
      n.engineAddress ≠ "" ∧ (openEngine n).run.run fl = (.ok n.engineAddress, fl) := by
  by_cases hn : n.engineAddress = ""
  · exact .inl ⟨_, run_openEngine_empty hn⟩
  by_cases h : n.engineAddress ∈ fl.silent
  · exact .inl ⟨.silent, run_openEngine_silent hn h⟩
  · exact .inr ⟨hn, run_openEngine h hn⟩

/-- **Making a unit is a dialog with its node's engine**, once that is open and there is a plan. -/
theorem run_provision_dialog {name : String} {p : Engine.Plan}
    (hopened : (openEngine n).run.run fl = (.ok n.engineAddress, fl))
    (hplan : Engine.Plan.of? c n spec i name = some p) : ∃ fl', (provision c n spec i name).run.run fl =
      (((fl.engineAt n.engineAddress).run (Engine.Unit.provision p)).1.mapError .failed, fl') ∧
      fl.Became n.engineAddress ((fl.engineAt n.engineAddress).run (Engine.Unit.provision p)).2 fl' := by
  obtain ⟨fl', hdialog, hbecame⟩ := run_dialog n.engineAddress (Engine.Unit.provision p) fl
  refine ⟨fl', ?_, hbecame⟩
  unfold provision
  rw [run_bind_of_ok hopened, hplan, run_bind_of_ok (run_fitting _ fl), run_bind_of_ok hdialog, run_ofExcept]

/-- **Where a number of the plan does not fit, nothing is asked of the engine**, which is open by then; the job
ends with the overflow. -/
theorem run_provision_overflow {name : String} (hopened : (openEngine n).run.run fl = (.ok n.engineAddress, fl))
    (hplan : Engine.Plan.of? c n spec i name = none) :
    (provision c n spec i name).run.run fl = (.error .overflow, fl) := by
  unfold provision
  rw [run_bind_of_ok hopened, hplan, run_bind_of_error (run_fitting _ fl)]

/-- **What making a unit leaves of the stocks**: one container more, or no container; the plan's volume
is there in any case. -/
theorem run_provision {name : String} {p : Engine.Plan} (h : fl.Obliging) (hn : n.engineAddress ≠ "")
    (hnew : (fl.stock n.engineAddress).unit? (fl.stock n.engineAddress).nextId = none)
    (hplan : Engine.Plan.of? c n spec i name = some p) :
    ∃ r e fl', (provision c n spec i name).run.run fl = (r, fl') ∧ fl.Became n.engineAddress e fl' ∧ e.Obliges ∧
      (r = .ok (fl.stock n.engineAddress).nextId ∧
        e.stock = ((fl.stock n.engineAddress).provided (Engine.Plan.dataVolume c spec name)).withUnit name
          p.body.volumes ∨
      (∃ f, r = .error (.failed f)) ∧ ∃ given, (fl.stock n.engineAddress).given ≤ given ∧
        e.stock = { (fl.stock n.engineAddress).provided (Engine.Plan.dataVolume c spec name) with
          given := given }) := by
  have he := h.obliges n.engineAddress
  have hdescribes := Engine.Plan.describes_of? hplan
  obtain ⟨fl', hrun, hbecame⟩ := run_provision_dialog (run_openEngine (h.heard ▸ List.not_mem_nil) hn) hplan
  refine ⟨_, _, fl', hrun, hbecame, he.of_tempered (Engine.tempered_run _ _), ?_⟩
  rw [← hdescribes.volume, ← hdescribes.name]
  rcases Engine.Unit.stock_provision he hnew p with ⟨hr, hs⟩ | ⟨⟨f, hr⟩, hs⟩
  · rw [hr]
    exact .inl ⟨rfl, hs⟩
  · rw [hr]
    exact .inr ⟨⟨f, rfl⟩, hs⟩

/-- A unit that is made was made by its node's engine, from the plan that there was for it: so the node has an
address, and the fleet differs by what the dialog did to this one engine. -/
theorem run_provision_ok {name unit : String} {fl' : Fleet}
    (h : (provision c n spec i name).run.run fl = (.ok unit, fl')) :
    n.engineAddress ≠ "" ∧ ∃ p, Engine.Plan.of? c n spec i name = some p ∧
      ((fl.engineAt n.engineAddress).run (Engine.Unit.provision p)).1 = .ok unit ∧
      fl.Became n.engineAddress ((fl.engineAt n.engineAddress).run (Engine.Unit.provision p)).2 fl' := by
  rcases run_openEngine_cases n fl with ⟨e, he⟩ | ⟨hn, hopened⟩
  · unfold provision at h
    rw [run_bind_of_error he] at h
    cases h
  cases hplan : Engine.Plan.of? c n spec i name with
  | none =>
    rw [run_provision_overflow hopened hplan] at h
    cases h
  | some p =>
    obtain ⟨fl'', hrun, hbecame⟩ := run_provision_dialog hopened hplan
    obtain ⟨hr, rfl⟩ := Prod.mk.inj (hrun.symm.trans h)
    refine ⟨hn, p, rfl, ?_, hbecame⟩
    cases hmade : ((fl.engineAt n.engineAddress).run (Engine.Unit.provision p)).1 with
    | error f =>
      rw [hmade] at hr
      cases hr
    | ok unit' =>
      rw [hmade] at hr
      rw [Except.ok.inj hr]

/-- Taking a unit down is a dialog with its node's engine, once that is open. -/
theorem run_teardown_dialog (h : n.engineAddress ∉ fl.silent) (hn : n.engineAddress ≠ "")
    (c : EngineSettings) (unit : String) (name : Option String) :
    ∃ fl', (teardown c n unit name).run.run fl = (.ok (), fl') ∧ fl.Became n.engineAddress
      ((fl.engineAt n.engineAddress).run (Engine.Unit.teardown c unit name)).2 fl' := by
  obtain ⟨fl', hdialog, hbecame⟩ := run_dialog n.engineAddress (Engine.Unit.teardown c unit name) fl
  refine ⟨fl', ?_, hbecame⟩
  unfold teardown
  rw [run_bind_of_ok (run_openEngine h hn), hdialog]

/-- **A unit that is taken down** takes its container and the volumes with it, on an engine that obliges; and the
engine obliges as before. -/
theorem run_teardown (h : fl.Obliging) (hn : n.engineAddress ≠ "") (c : EngineSettings) (unit : String)
    (name : Option String) : ∃ e fl', (teardown c n unit name).run.run fl = (.ok (), fl') ∧
      fl.Became n.engineAddress e fl' ∧ e.Obliges ∧
      e.stock = (fl.stock n.engineAddress).takenDown unit name := by
  have he := h.obliges n.engineAddress
  obtain ⟨fl', hrun, hbecame⟩ :=
    run_teardown_dialog (h.heard ▸ List.not_mem_nil) hn c unit name
  exact ⟨_, fl', hrun, hbecame, he.of_tempered (Engine.tempered_run _ _),
    Engine.Unit.stock_teardown he c unit name⟩

/-! ## What spares the stocks -/

/-- A call that neither makes nor removes containers or volumes spares every stock. -/
theorem spared_call {address : String} {call : Engine.Call α} (hstill : call.isStill = true) :
    Leads Spared (Job.call address call) := by
  refine leads_tryAct fun fl => ?_
  exact (fl.became_setEngine address _).spared (Engine.tempered_answer call _)
    (Engine.stock_answer_of_isStill hstill _)

/-- The same for such a call to the engine of a node, whether that opens or not. -/
theorem spared_onNode (n : Node) {call : Engine.Call α} (hstill : call.isStill = true) :
    Leads Spared (onNode n call) :=
  leads_bind (leads_openEngine n) fun _ => spared_call hstill

/-- A change of records spares every stock. -/
theorem spared_write {ρ F P : Type} [Record ρ F P] (shelf : Shelf ρ)
    (f : Time.Instant → Repository ρ → Except Failure α × Repository ρ) : Leads Spared (write shelf f) :=
  leads_tryAct fun _ => ⟨rfl, fun h => ⟨h.heard, h.obliges⟩⟩

end Job

end FleetControl
