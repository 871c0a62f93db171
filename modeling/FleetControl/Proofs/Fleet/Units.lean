import FleetControl.Proofs.Engine.Provision
import FleetControl.Proofs.Engine.Teardown
import FleetControl.Proofs.Fleet.Upkeep

/-!
# Units on engines that may fail

An operation on a unit opens the engine of a node and then has its dialog with it. Where the node has no
address the operation fails, and where the engine stays silent it waits, each time before anything is asked
(`run_opened_cases`); nor is anything asked where a number of a unit's plan does not fit. Once the engine is
open, what it may be set to fail decides how the dialog goes on:

* a unit is made or not, and a container is left behind only where its removal fails too
  (`provision_all_or_nothing`);
* a unit is taken down to the end (`teardown_goes_on`).

Nothing is assumed of the engine but that the identifier it gives out next is not in use.
-/

namespace FleetControl.Job

open Engine (Dialog Plan)

variable {α : Type} {fl : Fleet} {n : Node}

/-- **A job that opens an engine** fails at once for want of an address, or waits for a silent engine, or goes on
with the address; in all three cases nothing was asked of the engine so far. -/
theorem run_opened_cases (n : Node) (f : String → Job α) (fl : Fleet) :
    (n.engineAddress = "" ∧ (openEngine n >>= f).run.run fl =
      (.error (.failed (.incomplete "engine address is empty")), fl)) ∨
    (n.engineAddress ≠ "" ∧ n.engineAddress ∈ fl.silent ∧
      (openEngine n >>= f).run.run fl = (.error .silent, fl)) ∨
    n.engineAddress ≠ "" ∧ n.engineAddress ∉ fl.silent ∧
      (openEngine n >>= f).run.run fl = (f n.engineAddress).run.run fl := by
  by_cases hn : n.engineAddress = ""
  · exact .inl ⟨hn, run_bind_of_error (run_openEngine_empty hn)⟩
  by_cases h : n.engineAddress ∈ fl.silent
  · exact .inr (.inl ⟨hn, h, run_bind_of_error (run_openEngine_silent hn h)⟩)
  · exact .inr (.inr ⟨hn, h, run_bind_of_ok (run_openEngine h hn)⟩)

/-- A node with an engine. -/
def balkyNode : Node := { Node.blank .epoch with engineAddress := "balky" }

/-- A spec with disks, so that a unit has a volume and a limited file system. -/
def diskSpec : Spec := { Spec.blank .epoch with systemDiskGb := 1, dataDiskGb := 1 }

/-- What is asked for a unit of it: a volume, which the container mounts, and a file system of one gigabyte. -/
def diskPlan : Plan :=
  { name := "u"
    volume := some ⟨"u-data", Plan.labels {} "u"⟩
    body :=
      { image := ""
        labels := Plan.labels {} "u"
        host := { nanoCpus := 0, memory := 0, mounts := [.volume "u-data" ({} : EngineSettings).dataMountPath]
                  storage := some [("overlay2.size", "1G")] } } }

/-- **An engine that refuses** the next call of some kinds. -/
def balkyFleet (kinds : List String) (containers : List (String × Engine.Container)) : Fleet :=
  { store := .empty, now := .epoch, cache := { ttl := 0 }
    engines := [("balky", { address := "balky", containers := containers
                            once := kinds.map fun kind => (kind, ⟨500, "busy"⟩) })] }

/-- **Making a unit is all or nothing for containers**, whatever the engine fails, once it is open and there is a
plan. -/
theorem provision_all_or_nothing (fl : Fleet) (c : EngineSettings) (n : Node) (spec : Spec) (i : Image)
    (name : String) (hnew : (fl.engineAt n.engineAddress).containers.lookup
      (fl.engineAt n.engineAddress).stock.nextId = none) :
    (n.engineAddress = "" ∧ (provision c n spec i name).run.run fl =
      (.error (.failed (.incomplete "engine address is empty")), fl)) ∨
    (n.engineAddress ≠ "" ∧ n.engineAddress ∈ fl.silent ∧
      (provision c n spec i name).run.run fl = (.error .silent, fl)) ∨
    (n.engineAddress ≠ "" ∧ n.engineAddress ∉ fl.silent ∧ Plan.of? c n spec i name = none ∧
      (provision c n spec i name).run.run fl = (.error .overflow, fl)) ∨
    n.engineAddress ≠ "" ∧ n.engineAddress ∉ fl.silent ∧ ∃ p xs r e fl',
      Plan.of? c n spec i name = some p ∧
      (provision c n spec i name).run.run fl = (Except.mapError .failed r, fl') ∧
      fl.Became n.engineAddress e fl' ∧
      xs = (fl.engineAt n.engineAddress).exchanges (Engine.Unit.provision p) ∧
      e.calls = (fl.engineAt n.engineAddress).calls ++ xs.map (·.call.line) ∧
      Engine.Unit.AllOrNothing p (fl.engineAt n.engineAddress) xs r e := by
  refine (run_opened_cases n _ fl).imp_right (Or.imp_right fun ⟨hn, hopen, _⟩ => ?_)
  have hopened := run_openEngine hopen hn
  cases hplan : Plan.of? c n spec i name with
  | none => exact .inl ⟨hn, hopen, rfl, run_provision_overflow hopened hplan⟩
  | some p =>
    obtain ⟨fl', hrun, hbecame⟩ := run_provision_dialog hopened hplan
    exact .inr ⟨hn, hopen, p, _, _, _, fl', rfl, hrun, hbecame, rfl, Engine.calls_run _ _,
      Engine.Unit.allOrNothing_provision hnew p⟩

/-- A container that is refused its limit, does not start and cannot be removed is left as it was created. -/
theorem provision_leaves_container :
    let fl := balkyFleet ["create_container", "start", "remove"] []
    (fl.engineAt balkyNode.engineAddress).containers.lookup
      (fl.engineAt balkyNode.engineAddress).stock.nextId = none ∧
    Plan.of? {} balkyNode diskSpec (Image.blank .epoch) "u" = some diskPlan ∧
    ∃ fl', (provision {} balkyNode diskSpec (Image.blank .epoch) "u").run.run fl =
        (.error (.failed (.provision "start container: Engine returned 500: busy")), fl') ∧
      (fl'.engineAt "balky").containers = [("c1", ⟨"u", diskPlan.body.withoutStorageLimit, "created"⟩)] := by
  intro fl
  have hnew : (fl.engineAt balkyNode.engineAddress).containers.lookup
      (fl.engineAt balkyNode.engineAddress).stock.nextId = none := rfl
  have hdisk : Plan.of? {} balkyNode diskSpec (Image.blank .epoch) "u" = some diskPlan := by decide +kernel
  refine ⟨hnew, hdisk, ?_⟩
  rcases provision_all_or_nothing fl {} balkyNode diskSpec (Image.blank .epoch) "u" hnew with
    ⟨hempty, _⟩ | ⟨_, hsilent, _⟩ | ⟨_, _, hnone, _⟩ | ⟨_, _, p, xs, r, e, fl', hplan, hrun, hbecame, hxs, _, h⟩
  · exact absurd hempty (by decide)
  · exact absurd hsilent List.not_mem_nil
  · cases hnone.symm.trans hdisk
  · obtain rfl := Option.some.inj (hplan.symm.trans hdisk)
    have hfailed : ((provision {} balkyNode diskSpec (Image.blank .epoch) "u").run.run fl).1 =
        .error (.failed (.provision "start container: Engine returned 500: busy")) := by
      decide +kernel
    have hremoval : xs.filterMap Engine.Exchange.removal? = [.error (.engine 500 "busy")] := by
      rw [hxs]
      decide +kernel
    have hbody : Engine.Unit.lastBody diskPlan xs = diskPlan.body.withoutStorageLimit := by
      rw [hxs]
      decide +kernel
    have hengine : fl'.engineAt "balky" = e := by
      rw [hbecame.engineAt]
      exact Function.update_self _ _ _
    rw [hrun] at hfailed
    cases r with
    | ok id => cases hfailed
    | error f =>
      have hleft := h.left f (.engine 500 "busy") rfl (hremoval ▸ List.mem_singleton_self _)
      refine ⟨fl', hrun.trans (congrArg (·, fl') hfailed), ?_⟩
      have hid : (fl.engineAt balkyNode.engineAddress).stock.nextId = "c1" := by decide +kernel
      rw [hengine, hleft, hbody, hid]
      rfl

/-- **Taking a unit down goes on to its end**, whatever the engine fails, once it is open. -/
theorem teardown_goes_on (fl : Fleet) (c : EngineSettings) (n : Node) (unit : String) (name : Option String)
    (hn : n.engineAddress ≠ "") :
    (n.engineAddress ∈ fl.silent ∧ (teardown c n unit name).run.run fl = (.error .silent, fl)) ∨
    n.engineAddress ∉ fl.silent ∧ ∃ xs volumes e fl',
      (teardown c n unit name).run.run fl = (.ok (), fl') ∧ fl.Became n.engineAddress e fl' ∧
      xs = (fl.engineAt n.engineAddress).exchanges (Engine.Unit.teardown c unit name) ∧
      e.calls = (fl.engineAt n.engineAddress).calls ++ xs.map (·.call.line) ∧
      Engine.Unit.GoesOn c unit name (fl.engineAt n.engineAddress) xs volumes e := by
  rcases run_opened_cases n _ fl with ⟨hempty, _⟩ | ⟨_, hsilent, hrun⟩ | ⟨_, hopen, hrun⟩
  · exact absurd hempty hn
  · exact .inl ⟨hsilent, hrun⟩
  · obtain ⟨fl', hdialog, hbecame⟩ := run_dialog n.engineAddress (Engine.Unit.teardown c unit name) fl
    exact .inr ⟨hopen, _, _, _, fl', hrun.trans hdialog, hbecame, rfl, Engine.calls_run _ _,
      Engine.Unit.goesOn_teardown c unit name (fl.engineAt n.engineAddress)⟩

/-- An engine that refuses to report, to stop and to remove a unit is asked for all of it, and for the volume that
the unit's name stands for; its other container stays. -/
theorem teardown_goes_on_balky :
    let fl := balkyFleet ["inspect", "stop", "remove", "remove_volume"]
      [("c1", ⟨"u", { image := "" }, "running"⟩), ("c2", ⟨"v", { image := "" }, "running"⟩)]
    balkyNode.engineAddress ≠ "" ∧ ∃ fl', (teardown {} balkyNode "c1" (some "u")).run.run fl = (.ok (), fl') ∧
      (fl'.engineAt "balky").calls =
        ["inspect c1", "stop c1 10", "remove c1 force=true v=true", "remove_volume u-data"] ∧
      (fl'.engineAt "balky").containers.filter (fun x => x.1 != "c1") =
        [("c2", ⟨"v", { image := "" }, "running"⟩)] := by
  intro fl
  have hn : balkyNode.engineAddress ≠ "" := by decide
  refine ⟨hn, ?_⟩
  rcases teardown_goes_on fl {} balkyNode "c1" (some "u") hn with
    ⟨hsilent, _⟩ | ⟨_, xs, volumes, e, fl', hrun, hbecame, hxs, hcalls, h⟩
  · exact absurd hsilent List.not_mem_nil
  · have hlines : xs.map (·.call.line) =
        ["inspect c1", "stop c1 10", "remove c1 force=true v=true", "remove_volume u-data"] := by
      rw [hxs]
      decide +kernel
    have hengine : fl'.engineAt "balky" = e := by
      rw [hbecame.engineAt]
      exact Function.update_self _ _ _
    refine ⟨fl', hrun, ?_, ?_⟩
    · rw [hengine, hcalls, hlines]
      rfl
    · rw [hengine]
      exact h.spared.containers.trans (by decide +kernel)

end FleetControl.Job
