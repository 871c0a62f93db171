import FleetControl.Proofs.Engine.Plan
import FleetControl.Proofs.Engine.Provision
import FleetControl.Proofs.Number.Unsigned
import FleetControl.Telemetry.Probe

/-!
# The limit that a unit was given

Where a unit shares the memory of its cards, its environment tells the partition library how much of a card
it may use, and telemetry reads the same entry when it can learn nothing better. The one writes a number of
gigabytes with a letter behind it, in an environment whose other entries hold any text that was configured;
the other looks for a key, and takes a letter off the end of what it finds.

**The law** (`limit_read_back`): telemetry reads from a plan's environment the slice that was written there,
and no limit where the slice came to zero or the unit shares no card; and it reads the same from what the
engine reports of a unit that was made from the plan.
-/

namespace FleetControl.Telemetry

open Engine (Plan Inspection)

variable {c : EngineSettings} {n : Node} {s : Spec} {i : Image} {name : String}

/-- What an environment says of the memory that may be used of a card. -/
def limitText? (env : List String) : Option String := Engine.envValue? "CUDA_DEVICE_MEMORY_LIMIT" env

/-- **An environment tells the limit of a unit's plan**: where the unit shares its cards, a text that is read
as the slice, and as nothing if that is zero; otherwise no text at all. -/
def TellsLimit (n : Node) (s : Spec) (i : Image) (env : List String) : Prop :=
  if Plan.isPartitioned n s i then
    ∃ text, limitText? env = some text ∧
      Probe.readLimit? text = if 0 < Plan.slice s then some (Plan.slice s) else none
  else limitText? env = none

/-- **A number of gigabytes is read back**, unless it is zero. -/
theorem readLimit?_gigabytes (gb : UInt64) :
    Probe.readLimit? (toString gb.toNat ++ "g") = if 0 < gb then some gb else none := by
  have hdigits := Number.trimmed_repr gb.toNat
  have htext : (toString gb.toNat ++ "g").toList = gb.toNat.repr.toList ++ ['g'] := String.toList_append
  have hunit : Text.Trimmed (gb.toNat.repr.toList ++ ['g']) :=
    hdigits.join [] (Text.trimmed_of_forall (List.cons_ne_nil _ _) (List.forall_mem_singleton.mpr rfl))
  have hnumber : Text.trim (String.ofList gb.toNat.repr.toList) = gb.toNat.repr := by
    rw [Text.trim, String.toList_ofList, hdigits.strip_eq, String.ofList_toList]
  unfold Probe.readLimit?
  dsimp only
  rw [htext, hunit.strip_eq, List.getLast?_concat, if_pos (beq_self_eq_true _), List.dropLast_concat, hnumber,
    Number.readU64?_repr, Option.filter_some]
  simp only [decide_eq_true_eq]

/-- **The plan of a unit tells its limit.** Where the unit shares no card there is no entry to be read; where it
does, the entry is a number of gigabytes, whatever the other entries hold. -/
theorem tellsLimit_of {p : Plan} (hp : Plan.of? c n s i name = some p) : TellsLimit n s i p.body.env := by
  unfold TellsLimit
  split
  · rename_i hshares
    exact ⟨_, (Plan.hinted_of hp hshares).memory, readLimit?_gigabytes _⟩
  · rename_i hshares
    exact (Plan.unhinted_of hp (Bool.eq_false_iff.mpr hshares)).memory

/-- **Telemetry reads back the limit that was written**, from the plan and from the report of a unit that was
made from it. -/
theorem limit_read_back (c : EngineSettings) (n : Node) (s : Spec) (i : Image) (name : String) (p : Plan)
    (hp : Plan.of? c n s i name = some p) : TellsLimit n s i p.body.env ∧
      ∀ (e : Engine) (id : String) (report : Inspection),
        (e.run (Engine.Unit.provision p)).1 = .ok id →
        ((e.run (Engine.Unit.provision p)).2.answer (.inspect id)).1 = .ok report →
          TellsLimit n s i report.env := by
  have hplan := tellsLimit_of hp
  refine ⟨hplan, fun e id report hmade hreport => ?_⟩
  obtain ⟨body, hbody, hheld⟩ := Engine.Unit.body_provision hmade
  -- the second attempt to create the unit has the environment of the first
  have henv : body.env = p.body.env := by
    rcases hbody with rfl | rfl <;> rfl
  rcases Engine.inspect_cases id (e.run (Engine.Unit.provision p)).2 with ⟨u, hu, hanswer⟩ | ⟨f, hanswer⟩
  · obtain rfl := Option.some.inj (hu.symm.trans hheld)
    obtain rfl := Except.ok.inj (hanswer.symm.trans hreport)
    have hsame : (Engine.report id ⟨p.name, body, "running"⟩).env = p.body.env := henv
    rw [hsame]
    exact hplan
  · cases hanswer.symm.trans hreport

/-- The library's directory in a unit is named as if it were a limit. -/
def oddSettings : EngineSettings := { libraryUnitDir := "/a=b/CUDA_DEVICE_MEMORY_LIMIT=9g/" }

/-- A node with two cards of three gigabytes. -/
def pairNode : Node := { Node.blank .epoch with gpuCount := 2, perCardGb := 3 }

/-- A spec for one card and two gigabytes of it, with a limited file system. -/
def pairSpec : Spec :=
  { Spec.blank .epoch with gpuCount := 1, gpuMemoryGb := 2, systemDiskGb := 50, supportsSplit := true }

def pairImage : Image := { Image.blank .epoch with supportsSplit := true }

/-- A unit with a slice of 2 GB on an engine that knows no limit of file systems: it is created at the second
attempt, and 2 GB are read from its report, whatever the library's directory is called. -/
theorem limit_read_back_shared :
    let e : Engine := { address := "", once := [("create_container", ⟨500, "no quota"⟩)] }
    ∃ p e' report, Plan.of? oddSettings pairNode pairSpec pairImage "u" = some p ∧
      e.run (Engine.Unit.provision p) = (.ok "c1", e') ∧ (e'.answer (.inspect "c1")).1 = .ok report ∧
      ∃ text, limitText? report.env = some text ∧ Probe.readLimit? text = some 2 := by
  intro e
  have hmade : (Plan.of? oddSettings pairNode pairSpec pairImage "u").map
      (fun p => (e.run (Engine.Unit.provision p)).1) = some (.ok "c1") := by
    decide +kernel
  have hanswered : (Plan.of? oddSettings pairNode pairSpec pairImage "u").map
      (fun p => ((e.run (Engine.Unit.provision p)).2.answer (.inspect "c1")).1.isOk) = some true := by
    decide +kernel
  obtain ⟨p, hp, hmade⟩ := Option.map_eq_some_iff.mp hmade
  rw [hp, Option.map_some, Option.some_inj] at hanswered
  cases hreport : ((e.run (Engine.Unit.provision p)).2.answer (.inspect "c1")).1 with
  | error f =>
    rw [hreport] at hanswered
    cases hanswered
  | ok report =>
    have hshares : Plan.isPartitioned pairNode pairSpec pairImage = true := by decide
    have hslice : Plan.slice pairSpec = 2 := by decide
    have htells := (limit_read_back oddSettings pairNode pairSpec pairImage "u" p hp).2 e "c1" report hmade hreport
    rw [TellsLimit, if_pos hshares, hslice] at htells
    exact ⟨p, _, report, hp, Prod.ext hmade rfl, hreport, htells⟩

end FleetControl.Telemetry
