import FleetControl.Proofs.Fleet.Purse
import FleetControl.Proofs.Telemetry.Collector

/-!
# What a sample asks of an engine

The number of processors and all probes share one inspection of a unit. A search that has not inspected
yet must be able to pay for an inspection, and one that has, whatever came of it, needs nothing more
(`Search.Funded`). So the search pays for one inspection at most (`Search.spends_gpuMemory`), and a whole
sample for that and for one reading of frames (`Collector.spends_collect`), whichever of the two ways it
goes.
-/

namespace FleetControl.Telemetry

open Engine (times toll)
open Job

variable {address word : String} {purse : Nat}

namespace Search

variable {s : Search}

/-- **A search of an engine can pay for its inspection**, if it still has to make it. -/
structure Funded (address word : String) (purse : Nat) (s : Search) : Prop where
  address : s.address = address
  unasked : s.inspected = none → toll word "inspect" ≤ purse

/-- **The inspection is paid for once**: afterwards the search has asked. -/
theorem spends_inspection (h : s.Funded address word purse) :
    s.inspection.Spends address word purse fun x rest => x.2.Funded address word rest := by
  unfold inspection
  split
  · exact spends_pure h
  · rename_i hasked
    rw [h.address]
    refine spends_bind (spends_attempt_call (h.unasked hasked)) fun r rest _ => spends_pure ?_
    exact ⟨rfl, nofun⟩

/-- A look at the environment of a unit pays for the inspection, unless that was made before. -/
theorem spends_env (h : s.Funded address word purse) (key : String) :
    (s.env key).Spends address word purse fun x rest => x.2.Funded address word rest :=
  spends_bind (spends_inspection h) fun _ _ hrest => spends_pure hrest

/-- A query is a program of the host, so no engine notes anything. -/
theorem leads_query (args : List String) : (s.query args).Leads (Fleet.Noted address []) :=
  leads_bind (fun fl => fl.noted_host _) fun _ => leads_pure _

/-- Nor does one when the query is made again for all cards. -/
theorem leads_queryHost (args : List String) : (s.queryHost args).Leads (Fleet.Noted address []) := by
  refine leads_bind (leads_query args) fun found => ?_
  split
  · exact leads_pure _
  · split
    · exact leads_query _
    · exact leads_pure _

/-- A command in the unit is a call of a kind of its own, so a probe pays for an inspection at most. -/
theorem spends_probe (hword : word ≠ "exec_output") (h : s.Funded address word purse) :
    ∀ p : Probe, (s.probe p).Spends address word purse fun x rest => x.2.Funded address word rest
  | .container _ command => by
    have hfree : toll word (Engine.Call.output s.unit command).word = 0 := if_neg (Ne.symm hword)
    obtain rfl := h.address
    refine spends_bind (spends_attempt_call (hfree.trans_le purse.zero_le)) ?_
    rintro r _ rfl
    rw [hfree]
    exact spends_pure h
  | .host => by
    refine spends_bind (spends_env h _) fun ⟨visible, s'⟩ rest hrest => ?_
    dsimp only
    split
    · exact spends_pure hrest
    · exact spends_bind_of_leads (leads_queryHost _) (fun _ _ _ => trivial) fun _ _ => spends_pure hrest
  | .memoryLimit => spends_bind (spends_env h _) fun _ _ hrest => spends_pure hrest
  | .fixed _ => spends_pure h

/-- **A search makes one inspection at most**, whichever probes it tries. -/
theorem spends_gpuMemory (hword : word ≠ "exec_output") : ∀ (probes : List Probe) {s : Search} {purse : Nat},
    s.Funded address word purse → (s.gpuMemory probes).Spends address word purse fun _ _ => True
  | [], _, _, _ => spends_pure trivial
  | p :: rest, s, purse, h => by
    refine spends_bind (spends_probe hword h p) fun found left hleft => ?_
    split
    · exact spends_pure trivial
    · exact spends_gpuMemory hword rest hleft

end Search

namespace Collector

variable {c : Collector} {n : Node} {unit : String} {s : Search}

/-- A search that begins with the price of one inspection can pay for it. -/
theorem funded_search (h : toll word "inspect" ≤ purse) :
    (c.search address unit).Funded address word purse := ⟨rfl, fun _ => h⟩

/-- The number of processors costs an inspection at most, and none where one was made before. -/
theorem spends_cpusOf (h : s.Funded address word purse) :
    (cpusOf s).Spends address word purse fun x rest => x.2.Funded address word rest :=
  spends_bind (Search.spends_inspection h) fun _ _ hrest => spends_pure hrest

/-- The engine is asked for the number of processors where a frame does not show it. -/
theorem spends_spareCpus (frame : Engine.Frame) (h : s.Funded address word purse) :
    (if frameCpus frame = 0 then cpusOf s else pure (0, s)).Spends address word purse
      fun x rest => x.2.Funded address word rest := by
  split
  · exact spends_cpusOf h
  · exact spends_pure h

/-- **What frames do not show** costs one inspection, the number of processors and the memory of the cards
together. -/
theorem spends_complete (hword : word ≠ "exec_output") (h : toll word "inspect" ≤ purse) (stats : Stats) :
    (c.complete address unit stats).Spends address word purse fun _ _ => True :=
  spends_bind (spends_cpusOf (funded_search h)) fun _ _ hrest =>
    spends_bind (Search.spends_gpuMemory hword _ hrest) fun _ _ _ => spends_pure trivial

/-- **A sample of frames** costs one reading of them and what is needed to complete it. -/
theorem spends_sampleFrames (hword : word ≠ "exec_output") :
    (c.sampleFrames address unit).Spends address word (toll word "stats" + toll word "inspect")
      fun _ _ => True := by
  refine spends_bind (spends_call (Nat.le_add_right _ _)) ?_
  rintro frames _ rfl
  have hleft : toll word "inspect" ≤ toll word "stats" + toll word "inspect" - toll word "stats" :=
    (Nat.add_sub_cancel_left _ _).ge
  split
  · exact spends_fail _
  · dsimp only
    rw [choice_bind]
    exact spends_bind (spends_spareCpus _ (funded_search hleft)) fun _ _ hrest =>
      spends_bind (Search.spends_gpuMemory hword _ hrest) fun _ _ _ => spends_pure trivial

/-- **A sample pays for one reading of frames and one inspection**, to the engine of the node alone. Where the
command line gives the sample, no frames are read. -/
theorem spends_collect (hword : word ≠ "exec_output") :
    (c.collect n unit).Spends n.engineAddress word (toll word "stats" + toll word "inspect")
      fun _ _ => True := by
  have hinspect : toll word "inspect" ≤ toll word "stats" + toll word "inspect" := Nat.le_add_left _ _
  unfold collect
  dsimp only
  rw [choice_bind]
  have hsample : Leads (Fleet.Noted n.engineAddress []) (if c.samplesCommandLine
      then attempt (c.sample n unit)
      else pure (.error (.internal "no command line is sampled"))) := by
    split
    · exact leads_attempt (leads_sample Fleet.noted_host)
    · exact leads_pure _
  refine spends_bind_of_leads hsample (fun _ _ _ => trivial) fun sampled _ => ?_
  split
  · exact spends_attempt_openEngine (spends_complete hword hinspect _) fun _ => spends_pure trivial
  · exact spends_openEngine (spends_sampleFrames hword)

/-- **A sample makes at most one inspection and reads frames at most once**, at the node's engine; the
other engines, the clock and the cache are left alone. -/
theorem collect_noted (c : Collector) (n : Node) (unit : String) (fl : Fleet) :
    ∃ lines, Fleet.Noted n.engineAddress lines fl ((c.collect n unit).run.run fl).2 ∧
      times "inspect" lines ≤ 1 ∧ times "stats" lines ≤ 1 := by
  obtain ⟨lines, hnoted, hinspect, -⟩ := spends_collect (by decide : "inspect" ≠ "exec_output") fl
  obtain ⟨lines', hnoted', hstats, -⟩ := spends_collect (by decide : "stats" ≠ "exec_output") fl
  obtain rfl : lines = lines' := List.append_cancel_left (hnoted.calls.symm.trans hnoted'.calls)
  exact ⟨lines, hnoted, hinspect, hstats⟩

end Collector

end FleetControl.Telemetry
