import FleetControl.Proofs.Fleet.Refusal
import FleetControl.Telemetry.Collector

/-!
# Collecting statistics changes no record

Statistics come from the cache, from a program of the host, or from an engine, and none of these ways
touches a record (`Collector.keeps_stats`). Collecting refuses only where the engine does not open, and
then nothing was asked of an engine before (`Collector.refuses_stats`): the command line, which is tried
first, is a program of the host.
-/

namespace FleetControl.Telemetry

open Job

namespace Search

variable {s : Search}

/-- An inspection that fails is taken for one that tells nothing, so there is nothing to refuse. -/
theorem watches_inspection : s.inspection.Watches := by
  unfold inspection
  split
  · exact watches_pure _
  · exact watches_bind (watches_attempt keeps_call) fun _ => watches_pure _

/-- The environment of a unit is read off that inspection. -/
theorem watches_env (key : String) : (s.env key).Watches :=
  watches_bind watches_inspection fun _ => watches_pure _

/-- A query of the host that fails tells nothing. -/
theorem watches_query (args : List String) : (s.query args).Watches :=
  watches_bind (watches_act fun _ => rfl) fun _ => watches_pure _

theorem watches_queryHost (args : List String) : (s.queryHost args).Watches := by
  refine watches_bind (watches_query args) fun found => ?_
  split
  · exact watches_pure _
  · split
    · exact watches_query _
    · exact watches_pure _

/-- **A probe refuses nothing**: one that does not apply, or fails, knows nothing. -/
theorem watches_probe : ∀ p : Probe, (s.probe p).Watches
  | .container _ _ => watches_bind (watches_attempt keeps_call) fun _ => watches_pure _
  | .host => by
    refine watches_bind (watches_env _) fun ⟨visible, s⟩ => ?_
    dsimp only
    split
    · exact watches_pure _
    · exact watches_bind (watches_queryHost _) fun _ => watches_pure _
  | .memoryLimit => watches_bind (watches_env _) fun _ => watches_pure _
  | .fixed _ => watches_pure _

/-- **A search looks at one probe after another**, and refuses nothing. -/
theorem watches_gpuMemory : ∀ (probes : List Probe) (s : Search), (s.gpuMemory probes).Watches
  | [], _ => watches_pure _
  | p :: rest, s => by
    refine watches_bind (watches_probe p) fun found => ?_
    split
    · exact watches_pure _
    · exact watches_gpuMemory rest _

end Search

namespace Collector

variable {c : Collector} {n : Node} {unit : String} {s : Store}

/-- A choice between two jobs, and a third after either, is the choice and then the third. -/
theorem choice_bind {α β : Type} (P : Prop) [Decidable P] (t u : Job β) (f : β → Job α) :
    (if P then t >>= f else u >>= f) = (if P then t else u) >>= f := by
  split <;> rfl

/-- The number of processors is zero where the engine cannot say. -/
theorem watches_cpusOf (s : Search) : (cpusOf s).Watches :=
  watches_bind Search.watches_inspection fun _ => watches_pure _

/-- **A sample is completed by what can be found**, and is not refused where nothing can. -/
theorem watches_complete (address : String) (stats : Stats) : (c.complete address unit stats).Watches :=
  watches_bind (watches_cpusOf _) fun _ => watches_bind (Search.watches_gpuMemory _ _) fun _ =>
    watches_pure _

/-- Frames that do not come are a failure, but not a refusal. -/
theorem watches_sampleFrames (address : String) : (c.sampleFrames address unit).Watches := by
  refine watches_bind watches_call fun frames => ?_
  split
  · exact watches_fail rfl
  · dsimp only
    rw [choice_bind]
    refine watches_bind ?_ fun _ => watches_bind (Search.watches_gpuMemory _ _) fun _ => watches_pure _
    split
    · exact watches_cpusOf _
    · exact watches_pure _

theorem watches_keep (key : String) (stats : Stats) : (keep key stats).Watches :=
  watches_act fun _ => rfl

/-- The command line of the host changes no record. -/
theorem keeps_sample : (c.sample n unit).Keeps := by
  unfold sample
  dsimp only
  rw [choice_bind]
  refine preserves_bind ?_ fun credentials => ?_
  · split
    · exact preserves_bind (preserves_ofExcept _) fun _ => preserves_pure _
    · exact preserves_pure _
  · refine preserves_bind (preserves_bind (keeps_act fun _ => rfl) preserves_ofExcept) fun output => ?_
    split
    · exact preserves_fail _
    · split
      · exact preserves_pure _
      · exact preserves_fail _

/-- The command line is a program of the host: nothing but the host changes. -/
theorem leads_sample {R : Fleet → Fleet → Prop} [IsPreorder Fleet R]
    (hhost : ∀ fl host, R fl { fl with host }) : (c.sample n unit).Leads R := by
  unfold sample
  dsimp only
  rw [choice_bind]
  refine leads_bind ?_ fun credentials => ?_
  · split
    · exact leads_bind (leads_ofExcept _) fun _ => leads_pure _
    · exact leads_pure _
  · refine leads_bind (leads_tryAct fun fl => hhost fl _) fun output => ?_
    split
    · exact leads_fail _
    · split
      · exact leads_pure _
      · exact leads_fail _

/-- The command line asks for nothing of an engine through the service, and no record is touched. -/
theorem idle_sample : (c.sample n unit).Idle := leads_sample fun _ _ => ⟨rfl, rfl⟩

/-- Neither way to a sample changes a record. -/
theorem keeps_collect : (c.collect n unit).Keeps := by
  unfold collect
  dsimp only
  rw [choice_bind]
  refine preserves_bind ?_ fun sampled => ?_
  · split
    · exact preserves_attempt keeps_sample
    · exact preserves_pure _
  · split
    · refine preserves_bind (preserves_attempt (keeps_openEngine n)) fun opened => ?_
      split
      · exact (watches_complete _ _).keeps
      · exact preserves_pure _
    · exact preserves_bind (keeps_openEngine n) fun _ => (watches_sampleFrames _).keeps

/-- **Collecting statistics changes no record**, whichever way the sample comes and whether or not it is kept. -/
theorem keeps_stats : (c.stats n unit).Keeps := by
  unfold stats
  split
  · exact preserves_fail _
  · refine preserves_bind (keeps_look _) fun kept => ?_
    split
    · exact preserves_pure _
    · exact preserves_bind keeps_collect fun _ => preserves_bind (watches_keep _ _).keeps fun _ =>
        preserves_pure _

/-- **Only an engine that does not open refuses a sample**, before anything was asked of it. -/
theorem refuses_collect : (c.collect n unit).Refuses s := by
  unfold collect
  dsimp only
  rw [choice_bind]
  refine refuses_bind ?_ fun sampled _ => ?_
  · split
    · exact leads_attempt idle_sample
    · exact leads_pure _
  · split
    · refine refuses_bind (leads_attempt (leads_openEngine n)) fun opened _ => ?_
      split
      · exact (watches_complete _ _).refuses s
      · exact Idle.refuses (leads_pure _) s
    · exact refuses_bind (leads_openEngine n) fun _ _ => (watches_sampleFrames _).refuses s

/-- **A refusal to collect statistics comes before an engine is asked anything.** -/
theorem refuses_stats : (c.stats n unit).Refuses s := by
  unfold stats
  split
  · exact Idle.refuses (leads_fail _) s
  · refine refuses_bind (leads_look _) fun kept _ => ?_
    split
    · exact Idle.refuses (leads_pure _) s
    · refine refuses_bind_of_yields refuses_collect fun stats z g s' _ hy => ?_
      exact (watches_bind (watches_keep _ _) fun _ => watches_pure _).not_refusal hy

end Collector

end FleetControl.Telemetry
