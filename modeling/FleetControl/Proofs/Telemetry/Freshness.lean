import FleetControl.Proofs.Telemetry.Cache
import FleetControl.Proofs.Telemetry.Calls

/-!
# How long a sample is kept

A sample that was taken is given out for `ttl` seconds and no longer, whatever else is asked meanwhile
(`Collector.stats_sparing`). Between two requests the clock may go on, and the engines, the records and the
host may change in any way (`Attended`). Samples of other units come and go in the cache meanwhile, and
throw stale samples away; what the cache holds of one key is followed through all that by `Cache.Holds`.
-/

namespace FleetControl.Telemetry

open Engine (times)
open Job

/-- A request for statistics: of which unit on which engine, and when. -/
structure Ask where
  address : String
  unit : String
  time : Nat

namespace Collector

variable {c : Collector} {n : Node} {unit address : String} {fl fl' : Fleet} {s : Stats} {k : Kept}
  {ttl : Nat}

/-! ## One request -/

/-- What comes of a sample: it is kept if it could be taken. -/
def keeping (key : String) : Except Halt Stats × Fleet → Except Halt Stats × Fleet
  | (.ok s, fl) => (.ok s, { fl with cache := fl.cache.insert fl.ticks key s })
  | (.error e, fl) => (.error e, fl)

/-- A unit without a name is refused before the cache is looked into and before any engine is asked. -/
theorem run_stats_empty (hunit : unit = "") : (c.stats n unit).run.run fl =
    (.error (.failed (.invalidRequest "workload has no execution unit")), fl) := by
  subst hunit
  rfl

/-- **What is kept is given out**, and nothing else happens. -/
theorem run_stats_of_some (hunit : unit ≠ "")
    (h : fl.cache.get? fl.ticks (Cache.key n.engineAddress unit) = some s) :
    (c.stats n unit).run.run fl = (.ok s, fl) := by
  unfold stats
  rw [if_neg (by simpa using hunit)]
  dsimp only
  rw [run_bind_of_ok (run_look _ fl), h]
  rfl

/-- **Where nothing is kept a sample is taken.** -/
theorem run_stats_of_none (hunit : unit ≠ "")
    (h : fl.cache.get? fl.ticks (Cache.key n.engineAddress unit) = none) : (c.stats n unit).run.run fl =
      keeping (Cache.key n.engineAddress unit) ((c.collect n unit).run.run fl) := by
  unfold stats
  rw [if_neg (by simpa using hunit)]
  dsimp only
  rw [run_bind_of_ok (run_look _ fl), h]
  dsimp only
  rcases hrun : (c.collect n unit).run.run fl with ⟨e | s, fl'⟩
  · rw [run_bind_of_error hrun]
    rfl
  · rw [run_bind_of_ok hrun]
    rfl

/-- A request takes a sample, or it leaves everything as it is: what is kept is given out without a call. -/
theorem run_stats_cases (c : Collector) (n : Node) (unit : String) (fl : Fleet) :
    ((c.stats n unit).run.run fl).2 = fl ∨
    unit ≠ "" ∧ fl.cache.get? fl.ticks (Cache.key n.engineAddress unit) = none ∧
      (c.stats n unit).run.run fl =
        keeping (Cache.key n.engineAddress unit) ((c.collect n unit).run.run fl) := by
  by_cases hunit : unit = ""
  · exact .inl (by rw [run_stats_empty hunit])
  · cases hget : fl.cache.get? fl.ticks (Cache.key n.engineAddress unit) with
    | some s => exact .inl (by rw [run_stats_of_some hunit hget])
    | none => exact .inr ⟨hunit, rfl, run_stats_of_none hunit hget⟩

/-- To keep a sample changes the cache and no engine. -/
theorem keeping_engineAt (key : String) : ∀ x, (keeping key x).2.engineAt = x.2.engineAt
  | (.ok _, _) | (.error _, _) => rfl

/-- **What a request does to the cache**: nothing, unless a sample was taken where nothing was kept. -/
theorem stats_cache (c : Collector) (n : Node) (unit : String) (fl : Fleet) :
    ((c.stats n unit).run.run fl).2.ticks = fl.ticks ∧
      (((c.stats n unit).run.run fl).2.cache = fl.cache ∨
        ∃ s, (c.stats n unit).run.run fl = (.ok s, ((c.stats n unit).run.run fl).2) ∧
          fl.cache.get? fl.ticks (Cache.key n.engineAddress unit) = none ∧
          ((c.stats n unit).run.run fl).2.cache =
            fl.cache.insert fl.ticks (Cache.key n.engineAddress unit) s) := by
  rcases run_stats_cases c n unit fl with hsame | ⟨-, hget, hrun⟩
  · rw [hsame]
    exact ⟨rfl, .inl rfl⟩
  · obtain ⟨_, ⟨-, -, hticks, hcache⟩, -⟩ := collect_noted c n unit fl
    rw [hrun]
    rcases hcollect : (c.collect n unit).run.run fl with ⟨e | s, fl'⟩
    · rw [hcollect] at hticks hcache
      exact ⟨hticks, .inl hcache⟩
    · rw [hcollect] at hticks hcache
      refine ⟨hticks, .inr ⟨s, rfl, hget, ?_⟩⟩
      show fl'.cache.insert fl'.ticks _ s = _
      rw [← hcache, ← hticks]

/-! ## Requests one after another -/

/-- **Requests are served one after another**, of units without a bar. In between the clock may go on, and
everything but the cache may change in any way. -/
inductive Attended (c : Collector) (fl : Fleet) : List Ask → Fleet → Prop
  | nil : Attended c fl [] fl
  | ask {asks : List Ask} {fl' : Fleet} (n : Node) (unit : String) (hunit : '|' ∉ unit.toList)
      (before : Attended c fl asks fl') :
      Attended c fl (asks ++ [⟨n.engineAddress, unit, fl'.ticks⟩]) ((c.stats n unit).run.run fl').2
  | meanwhile {asks : List Ask} {fl' fl'' : Fleet} (before : Attended c fl asks fl')
      (ticks : fl'.ticks ≤ fl''.ticks) (cache : fl''.cache = fl'.cache) : Attended c fl asks fl''

/-- Every request was made before now, since between requests the clock only goes on. -/
theorem Attended.time_le {asks : List Ask} (h : Attended c fl asks fl') :
    ∀ a ∈ asks, a.time ≤ fl'.ticks := by
  induction h with
  | nil => exact fun a ha => absurd ha List.not_mem_nil
  | @ask _ fl' n unit _ _ ih =>
    intro a ha
    rw [(stats_cache c n unit fl').1]
    rcases List.mem_append.mp ha with ha | ha
    · exact ih a ha
    · obtain rfl := List.mem_singleton.mp ha
      exact le_rfl
  | meanwhile _ ticks _ ih => exact fun a ha => (ih a ha).trans ticks

/-- **A sample of a unit is remembered**, for `ttl` seconds from when it was taken. -/
structure Remembers (key : String) (k : Kept) (ttl : Nat) (fl : Fleet) : Prop where
  ttl : fl.cache.ttl = ttl
  since : k.since ≤ fl.ticks
  holds : fl.cache.Holds key k fl.ticks

/-- **A request does not make the sample forgotten**, nor prolong it: it is for another unit, or the sample
is fresh and is given out. -/
theorem Remembers.stats (h : Remembers (Cache.key address unit) k ttl fl) (hunit : '|' ∉ unit.toList)
    {n : Node} {unit' : String} (hunit' : '|' ∉ unit'.toList)
    (hfresh : n.engineAddress = address → unit' = unit → fl.ticks < k.since + ttl) :
    Remembers (Cache.key address unit) k ttl ((c.stats n unit').run.run fl).2 := by
  obtain ⟨hticks, hcache | ⟨s, -, hget, hcache⟩⟩ := stats_cache c n unit' fl
  · exact ⟨hcache ▸ h.ttl, hticks ▸ h.since, by rw [hcache, hticks]; exact h.holds⟩
  · have hne : Cache.key address unit ≠ Cache.key n.engineAddress unit' := by
      intro heq
      obtain ⟨haddress, hsame⟩ := Cache.key_inj hunit hunit' heq
      rw [← heq, h.holds.get? h.since, h.ttl, if_pos (hfresh haddress.symm hsame.symm)] at hget
      cases hget
    refine ⟨?_, hticks ▸ h.since, ?_⟩
    · rw [hcache]
      exact h.ttl
    · rw [hcache, hticks]
      exact h.holds.insert h.since hne

/-- **Whatever is asked meanwhile**, the sample is remembered, if all requests for it came while it was
fresh. -/
theorem Remembers.attended (hunit : '|' ∉ unit.toList) {asks : List Ask} (ha : Attended c fl asks fl')
    (h : Remembers (Cache.key address unit) k ttl fl)
    (hfresh : ∀ a ∈ asks, a.address = address → a.unit = unit → a.time < k.since + ttl) :
    Remembers (Cache.key address unit) k ttl fl' := by
  induction ha with
  | nil => exact h
  | @ask _ fl' n unit' hunit' _ ih =>
    have hbefore := ih fun a ha => hfresh a (List.mem_append_left _ ha)
    exact hbefore.stats hunit hunit' (hfresh _ (List.mem_append_right _ (List.mem_singleton_self _)))
  | meanwhile _ ticks cache ih =>
    have hbefore := ih hfresh
    refine ⟨cache ▸ hbefore.ttl, hbefore.since.trans ticks, ?_⟩
    rw [cache]
    exact hbefore.holds.later ticks

/-- A sample that was taken is remembered from then on, for as long as the cache keeps samples. -/
theorem remembers_of_taken (hget : fl.cache.get? fl.ticks (Cache.key n.engineAddress unit) = none)
    (hrun : (c.stats n unit).run.run fl = (.ok s, fl')) :
    unit ≠ "" ∧ Remembers (Cache.key n.engineAddress unit) ⟨s, fl.ticks⟩ fl.cache.ttl fl' := by
  have hunit : unit ≠ "" := by
    intro hunit
    rw [run_stats_empty hunit] at hrun
    cases hrun
  obtain ⟨_, ⟨-, -, hticks, hcache⟩, -⟩ := collect_noted c n unit fl
  rw [run_stats_of_none hunit hget] at hrun
  rcases hcollect : (c.collect n unit).run.run fl with ⟨e | s', fl₁⟩
  · rw [hcollect] at hrun
    cases hrun
  · rw [hcollect] at hrun hticks hcache
    have httl : fl₁.cache.ttl = fl.cache.ttl := congrArg Cache.ttl hcache
    cases hrun
    exact ⟨hunit, httl, hticks.ge, hticks ▸ Cache.holds_insert _ _ _ _⟩

/-- **Asking for statistics spares the engines.** A sample that was taken at a time `t` is given out to
everyone who asks for the unit before `t + ttl`, with no call to an engine; the first who asks later has
a new sample taken. A request that fails leaves the cache as it was. And a request makes at most one
inspection and reads frames at most once. -/
theorem stats_sparing (c : Collector) (n : Node) (unit : String) (fl : Fleet) :
    ('|' ∉ unit.toList → fl.cache.get? fl.ticks (Cache.key n.engineAddress unit) = none →
      ∀ s fl₁, (c.stats n unit).run.run fl = (.ok s, fl₁) →
      ∀ asks fl₂, Attended c fl₁ asks fl₂ → ∀ n', n'.engineAddress = n.engineAddress →
        (fl₂.ticks < fl.ticks + fl.cache.ttl → (c.stats n' unit).run.run fl₂ = (.ok s, fl₂)) ∧
        (fl.ticks + fl.cache.ttl ≤ fl₂.ticks →
          (∀ a ∈ asks, a.address = n.engineAddress → a.unit = unit → a.time < fl.ticks + fl.cache.ttl) →
          (c.stats n' unit).run.run fl₂ =
            keeping (Cache.key n.engineAddress unit) ((c.collect n' unit).run.run fl₂))) ∧
    (∀ e fl₁, (c.stats n unit).run.run fl = (.error e, fl₁) → fl₁.cache = fl.cache) ∧
    ∃ lines, times "inspect" lines ≤ 1 ∧ times "stats" lines ≤ 1 ∧
      (((c.stats n unit).run.run fl).2.engineAt n.engineAddress).calls =
        (fl.engineAt n.engineAddress).calls ++ lines ∧
      ∀ a, a ≠ n.engineAddress → ((c.stats n unit).run.run fl).2.engineAt a = fl.engineAt a := by
  refine ⟨fun hunit hget s fl₁ hrun asks fl₂ hasks n' hn' => ?_, fun e fl₁ hrun => ?_, ?_⟩
  · obtain ⟨hnamed, htaken⟩ := remembers_of_taken hget hrun
    refine ⟨fun hfresh => ?_, fun hstale htimes => ?_⟩
    · -- what was asked meanwhile was asked before now
      have hnow := htaken.attended hunit hasks fun a ha _ _ => (hasks.time_le a ha).trans_lt hfresh
      have hgiven := hnow.holds.get? hnow.since
      rw [hnow.ttl, if_pos hfresh, ← hn'] at hgiven
      exact run_stats_of_some hnamed hgiven
    · have hnow := htaken.attended hunit hasks htimes
      have hgone := hnow.holds.get? hnow.since
      rw [hnow.ttl, if_neg hstale.not_gt, ← hn'] at hgone
      rw [run_stats_of_none hnamed hgone, hn']
  · obtain ⟨-, hcache | ⟨s, hok, -⟩⟩ := stats_cache c n unit fl
    · rwa [hrun] at hcache
    · rw [hrun] at hok
      cases hok
  · rcases run_stats_cases c n unit fl with hsame | ⟨-, -, hrun⟩
    · rw [hsame]
      exact ⟨[], Nat.zero_le _, Nat.zero_le _, (List.append_nil _).symm, fun _ _ => rfl⟩
    · obtain ⟨lines, hnoted, hinspect, hstats⟩ := collect_noted c n unit fl
      rw [hrun, keeping_engineAt]
      exact ⟨lines, hinspect, hstats, hnoted.calls, hnoted.others⟩

/-- An engine that shows a frame without processors, and does not know the unit. -/
def sampledFleet : Fleet :=
  { (default : Fleet) with
    engines := [("small", { address := "small", frames := [{}] })]
    cache := { ttl := 10 } }

/-- **A sample of a unit that its engine does not know**: the inspection, which fails, is made once. The
sample is given out for ten seconds and then taken again. -/
theorem stats_sparing_sampled : let c : Collector := { (default : Collector) with probes := [.memoryLimit] }
    let n : Node := { (default : Node) with engineAddress := "small" }
    sampledFleet.cache.get? sampledFleet.ticks (Cache.key n.engineAddress "c1") = none ∧
    ∃ s fl, (c.stats n "c1").run.run sampledFleet = (.ok s, fl) ∧
      times "inspect" (fl.engineAt "small").calls = 1 ∧ times "stats" (fl.engineAt "small").calls = 1 ∧
      (c.stats n "c1").run.run { fl with ticks := 9 } = (.ok s, { fl with ticks := 9 }) ∧
      (c.stats n "c1").run.run { fl with ticks := 10 } =
        keeping "small|c1" ((c.collect n "c1").run.run { fl with ticks := 10 }) := by
  intro c n
  have hget : sampledFleet.cache.get? sampledFleet.ticks (Cache.key n.engineAddress "c1") = none := rfl
  have hok : ((c.stats n "c1").run.run sampledFleet).1.isOk = true := by decide +kernel
  have hticks : ((c.stats n "c1").run.run sampledFleet).2.ticks = 0 := by decide +kernel
  have hcalls : times "inspect" (((c.stats n "c1").run.run sampledFleet).2.engineAt "small").calls = 1 ∧
      times "stats" (((c.stats n "c1").run.run sampledFleet).2.engineAt "small").calls = 1 := by
    decide +kernel
  rcases hrun : (c.stats n "c1").run.run sampledFleet with ⟨e | s, fl⟩
  · rw [hrun] at hok
    cases hok
  rw [hrun] at hticks hcalls
  have hkept := (stats_sparing c n "c1" sampledFleet).1 (by decide) hget s fl hrun []
  have hlater : ∀ t, Attended c fl [] { fl with ticks := t } := fun t =>
    .meanwhile .nil (hticks.trans_le t.zero_le) rfl
  refine ⟨hget, s, fl, rfl, hcalls.1, hcalls.2, ?_, ?_⟩
  · exact (hkept { fl with ticks := 9 } (hlater 9) n rfl).1 (by decide : 9 < 0 + 10)
  · exact (hkept { fl with ticks := 10 } (hlater 10) n rfl).2 (by decide : 0 + 10 ≤ 10) nofun

end Collector

end FleetControl.Telemetry
