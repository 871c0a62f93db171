import FleetControl.Settings
import FleetControl.Telemetry.Probe

/-!
# Collecting statistics

Statistics of a unit are taken from the cache while they are fresh. Otherwise the engine's command
line is asked, and where that tells nothing, two raw frames are read from the engine.
-/

namespace FleetControl.Telemetry

/-- **How statistics are collected.** -/
structure Collector where
  /-- Ask the engine's command line first. -/
  samplesCommandLine : Bool
  /-- How many seconds a program of the host may take. -/
  commandLimit : UInt64
  /-- How many milliseconds raw frames are waited for. -/
  window : UInt64
  probes : List Probe := Probe.standard
deriving Inhabited

namespace Collector

/-- The collector that settings describe. -/
def ofSettings (s : TelemetrySettings) (commandLimit : UInt64) : Collector :=
  { samplesCommandLine := s.samplesCommandLine, commandLimit, window := s.sampleWindow }

/-- An engine's address for its command line; a scheme is added where there is none. -/
def commandLineAddress (address : String) : String :=
  if Text.hasInfix "://".toList address.toList then address else "tcp://" ++ address

/-- The start of the command line that samples a unit. -/
def sampleStart (n : Node) (unit : String) (credentials : Option Engine.Credentials) : Start :=
  { program := .docker
    args := ["stats", "--no-stream", "--format", "\x7b\x7bjson .\x7d\x7d", unit]
    env :=
      (if n.engineAddress.isEmpty then []
       else [("DOCKER_HOST", commandLineAddress n.engineAddress)]) ++
      (if credentials.isSome then [("DOCKER_TLS_VERIFY", "1")] else [])
    credentials := credentials }

/-- The first line of an output that is not blank. -/
def firstLine? (output : String) : Option String :=
  (((Text.lines output.toList).map Text.strip).find? fun l => !l.isEmpty).map String.ofList

/-- **Statistics from the engine's command line.** -/
def sample (c : Collector) (n : Node) (unit : String) : Job Stats := do
  let credentials ←
    if n.useTls then some <$> Job.ofExcept (Engine.Credentials.ofNode n) else pure none
  let output ← Job.tryAct fun fl =>
    let (r, h) := fl.host.run c.commandLimit (sampleStart n unit credentials)
    (r, { fl with host := h })
  match firstLine? output with
  | none => Job.fail (.internal "docker stats printed nothing")
  | some line =>
    match Stats.ofLine? line with
    | some s => pure s
    | none => Job.fail (.unreadable "not a line of statistics")

/-- A search on a unit of an engine. -/
def search (c : Collector) (address unit : String) : Search :=
  { address, unit, limit := c.commandLimit }

/-- The processors that a unit may use; zero where the engine cannot say. -/
def cpusOf (s : Search) : Job (UInt32 × Search) := do
  let (i, s) ← s.inspection
  pure (i.elim 0 inspectedCpus, s)

/-- Complete a sample of the command line by what the engine knows of the unit. -/
def complete (c : Collector) (address unit : String) (stats : Stats) : Job Stats := do
  let (cpus, s) ← cpusOf (c.search address unit)
  let gpu ← s.gpuMemory c.probes
  let percent := if 0 < cpus then spread stats.cpuPercentRaw cpus else stats.cpuPercent
  pure { stats with cpuPercent := percent, gpu := gpu }

/-- **Statistics from raw frames.** -/
def sampleFrames (c : Collector) (address unit : String) : Job Stats := do
  let frames ← Job.call address (.stats unit 2 c.window)
  match frames.getLast? with
  | none =>
    Job.fail (.internal
      ("no stats received for " ++ unit ++ " within " ++ toString c.window.toNat ++ "ms"))
  | some last =>
    let s := c.search address unit
    let (spare, s) ← if frameCpus last = 0 then cpusOf s else pure (0, s)
    let gpu ← s.gpuMemory c.probes
    pure (Stats.ofFrames frames last spare gpu)

/-- Keep a sample in the cache. -/
def keep (key : String) (s : Stats) : Job Unit :=
  Job.act fun fl => ((), { fl with cache := fl.cache.insert fl.ticks key s })

/-- A new sample: from the command line, completed where the engine opens, or from raw frames. -/
def collect (c : Collector) (n : Node) (unit : String) : Job Stats := do
  let sampled ←
    if c.samplesCommandLine then Job.attempt (c.sample n unit)
    else pure (.error (.internal "no command line is sampled"))
  match sampled with
  | .ok stats =>
    match ← Job.attempt (Job.openEngine n) with
    | .ok address => c.complete address unit stats
    | .error _ => pure stats
  | .error _ => c.sampleFrames (← Job.openEngine n) unit

/-- **Statistics of a unit**: kept ones while they are fresh, else a new sample, which is kept. -/
def stats (c : Collector) (n : Node) (unit : String) : Job Stats := do
  if unit.isEmpty then Job.fail (.invalidRequest "workload has no execution unit")
  else
    let key := Cache.key n.engineAddress unit
    match ← Job.look fun fl => fl.cache.get? fl.ticks key with
    | some s => pure s
    | none =>
      let s ← c.collect n unit
      keep key s
      pure s

end Collector

end FleetControl.Telemetry
