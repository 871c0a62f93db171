import FleetControl.Fleet.Basic

/-!
# Probes of GPU memory

A probe is one way to learn how much GPU memory a unit sees. Probes are tried in order, and the first
that knows ends the search. What the engine reports of the unit is asked for at most once in a search.
-/

namespace FleetControl.Telemetry

open Engine (Inspection)

/-- **A way to learn a unit's GPU memory.** -/
inductive Probe where
  /-- A query inside the unit. -/
  | container (name : String) (command : List String)
  /-- A query on the control host, for the cards that the unit sees. -/
  | host
  /-- The limit that the partition library was given. -/
  | memoryLimit
  /-- An answer known beforehand. -/
  | fixed (answer : Option GpuMemory)
deriving Repr, Inhabited

namespace Probe

/-- What is queried of each card. -/
def queryArg : String := "--query-gpu=memory.total,memory.used"

/-- Output in plain numbers. -/
def plainFormat : String := "--format=csv,noheader,nounits"

/-- Output with units. -/
def unitFormat : String := "--format=csv,noheader"

/-- The name of a probe. -/
def name : Probe → String
  | container n _ => n
  | host => "host-smi"
  | memoryLimit => "memory-limit-env"
  | fixed _ => "fixed"

/-- **The probes that are tried where nothing else is said.** -/
def standard : List Probe :=
  [container "container-smi" ["nvidia-smi", queryArg, plainFormat],
   container "container-smi-units" ["nvidia-smi", queryArg, unitFormat],
   container "container-smi-abs" ["/usr/bin/nvidia-smi", queryArg, plainFormat],
   host, memoryLimit]

/-- **The arguments of a query on the host** for the cards that a unit sees; none when it sees no
card. -/
def hostArgs (visible : String) : Option (List String) :=
  let cs := Text.strip visible.toList
  let seen := String.ofList cs
  if seen.isEmpty || seen == "none" || seen == "void" then none
  else
    let scope := if Text.asciiLower cs == "all".toList then [] else ["-i", seen]
    some (scope ++ [queryArg, plainFormat])

/-- **The limit in gigabytes** that the partition library was given; a unit may follow the number. -/
def readLimit? (value : String) : Option UInt64 :=
  let cs := Text.strip value.toList
  let cs := if cs.getLast? == some 'g' then cs.dropLast else cs
  (Number.readU64? (Text.trim (String.ofList cs))).filter (0 < ·)

/-- GPU memory in the output of a query. -/
def ofOutput? (output : Except Failure String) : Option GpuMemory :=
  match output with
  | .ok text => (CardLines.read? text).map GpuMemory.ofLines
  | .error _ => none

end Probe

/-- What a search works on: the unit, and what its engine reported of it, if it was asked. -/
structure Search where
  address : String
  unit : String
  /-- How many seconds a program of the host may take. -/
  limit : UInt64
  /-- Asked already; nothing where the engine could not say. -/
  inspected : Option (Option Inspection) := none
deriving Inhabited

namespace Search

/-- What the engine reports of the unit, asked for once. -/
def inspection (s : Search) : Job (Option Inspection × Search) := do
  match s.inspected with
  | some i => pure (i, s)
  | none =>
    let r ← Job.attempt (Job.call s.address (.inspect s.unit))
    pure (r.toOption, { s with inspected := some r.toOption })

/-- An entry of the unit's environment. -/
def env (s : Search) (key : String) : Job (Option String × Search) := do
  let (i, s) ← s.inspection
  pure (i.bind fun i => Engine.envValue? key i.env, s)

/-- A query on the host. -/
def query (s : Search) (args : List String) : Job (Option GpuMemory) := do
  let out ← Job.act fun fl =>
    let (r, h) := fl.host.run s.limit { program := .smi, args := args }
    (r, { fl with host := h })
  pure (Probe.ofOutput? out)

/-- A query on the host for some cards; where that tells nothing, one for all cards. -/
def queryHost (s : Search) (args : List String) : Job (Option GpuMemory) := do
  match ← s.query args with
  | some m => pure (some m)
  | none => if 2 < args.length then s.query (args.drop 2) else pure none

/-- What one probe knows. -/
def probe (s : Search) : Probe → Job (Option GpuMemory × Search)
  | .container _ command => do
    let out ← Job.attempt (Job.call s.address (.output s.unit command))
    pure (Probe.ofOutput? out, s)
  | .host => do
    let (visible, s) ← s.env "NVIDIA_VISIBLE_DEVICES"
    match visible.bind Probe.hostArgs with
    | none => pure (none, s)
    | some args => do pure (← s.queryHost args, s)
  | .memoryLimit => do
    let (limit, s) ← s.env "CUDA_DEVICE_MEMORY_LIMIT"
    pure ((limit.bind Probe.readLimit?).map fun n => ⟨n.toFloat, 0⟩, s)
  | .fixed answer => pure (answer, s)

/-- **What the first probe that knows says**; zero where none knows. -/
def gpuMemory (s : Search) : List Probe → Job GpuMemory
  | [] => pure {}
  | p :: rest => do
    match ← s.probe p with
    | (some m, _) => pure m
    | (none, s) => s.gpuMemory rest

end Search

end FleetControl.Telemetry
