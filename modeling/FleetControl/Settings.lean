import FleetControl.Json.Reader

/-!
# Settings

The settings of the control plane, in groups. Each setting has a default, and a group that is not
given is a group of defaults. `Settings.read` reads them from a value of the configuration format.
-/

namespace FleetControl

/-- Where and how the interface is served. -/
structure ServeSettings where
  address : String := "0.0.0.0"
  port : UInt16 := 9090
  allowsCrossOrigin : Bool := true
deriving Repr, DecidableEq, Inhabited

namespace ServeSettings

/-- Read a group. -/
def read : Reader ServeSettings :=
  let dflt : ServeSettings := {}
  Form.read <| ServeSettings.mk <$> .withDefault "address" .text dflt.address
    <*> .withDefault "port" .u16 dflt.port
    <*> .withDefault "cors_enabled" .bool dflt.allowsCrossOrigin

/-- A group as written. -/
def json (s : ServeSettings) : Json :=
  .obj [("address", .str s.address), ("port", .int s.port.toNat),
    ("cors_enabled", .bool s.allowsCrossOrigin)]

end ServeSettings

/-- How engines are reached and what units are made of. Times are in seconds. -/
structure EngineSettings where
  requestTimeout : UInt64 := 30
  connectTimeout : UInt64 := 10
  /-- How long an engine may take to show that it is alive. -/
  probeTimeout : UInt64 := 10
  stopGrace : UInt64 := 30
  /-- The grace of a stop that is part of a teardown. -/
  teardownGrace : UInt64 := 10
  /-- Where the partition library lies on a host. -/
  libraryHostDir : String := "/root/HAMi-core/build"
  /-- Where the partition library is mounted in a unit. -/
  libraryUnitDir : String := "/libvgpu/build"
  libraryFile : String := "libvgpu.so"
  /-- Where the data volume is mounted in a unit. -/
  dataMountPath : String := "/data"
  /-- The label that marks what this control plane made. -/
  managedBy : String := "gpufleet"
deriving Repr, DecidableEq, Inhabited

namespace EngineSettings

/-- Read a group. -/
def read : Reader EngineSettings :=
  let dflt : EngineSettings := {}
  Form.read <| EngineSettings.mk <$> .withDefault "http_timeout_secs" .u64 dflt.requestTimeout
    <*> .withDefault "connect_timeout_secs" .u64 dflt.connectTimeout
    <*> .withDefault "probe_timeout_secs" .u64 dflt.probeTimeout
    <*> .withDefault "stop_grace_secs" .u64 dflt.stopGrace
    <*> .withDefault "teardown_grace_secs" .u64 dflt.teardownGrace
    <*> .withDefault "partition_library_host_dir" .text dflt.libraryHostDir
    <*> .withDefault "partition_library_unit_dir" .text dflt.libraryUnitDir
    <*> .withDefault "partition_library_file" .text dflt.libraryFile
    <*> .withDefault "data_mount_path" .text dflt.dataMountPath
    <*> .withDefault "managed_by" .text dflt.managedBy

/-- A group as written. -/
def json (s : EngineSettings) : Json :=
  .obj [("http_timeout_secs", .u64 s.requestTimeout),
    ("connect_timeout_secs", .u64 s.connectTimeout), ("probe_timeout_secs", .u64 s.probeTimeout),
    ("stop_grace_secs", .u64 s.stopGrace), ("teardown_grace_secs", .u64 s.teardownGrace),
    ("partition_library_host_dir", .str s.libraryHostDir),
    ("partition_library_unit_dir", .str s.libraryUnitDir),
    ("partition_library_file", .str s.libraryFile), ("data_mount_path", .str s.dataMountPath),
    ("managed_by", .str s.managedBy)]

end EngineSettings

/-- How statistics are sampled. -/
structure TelemetrySettings where
  /-- How long a sample is kept, in seconds. -/
  cacheTtl : UInt64 := 20
  /-- How long raw frames are waited for, in milliseconds. -/
  sampleWindow : UInt64 := 2000
  /-- Ask the engine's command line before raw frames. -/
  samplesCommandLine : Bool := true
  dockerBinary : String := "docker"
  gpuQueryBinary : String := "nvidia-smi"
deriving Repr, DecidableEq, Inhabited

namespace TelemetrySettings

/-- Read a group. -/
def read : Reader TelemetrySettings :=
  let dflt : TelemetrySettings := {}
  Form.read <| TelemetrySettings.mk <$> .withDefault "cache_ttl_secs" .u64 dflt.cacheTtl
    <*> .withDefault "sample_window_ms" .u64 dflt.sampleWindow
    <*> .withDefault "cli_sampler_enabled" .bool dflt.samplesCommandLine
    <*> .withDefault "docker_binary" .text dflt.dockerBinary
    <*> .withDefault "gpu_query_binary" .text dflt.gpuQueryBinary

/-- A group as written. -/
def json (s : TelemetrySettings) : Json :=
  .obj [("cache_ttl_secs", .u64 s.cacheTtl), ("sample_window_ms", .u64 s.sampleWindow),
    ("cli_sampler_enabled", .bool s.samplesCommandLine), ("docker_binary", .str s.dockerBinary),
    ("gpu_query_binary", .str s.gpuQueryBinary)]

end TelemetrySettings

/-- How records are kept in step with engines. -/
structure ReconcileSettings where
  enabled : Bool := true
  /-- Seconds between two checks of the nodes. -/
  nodeInterval : UInt64 := 300
  /-- Seconds between two checks of the workloads. -/
  workloadInterval : UInt64 := 30
  /-- Milliseconds between two items of one check. -/
  pacing : UInt64 := 100
  probeTimeout : UInt64 := 10
deriving Repr, DecidableEq, Inhabited

namespace ReconcileSettings

/-- Read a group. -/
def read : Reader ReconcileSettings :=
  let dflt : ReconcileSettings := {}
  Form.read <| ReconcileSettings.mk <$> .withDefault "enabled" .bool dflt.enabled
    <*> .withDefault "node_interval_secs" .u64 dflt.nodeInterval
    <*> .withDefault "workload_interval_secs" .u64 dflt.workloadInterval
    <*> .withDefault "pacing_ms" .u64 dflt.pacing
    <*> .withDefault "probe_timeout_secs" .u64 dflt.probeTimeout

/-- A group as written. -/
def json (s : ReconcileSettings) : Json :=
  .obj [("enabled", .bool s.enabled), ("node_interval_secs", .u64 s.nodeInterval),
    ("workload_interval_secs", .u64 s.workloadInterval), ("pacing_ms", .u64 s.pacing),
    ("probe_timeout_secs", .u64 s.probeTimeout)]

end ReconcileSettings

/-- **All settings.** -/
structure Settings where
  serve : ServeSettings := {}
  engine : EngineSettings := {}
  telemetry : TelemetrySettings := {}
  reconcile : ReconcileSettings := {}
  logLevel : String := "info"
  /-- The file of records to begin with. -/
  seedFile : Option String := none
deriving Repr, DecidableEq, Inhabited

namespace Settings

/-- Read the group of log settings. -/
def readLog : Reader String :=
  Form.read <| .withDefault "level" .text "info"

/-- Read the group of store settings. -/
def readStore : Reader (Option String) :=
  Form.read <| .optional "seed_file" .text

/-- **Read all settings.** -/
def read : Reader Settings :=
  Form.read <| Settings.mk <$> .withDefault "api" ServeSettings.read {}
    <*> .withDefault "engine" EngineSettings.read {}
    <*> .withDefault "telemetry" TelemetrySettings.read {}
    <*> .withDefault "reconcile" ReconcileSettings.read {}
    <*> .withDefault "logging" readLog "info"
    <*> .withDefault "store" readStore none

/-- All settings as written. -/
def json (s : Settings) : Json :=
  .obj [("api", s.serve.json), ("engine", s.engine.json), ("telemetry", s.telemetry.json),
    ("reconcile", s.reconcile.json), ("logging", .obj [("level", .str s.logLevel)]),
    ("store", .obj [("seed_file", .opt .str s.seedFile)])]

end Settings

end FleetControl
