import FleetControl.CommandLine.Run
import FleetControl.Fleet.Basic
import FleetControl.Store.Seed
import FleetControl.Toml.Parser
import FleetControl.Web.SocketAddress

/-!
# Starting the control plane

From a command line and the files it names to a control plane that is ready to serve: settings are
read and overridden, the records of a seed are stored, and the address to listen on is looked at.
-/

namespace FleetControl.CommandLine

/-- A control plane that is ready to serve. -/
structure ControlPlane where
  settings : Settings
  service : Service
  fleet : Fleet
deriving Inhabited

/-- **What a start comes to.** -/
inductive Launch where
  /-- There is nothing to serve; this is shown instead. -/
  | ended (o : Output)
  | ready (c : ControlPlane)
deriving Inhabited

namespace Launch

/-- A way to read a file: its text, or why it cannot be read. -/
abbrev Files := String → Except String String

/-- What the control plane takes on its command line. -/
def grammar : Grammar :=
  { options :=
      [⟨"config", some 'c', .text⟩, ⟨"address", none, .text⟩, ⟨"port", none, .number (UInt16.size - 1)⟩,
       ⟨"log-level", none, .text⟩, ⟨"seed", none, .text⟩] }

/-- Settings in a file. -/
def readSettings (files : Files) (path : String) : Except String Settings :=
  match files path with
  | .error _ => .error ("loading " ++ path)
  | .ok content =>
    match (Toml.read? content).bind (Settings.read.ofJson? .settings) with
    | some s => .ok s
    | none => .error ("loading " ++ path)

/-- Settings with what the command line says in place of what they say. -/
def override (g : Given) (s : Settings) : Settings :=
  { s with
    serve := { s.serve with
      address := (g.value? "address").getD s.serve.address
      port := ((g.value? "port").bind Number.readU16?).getD s.serve.port }
    logLevel := (g.value? "log-level").getD s.logLevel
    seedFile := (g.value? "seed").or s.seedFile }

/-- The settings of a command line. -/
def settings (files : Files) (g : Given) : Except String Settings := do
  let s ← match g.value? "config" with
    | some path => readSettings files path
    | none => .ok {}
  pure (override g s)

/-- **The store of a seed file.** -/
def readStore (files : Files) (now : Time.Instant) (path : String) : Except Failure Store :=
  match files path with
  | .error reason => .error (.config ("Failed to read seed file " ++ path ++ ": " ++ reason))
  | .ok content =>
    match (Toml.read? content).bind ((Seed.read now).ofJson? .settings) with
    | none => .error (.config ("ill-formed seed file " ++ path))
    | some seed =>
      match Store.empty.load now seed with
      | (.error e, _) => .error e
      | (.ok (), s) => .ok s

/-- The store that settings describe. -/
def store (files : Files) (now : Time.Instant) (s : Settings) : Except Failure Store :=
  match s.seedFile with
  | some path => readStore files now path
  | none => .ok .empty

/-- Where settings say to listen. -/
def listenAddress (s : Settings) : String :=
  s.serve.address ++ ":" ++ toString s.serve.port.toNat

/-- A control plane over a store. -/
def controlPlane (now : Time.Instant) (s : Settings) (store : Store) : ControlPlane :=
  { settings := s
    service :=
      { engine := s.engine
        collector := .ofSettings s.telemetry s.engine.probeTimeout
        reconcile := s.reconcile }
    fleet := { store, now, cache := { ttl := s.telemetry.cacheTtl.toNat } } }

/-- A control plane from a command line, or why there is none. -/
def ofGiven (files : Files) (now : Time.Instant) (g : Given) : Except String ControlPlane := do
  let s ← settings files g
  let store ← (store files now s).mapError Failure.message
  if Web.isSocketAddress (listenAddress s) then pure (controlPlane now s store)
  else throw "invalid API address"

/-- **Start the control plane** on a command line. -/
def start (files : Files) (now : Time.Instant) (words : List String) : Launch :=
  match grammar.parse words with
  | .version => .ended (.version "gpufleetd")
  | .help => .ended (.help "gpufleetd" "Serve a GPU fleet")
  | .misuse => .ended (.misuse "gpufleetd")
  | .given g =>
    match ofGiven files now g with
    | .ok c => .ready c
    | .error reason => .ended (.failed reason)

end Launch

end FleetControl.CommandLine
