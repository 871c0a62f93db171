import FleetControl.Engine.Call

/-!
# An engine in memory

An engine that holds its containers and volumes in memory, writes down every call, and fails as it is
told to. A call is written down first; then it fails if the engine is unreachable or a failure is set
for it; only then does it do what it says.
-/

namespace FleetControl

namespace Engine

/-- A container as an engine holds it. -/
structure Container where
  name : String
  body : ContainerBody
  /-- The engine's word for the state. -/
  state : String
deriving Repr, DecidableEq, Inhabited

/-- A refusal: a status and what it says. -/
structure Refusal where
  status : UInt16
  text : String
deriving Repr, DecidableEq, Inhabited

end Engine

/-- **An engine in memory.** -/
structure Engine where
  address : String
  /-- Calls so far, the first first. -/
  calls : List String := []
  containers : List (String × Engine.Container) := []
  /-- Names in order. -/
  volumes : List String := []
  /-- Refusals of every call of a key. -/
  always : List (String × Engine.Refusal) := []
  /-- Refusals of the next call of a key, the first set first. -/
  once : List (String × Engine.Refusal) := []
  /-- Outputs of commands, by the words of the command with blanks between. -/
  outputs : List (String × String) := []
  frames : List Engine.Frame := []
  log : String := ""
  /-- How many identifiers have been given out. -/
  given : Nat := 0
  isUnreachable : Bool := false
deriving Inhabited

namespace Engine

variable {α β : Type}

/-! ## Lists by key -/

/-- Put a value in the place of the one of its key, or at the end. -/
def putKey (k : String) (v : α) : List (String × α) → List (String × α)
  | [] => [(k, v)]
  | (k', v') :: rest => if k' == k then (k, v) :: rest else (k', v') :: putKey k v rest

/-- Put a name where it belongs by order, unless it is there. -/
def putName (n : String) : List String → List String
  | [] => [n]
  | m :: rest =>
    if n < m then n :: m :: rest else if n == m then m :: rest else m :: putName n rest

/-- Take the first value of a key out. -/
def takeKey (k : String) : List (String × α) → Option (α × List (String × α))
  | [] => none
  | (k', v) :: rest =>
    if k' == k then some (v, rest)
    else (takeKey k rest).map fun (a, rest) => (a, (k', v) :: rest)

/-! ## Setting an engine up -/

/-- A container that was not asked for. -/
def hold (e : Engine) (id : String) (c : Container) : Engine :=
  { e with containers := putKey id c e.containers }

/-- A volume that was not asked for. -/
def holdVolume (e : Engine) (name : String) : Engine := { e with volumes := putName name e.volumes }

/-- Refuse every call of a key. -/
def refuseAlways (e : Engine) (key : String) (r : Refusal) : Engine :=
  { e with always := putKey key r e.always }

/-- Refuse the next call of a key that is not refused already. -/
def refuseOnce (e : Engine) (key : String) (r : Refusal) : Engine :=
  { e with once := e.once ++ [(key, r)] }

/-- The output of a command. -/
def script (e : Engine) (command : List String) (output : String) : Engine :=
  { e with outputs := putKey (" ".intercalate command) output e.outputs }

/-! ## Calls -/

/-- Without blanks at the end. -/
def trimEnd (s : String) : String := String.ofList (Text.dropEndWhile Text.isBlank s.toList)

/-- The failure set for a key, a single one being used up. -/
def refusal? (e : Engine) (key : String) : Option Refusal × Engine :=
  match takeKey key e.once with
  | some (r, rest) => (some r, { e with once := rest })
  | none => (e.always.lookup key, e)

/-- **Write a call down** and fail it if it is to fail. A failure set for the call with its detail
goes before one for the call alone. -/
def receive (op detail : String) (e : Engine) : Except Failure Unit × Engine :=
  let e := { e with calls := e.calls ++ [trimEnd (op ++ " " ++ detail)] }
  if e.isUnreachable then (.error (.connection (e.address ++ " unreachable")), e)
  else match e.refusal? (op ++ ":" ++ detail) with
    | (some r, e) => (.error (.engine r.status r.text), e)
    | (none, e) =>
      match e.refusal? op with
      | (some r, e) => (.error (.engine r.status r.text), e)
      | (none, e) => (.ok (), e)

/-- Do something once a call is received. -/
def received (op detail : String) (e : Engine) (act : Engine → Except Failure β × Engine) :
    Except Failure β × Engine :=
  match e.receive op detail with
  | (.error f, e) => (.error f, e)
  | (.ok (), e) => act e

/-- The failure to find an object. -/
def missing (kind id : String) : Failure := .engine 404 ("No such " ++ kind ++ ": " ++ id)

/-- Do something with the container of that identifier. -/
def withContainer (id : String) (act : Container → Engine → Except Failure β × Engine)
    (e : Engine) : Except Failure β × Engine :=
  match e.containers.lookup id with
  | none => (.error (missing "container" id), e)
  | some c => act c e

/-- Give a container another state. -/
def setState (id state : String) (e : Engine) : Except Failure Unit × Engine :=
  e.withContainer id fun c e =>
    (.ok (), { e with containers := putKey id { c with state := state } e.containers })

/-- What is reported of a container. -/
def report (id : String) (c : Container) : Inspection :=
  { id := id, name := "/" ++ c.name, state := c.state, isRunning := c.state == "running",
    mounts := c.body.host.mounts.map fun m =>
      { kind := m.kind, name := if m.kind == "volume" then m.source else "",
        destination := m.target },
    env := c.body.env, cpuset := "", nanoCpus := c.body.host.nanoCpus }

/-- The identifier of a prepared shell: its path with hyphens for slashes. -/
def shellId (path : String) : String :=
  let cs := path.toList.dropWhile (· == '/')
  "exec-" ++ String.ofList (cs.map fun c => if c == '/' then '-' else c)

/-- Make a container, unless one of that name is there. -/
def make (name : String) (body : ContainerBody) (e : Engine) : Except Failure String × Engine :=
  if e.containers.any fun (_, c) => c.name == name then
    (.error (.engine 409 ("name " ++ name ++ " already in use")), e)
  else
    let id := "c" ++ toString (e.given + 1)
    (.ok id, { e.hold id ⟨name, body, "created"⟩ with given := e.given + 1 })

/-- A truth value in a call that is written down. -/
def flag (b : Bool) : String := if b then "true" else "false"

/-- **The engine's answer to a call**, and the engine after it. -/
def answer : {β : Type} → Call β → Engine → Except Failure β × Engine
  | _, .ping, e => e.receive "ping" ""
  | _, .createVolume v, e =>
    e.received "create_volume" v.name fun e => (.ok (), e.holdVolume v.name)
  | _, .removeVolume name, e =>
    e.received "remove_volume" name fun e =>
      if e.volumes.contains name then (.ok (), { e with volumes := e.volumes.erase name })
      else (.error (missing "volume" name), e)
  | _, .createContainer name body, e => e.received "create_container" name (make name body)
  | _, .start id, e => e.received "start" id (setState id "running")
  | _, .stop id grace, e =>
    e.received "stop" (id ++ " " ++ toString grace.toNat) (setState id "exited")
  | _, .restart id grace, e =>
    e.received "restart" (id ++ " " ++ toString grace.toNat) (setState id "running")
  | _, .remove id force volumes, e =>
    e.received "remove" (id ++ " force=" ++ flag force ++ " v=" ++ flag volumes) fun e =>
      e.withContainer id fun _ e =>
        (.ok (), { e with containers := e.containers.filter fun (k, _) => k != id })
  | _, .inspect id, e =>
    e.received "inspect" id (withContainer id fun c e => (.ok (report id c), e))
  | _, .logs id _, e => e.received "logs" id (withContainer id fun _ e => (.ok e.log, e))
  | _, .stats id most _, e => e.received "stats" id fun e => (.ok (e.frames.take most), e)
  | _, .output id command, e =>
    let words := " ".intercalate command
    e.received "exec_output" words fun e =>
      match e.outputs.lookup words with
      | some out => (.ok out, e)
      | none => (.error (.engine 500 ("exec " ++ words ++ " in " ++ id ++ " failed")), e)
  | _, .prepareShell id command, e =>
    let path := command.headD ""
    e.received "exec_create" path (withContainer id fun _ e => (.ok (shellId path), e))
  | _, .attach shell, e => e.receive "exec_attach" shell
  | _, .resize shell rows cols, e =>
    e.receive "exec_resize" (shell ++ " " ++ toString rows.toNat ++ "x" ++ toString cols.toNat)

/-- **Run a dialog** on an engine in memory. -/
def run : Dialog α → Engine → α × Engine
  | .done a, e => (a, e)
  | .ask c next, e =>
    let (r, e) := e.answer c
    run (next r) e

end Engine

end FleetControl
