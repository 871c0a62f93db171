import FleetControl.Engine.Basic
import FleetControl.Fleet.Host
import FleetControl.Routine
import FleetControl.Store.Basic
import FleetControl.Telemetry.Cache

/-!
# The fleet

Everything that an operation of the control plane may look at or change: the records, the engines of
the nodes, the clocks, the cache of statistics and the host's programs. A `Job` is a routine on the
fleet that may fail; it may also come to nothing, when an engine stays silent or a number grows too large.
-/

namespace FleetControl

/-- **The fleet.** -/
structure Fleet where
  store : Store
  /-- The engines that were ever opened or set up, by address. -/
  engines : List (String × Engine) := []
  /-- The wall clock. -/
  now : Time.Instant
  /-- Seconds of the steady clock. -/
  ticks : Nat := 0
  cache : Telemetry.Cache
  host : Host := {}
  /-- Addresses of engines that do not answer when they are opened. -/
  silent : List String := []
  /-- A check of all nodes is under way. -/
  isCheckingNodes : Bool := false
  /-- A check of all workloads is under way. -/
  isCheckingWorkloads : Bool := false
deriving Inhabited

/-- Why a job came to no result. -/
inductive Halt where
  | failed (f : Failure)
  /-- An engine stays silent, and nothing limits the waiting. -/
  | silent
  /-- A number does not fit into its bits, and the program does not go on. -/
  | overflow
deriving Repr, DecidableEq, Inhabited

/-- **A routine on the fleet that may fail.** -/
abbrev Job (α : Type) := ExceptT Halt (Routine Fleet) α

namespace Fleet

/-- The engine at an address; a new one where none has been. -/
def engineAt (f : Fleet) (address : String) : Engine :=
  (f.engines.lookup address).getD { address := address }

/-- Put an engine at its address. -/
def setEngine (f : Fleet) (address : String) (e : Engine) : Fleet :=
  { f with engines := Engine.putKey address e f.engines }

/-- Let an engine answer a call. -/
def call {β : Type} (address : String) (c : Engine.Call β) (f : Fleet) :
    Except Failure β × Fleet :=
  let (r, e) := (f.engineAt address).answer c
  (r, f.setEngine address e)

end Fleet

namespace Job

variable {α β : Type}

/-- One step that cannot fail. -/
def act (f : Fleet → α × Fleet) : Job α := ExceptT.mk (Routine.step f fun a => .done (.ok a))

/-- A step that only looks. -/
def look (f : Fleet → α) : Job α := act fun s => (f s, s)

/-- Fail. -/
def fail (f : Failure) : Job α := ExceptT.mk (.done (.error (.failed f)))

/-- What has come out already. -/
def ofExcept : Except Failure α → Job α
  | .ok a => pure a
  | .error f => fail f

/-- A result that is there only where every number fits. -/
def fitting : Option α → Job α
  | some a => pure a
  | none => ExceptT.mk (.done (.error .overflow))

/-- One step that may fail. -/
def tryAct (f : Fleet → Except Failure α × Fleet) : Job α := do ofExcept (← act f)

/-- Wait for a while, so as not to press. -/
def pace : Job Unit := ExceptT.mk (.pause .pace (.done (.ok ())))

/-- What a job comes to, a failure included; silence is not heard, and an overflow is no failure. -/
def attempt (t : Job α) : Job (Except Failure α) := ExceptT.mk do
  match ← t.run with
  | .ok a => pure (.ok (.ok a))
  | .error (.failed f) => pure (.ok (.error f))
  | .error .silent => pure (.error .silent)
  | .error .overflow => pure (.error .overflow)

/-- **What a job comes to in so many seconds**: nothing, after that time, where it would wait for a
silent engine. -/
def within (seconds : UInt64) (t : Job α) : Job (Option (Except Failure α)) := ExceptT.mk do
  match ← t.run with
  | .ok a => pure (.ok (some (.ok a)))
  | .error (.failed f) => pure (.ok (some (.error f)))
  | .error .silent => .pause (.answer seconds) (.done (.ok none))
  | .error .overflow => pure (.error .overflow)

/-- Do something at the end of a job, however it ends. -/
def ensuring (last : Fleet → Fleet) (t : Job α) : Job α := ExceptT.mk do
  let r ← t.run
  Routine.act fun fl => ((), last fl)
  pure r

/-- A dialog with the engine at an address, call by call. -/
def dialog (address : String) : Engine.Dialog α → Job α
  | .done a => pure a
  | .ask c next => do
    let r ← act (Fleet.call address c)
    dialog address (next r)

/-- One call to the engine at an address. -/
def call (address : String) (c : Engine.Call β) : Job β := tryAct (Fleet.call address c)

/-! ## Records -/

section Records

variable {F P : Type} [Record α F P]

/-- Where the records of a kind are kept. -/
structure Shelf (α : Type) {F P : Type} [Record α F P] where
  get : Store → Repository α
  set : Repository α → Store → Store

/-- The records of a kind, seen at one time. -/
def read (s : Shelf α) (f : Repository α → β) : Job β := look fun fl => f (s.get fl.store)

/-- Change the records of a kind at one time. -/
def write (s : Shelf α) (f : Time.Instant → Repository α → Except Failure β × Repository α) :
    Job β :=
  tryAct fun fl =>
    let (r, repo) := f fl.now (s.get fl.store)
    (r, { fl with store := s.set repo fl.store })

/-- The live record of that identifier. -/
def find? (s : Shelf α) (id : RecordId) : Job (Option α) := read s (·.find? id)

/-- The live record of that identifier, which must be there. -/
def get (s : Shelf α) (id : RecordId) : Job α := do ofExcept (← read s (·.get id))

/-- The live records that a filter selects. -/
def list (s : Shelf α) (f : F) : Job (List α) := read s (·.list f)

/-- A page of the live records that a filter selects. -/
def findMany (s : Shelf α) (f : F) (p : Page) : Job (Paged α) := read s (·.findMany f p)

/-- Store a new record. -/
def create (s : Shelf α) (a : α) : Job α := write s fun now r => r.create now a

/-- Overwrite a live record. -/
def replace (s : Shelf α) (a : α) : Job α := write s fun now r => r.replace now a

/-- Change some fields of a live record. -/
def update (s : Shelf α) (id : RecordId) (p : P) : Job α := write s fun now r => r.update now id p

/-- Remove records: how many were live. -/
def delete (s : Shelf α) (ids : List RecordId) : Job Nat :=
  write s fun now r => let (n, r) := r.delete now ids; (.ok n, r)

end Records

/-- Where nodes are kept. -/
def nodes : Shelf Node := ⟨Store.nodes, fun r s => { s with nodes := r }⟩

/-- Where specs are kept. -/
def specs : Shelf Spec := ⟨Store.specs, fun r s => { s with specs := r }⟩

/-- Where images are kept. -/
def images : Shelf Image := ⟨Store.images, fun r s => { s with images := r }⟩

/-- Where workloads are kept. -/
def workloads : Shelf Workload := ⟨Store.workloads, fun r s => { s with workloads := r }⟩

/-! ## Engines -/

/-- **Open a node's engine**: its address. -/
def openEngine (n : Node) : Job String := do
  if n.engineAddress.isEmpty then fail (.incomplete "engine address is empty")
  else if ← look (·.silent.contains n.engineAddress) then ExceptT.mk (.done (.error .silent))
  else pure n.engineAddress

/-- **Whether a node's engine answers**, and what a person is told of it. -/
def testEngine (n : Node) : Job (Bool × String) := do
  match ← attempt (do call (← openEngine n) .ping) with
  | .ok () => pure (true, "connected")
  | .error e => pure (false, e.message)

end Job

end FleetControl
