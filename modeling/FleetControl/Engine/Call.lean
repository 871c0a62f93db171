import FleetControl.Engine.Body
import FleetControl.Engine.Frame
import FleetControl.Engine.Inspection
import FleetControl.Failure

/-!
# Calls to an engine

`Call` lists what can be asked of an engine, each call with the type of its answer. A `Dialog` is a
course of calls in which a later call may depend on earlier answers. It says nothing of how an engine
is reached: the same dialog runs on an engine in memory and over the network.
-/

namespace FleetControl.Engine

/-- **A call to an engine**, by the type of its answer. Times are in seconds unless they say else. -/
inductive Call : Type → Type
  | ping : Call Unit
  | createVolume (volume : VolumeBody) : Call Unit
  | removeVolume (name : String) : Call Unit
  | createContainer (name : String) (body : ContainerBody) : Call String
  | start (id : String) : Call Unit
  | stop (id : String) (grace : UInt64) : Call Unit
  | restart (id : String) (grace : UInt64) : Call Unit
  | remove (id : String) (force volumes : Bool) : Call Unit
  | inspect (id : String) : Call Inspection
  /-- The last lines of a container's output, or all of them. -/
  | logs (id : String) (tail : Option UInt64) : Call String
  /-- Frames that arrive within so many milliseconds, at most so many. -/
  | stats (id : String) (most : Nat) (window : UInt64) : Call (List Frame)
  /-- The output of a command that runs in a container. -/
  | output (id : String) (command : List String) : Call String
  /-- Prepare a shell on a terminal in a container. -/
  | prepareShell (id : String) (command : List String) : Call String
  /-- Start a prepared shell; its input and output are a stream from then on. -/
  | attach (shell : String) : Call Unit
  | resize (shell : String) (rows cols : UInt16) : Call Unit

/-- **A course of calls to one engine.** -/
inductive Dialog (α : Type) : Type 1
  | done (a : α)
  | ask {β : Type} (call : Call β) (next : Except Failure β → Dialog α)

namespace Dialog

variable {α β : Type}

/-- Go on with another dialog. -/
def bind : Dialog α → (α → Dialog β) → Dialog β
  | done a, f => f a
  | ask c next, f => ask c fun r => (next r).bind f

instance : Monad Dialog where
  pure := done
  bind := bind

/-- One call. -/
def call (c : Call β) : Dialog (Except Failure β) := ask c done

/-- Calls of which no failure matters, one after another. -/
def each (calls : List (Call Unit)) : Dialog Unit :=
  match calls with
  | [] => done ()
  | c :: rest => ask c fun _ => each rest

/-! ## Laws -/

section Laws

variable {γ : Type}

theorem bind_done (d : Dialog α) : d.bind done = d := by
  induction d with
  | done a => rfl
  | ask c next ih => simp only [bind, ih]

theorem bind_bind (d : Dialog α) (f : α → Dialog β) (g : β → Dialog γ) :
    (d.bind f).bind g = d.bind fun a => (f a).bind g := by
  induction d with
  | done a => rfl
  | ask c next ih => simp only [bind, ih]

instance : LawfulMonad Dialog := LawfulMonad.mk' _ bind_done (fun _ _ => rfl) bind_bind

end Laws

end Dialog

end FleetControl.Engine
