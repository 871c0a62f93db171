import FleetControl.Engine.Unit
import FleetControl.Fleet.Basic

/-!
# Units on nodes

Each job opens the engine of a node first and then has its dialog with it.
-/

namespace FleetControl.Job

open Engine (Call Plan)

variable {α : Type}

/-- One call to the engine of a node. -/
def onNode (n : Node) (c : Call α) : Job α := do call (← openEngine n) c

/-- **Make and start a unit**: its container's identifier. The engine is open before the plan is made. -/
def provision (c : EngineSettings) (n : Node) (s : Spec) (i : Image) (name : String) :
    Job String := do
  let address ← openEngine n
  let plan ← fitting (Plan.of? c n s i name)
  ofExcept (← dialog address (Engine.Unit.provision plan))

/-- **Take a unit down.** Once the engine is open, nothing that fails there matters. -/
def teardown (c : EngineSettings) (n : Node) (unit : String) (name : Option String) :
    Job Unit := do
  let address ← openEngine n
  dialog address (Engine.Unit.teardown c unit name)

/-- Start a unit. -/
def start (n : Node) (unit : String) : Job Unit := onNode n (.start unit)

/-- Stop a unit. -/
def stop (c : EngineSettings) (n : Node) (unit : String) : Job Unit :=
  onNode n (.stop unit c.stopGrace)

/-- Stop a unit and start it again. -/
def restart (c : EngineSettings) (n : Node) (unit : String) : Job Unit :=
  onNode n (.restart unit c.stopGrace)

/-- The engine's word for a unit's state. -/
def unitState (n : Node) (unit : String) : Job String := do
  let address ← openEngine n
  ofExcept (← dialog address (Engine.Unit.state unit))

/-- The last lines of a unit's output, or all of them. -/
def logs (n : Node) (unit : String) (tail : Option UInt64) : Job String :=
  onNode n (.logs unit tail)

end FleetControl.Job
