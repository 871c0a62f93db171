import FleetControl.Engine.Call
import FleetControl.Engine.Plan

/-!
# Making and unmaking units

The dialogs by which a unit is made, run and taken down. A unit that does not start is removed again.
Taking a unit down goes on whatever fails on the way.
-/

namespace FleetControl.Engine.Unit

/-- Create the container of a plan; where the root file system is limited and the engine refuses, try
once more without the limit. -/
def create (p : Plan) : Dialog (Except Failure String) := do
  match ← Dialog.call (.createContainer p.name p.body) with
  | .ok id => pure (.ok id)
  | .error e =>
    if p.body.host.storage.isSome then
      Dialog.call (.createContainer p.name p.body.withoutStorageLimit)
    else pure (.error e)

/-- Start a created container; one that does not start is removed. -/
def launch (id : String) : Dialog (Except Failure String) := do
  match ← Dialog.call (.start id) with
  | .ok () => pure (.ok id)
  | .error e =>
    let _ ← Dialog.call (.remove id true false)
    pure (.error (.provision ("start container: " ++ e.message)))

/-- **Make a unit and start it**: its container's identifier. That the data volume cannot be created
is no failure. -/
def provision (p : Plan) : Dialog (Except Failure String) := do
  Dialog.each (p.volume.toList.map .createVolume)
  match ← create p with
  | .error e => pure (.error (.provision ("create container: " ++ e.message)))
  | .ok id => launch id

/-- The volumes to remove with a container: those it reports, or the one its name stands for. -/
def volumesOf (name : Option String) : Except Failure Inspection → List String
  | .ok i => i.namedVolumes
  | .error _ => ((name.filter fun n => !n.isEmpty).map volumeName).toList

/-- **Take a unit down**: container and volumes, whatever fails. -/
def teardown (c : EngineSettings) (id : String) (name : Option String) : Dialog Unit := do
  let volumes := volumesOf name (← Dialog.call (.inspect id))
  Dialog.each ([.stop id c.teardownGrace, .remove id true true] ++ volumes.map .removeVolume)

/-- The engine's word for a unit's state. -/
def state (id : String) : Dialog (Except Failure String) := do
  return (← Dialog.call (.inspect id)).map (·.state)

end FleetControl.Engine.Unit
