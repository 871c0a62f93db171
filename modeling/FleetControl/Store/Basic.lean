import FleetControl.Record.Image
import FleetControl.Record.Node
import FleetControl.Record.Spec
import FleetControl.Record.Workload
import FleetControl.Store.Repository

/-!
# The store

The store is the four repositories: nodes, specs, images and workloads.
-/

namespace FleetControl

/-- **All records.** -/
structure Store where
  nodes : Repository Node
  specs : Repository Spec
  images : Repository Image
  workloads : Repository Workload
deriving Inhabited

/-- No records yet. -/
def Store.empty : Store := ⟨.empty, .empty, .empty, .empty⟩

end FleetControl
