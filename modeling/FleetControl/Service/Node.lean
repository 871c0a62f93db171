import FleetControl.Service.Basic

/-!
# Operations on nodes

A node's engine is probed whenever its record is written, and the record keeps what the probe found.
-/

namespace FleetControl.Service

/-- **What a probe of a node's engine found.** -/
structure NodeTest where
  isAlive : Bool
  /-- What a person is told. -/
  message : String
deriving Repr, DecidableEq, Inhabited

namespace NodeTest

/-- What a record keeps of a probe. -/
def connectivity (t : NodeTest) : Connectivity := if t.isAlive then .connected else .failed

/-- A probe's outcome as written. -/
def json (t : NodeTest) : Json := .obj [("ok", .bool t.isAlive), ("message", .str t.message)]

end NodeTest

/-- Probe a node's engine. -/
def probe (n : Node) : Job NodeTest := do
  let (isAlive, message) ← Job.testEngine n
  pure { isAlive, message }

/-- The nodes that a filter selects. -/
def nodes (f : NodeFilter) : Job (List Node) := Job.list Job.nodes f

/-- **Store a new node**, under an identifier of its own. -/
def registerNode (n : Node) : Job Node := do
  let n := { n with id := 0 }
  let test ← probe n
  Job.create Job.nodes { n with connectivity := test.connectivity }

/-- **Overwrite a node**, which keeps its identifier and the time of its creation. -/
def updateNode (id : RecordId) (n : Node) : Job Node := do
  let existing ← Job.get Job.nodes id
  let n := { n with
    id := existing.id, stamps := { n.stamps with created := existing.stamps.created } }
  let test ← probe n
  Job.replace Job.nodes { n with connectivity := test.connectivity }

/-- **Probe a stored node** and record what was found. -/
def testNode (id : RecordId) : Job NodeTest := do
  let n ← Job.get Job.nodes id
  let test ← probe n
  let _ ← Job.update Job.nodes id { connectivity := some test.connectivity : NodePatch }
  pure test

end FleetControl.Service
