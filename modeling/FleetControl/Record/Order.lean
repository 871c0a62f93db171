import FleetControl.Record.Basic

/-!
# Orders

An order asks for a workload: which image, which spec, on which node, under which name.
-/

namespace FleetControl

/-- **What a caller asks for when a workload is made.** -/
structure Order where
  name : Option String := none
  imageId : RecordId := 0
  specId : RecordId := 0
  nodeId : RecordId := 0
  remark : Option String := none
deriving Repr, DecidableEq, Inhabited

namespace Order

/-- Read an order; image, spec and node must be there. -/
def read : Reader Order :=
  Form.read <| Order.mk <$> .optional "name" .text
    <*> .required "image_id" .u64
    <*> .required "spec_id" .u64
    <*> .required "node_id" .u64
    <*> .optional "remark" .text

/-- An order as written. -/
def json (o : Order) : Json :=
  .obj [("name", .opt .str o.name), ("image_id", .u64 o.imageId), ("spec_id", .u64 o.specId),
    ("node_id", .u64 o.nodeId), ("remark", .opt .str o.remark)]

end Order

end FleetControl
