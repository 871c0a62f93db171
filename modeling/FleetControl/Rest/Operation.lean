import FleetControl.Rest.Message

/-!
# Operations of the interface

Which operation a request asks for, by its path and its method. A part of the path that stands for an
identifier is kept as sent; whether it is one is looked at later.
-/

namespace FleetControl.Rest

/-- **What can be asked of the interface.** -/
inductive Operation where
  | candidates (spec : String)
  | catalog
  | listWorkloads
  | createWorkload
  | deleteWorkloads
  | showWorkload (id : String)
  | deleteWorkload (id : String)
  | startWorkload (id : String)
  | stopWorkload (id : String)
  | restartWorkload (id : String)
  | stats (id : String)
  | logs (id : String)
  | terminal (id : String)
  | listNodes
  | registerNode
  | updateNode (id : String)
  | testNode (id : String)
  | status
deriving Repr, DecidableEq, Inhabited

namespace Operation

/-- The operations on the resource of a path, by method; none where there is no such resource. -/
def onPath : List String → Option (List (Web.Method × Operation))
  | ["specs", id, "candidates"] => some [(.get, candidates id)]
  | ["catalog"] => some [(.get, catalog)]
  | ["workloads"] =>
    some [(.get, listWorkloads), (.post, createWorkload), (.delete, deleteWorkloads)]
  | ["workloads", id] =>
    if id.isEmpty then none else some [(.get, showWorkload id), (.delete, deleteWorkload id)]
  | ["workloads", id, "start"] => some [(.post, startWorkload id)]
  | ["workloads", id, "stop"] => some [(.post, stopWorkload id)]
  | ["workloads", id, "restart"] => some [(.post, restartWorkload id)]
  | ["workloads", id, "stats"] => some [(.get, stats id)]
  | ["workloads", id, "logs"] => some [(.get, logs id)]
  | ["workloads", id, "terminal"] => some [(.get, terminal id)]
  | ["nodes"] => some [(.get, listNodes), (.post, registerNode)]
  | ["nodes", id] => if id.isEmpty then none else some [(.put, updateNode id)]
  | ["nodes", id, "test"] => some [(.post, testNode id)]
  | ["status"] => some [(.get, status)]
  | _ => none

/-- The method that a resource must know for a request: a request for the head alone is one for the
whole. -/
def effective : Web.Method → Web.Method
  | .head => .get
  | m => m

/-- **The operation that a request asks for**, or the answer that there is none. -/
def ofRequest (r : Request) : Except Response Operation :=
  match r.segments with
  | "" :: "api" :: "v1" :: rest =>
    match onPath rest with
    | none => .error (.bare 404)
    | some operations =>
      match operations.lookup (effective r.method) with
      | some op => .ok op
      | none => .error (.bare 405)
  | _ => .error (.bare 404)

end Operation

end FleetControl.Rest
