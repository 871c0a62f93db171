import FleetControl.Record.Workload

/-!
# Principals

A principal is the caller on whose behalf an operation runs. Administrators may act on any workload,
others on their own.
-/

namespace FleetControl

/-- **The caller of an operation.** -/
structure Principal where
  userId : RecordId
  isAdmin : Bool
deriving Repr, DecidableEq, Inhabited

namespace Principal

/-- A regular user. -/
def user (id : RecordId) : Principal := ⟨id, false⟩

/-- An administrator. -/
def admin (id : RecordId) : Principal := ⟨id, true⟩

/-- Read a principal. -/
def read : Reader Principal :=
  Form.read <| Principal.mk <$> .required "user_id" .u64
    <*> .required "is_admin" .bool

/-- A principal as written. -/
def json (p : Principal) : Json :=
  .obj [("user_id", .u64 p.userId), ("is_admin", .bool p.isAdmin)]

/-- **Whether a principal may act on a workload.** -/
def canManage (p : Principal) (w : Workload) : Bool := p.isAdmin || w.ownerId == p.userId

end Principal

end FleetControl
