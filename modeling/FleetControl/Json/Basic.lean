/-!
# JSON values

A value of the wire format. Members of an object stay in the order of the text and a name may stand
in it twice: which of them counts is for the reader of a record to say. Whole numbers within the
signed and unsigned 64-bit ranges are `int`, any other number is `real`.
-/

namespace FleetControl

/-- **A JSON value.** -/
inductive Json where
  | null
  | bool (b : Bool)
  | int (n : Int)
  | real (x : Float)
  | str (s : String)
  | arr (items : List Json)
  | obj (members : List (String × Json))
deriving Inhabited

namespace Json

/-- The first member of that name, in an object. -/
def get? (name : String) : Json → Option Json
  | .obj ms => ms.lookup name
  | _ => none

/-- The members of an object; none of anything else. -/
def members : Json → List (String × Json)
  | .obj ms => ms
  | _ => []

/-- An unsigned 64-bit number. -/
def u64 (n : UInt64) : Json := .int n.toNat

/-- A signed 64-bit number. -/
def i64 (n : Int64) : Json := .int n.toInt

/-- An optional value; nothing is `null`. -/
def opt {α : Type} (f : α → Json) : Option α → Json
  | none => .null
  | some a => f a

/-- A list of values. -/
def list {α : Type} (f : α → Json) (xs : List α) : Json := .arr (xs.map f)

/-- A double in a record: `null` unless it is finite. -/
def finite (x : Float) : Json := if x.isFinite then .real x else .null

end Json

end FleetControl
