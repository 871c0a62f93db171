import FleetControl.Json.Parser
import FleetControl.Time.Text

/-!
# Reading records

A `Reader` takes a value as found in a text to a typed one, or says why not. Whatever it wants to know
it looks at in the order of the text, so the first fault in that order is the one it reports.

A record is read by a `Form`, which says what its fields are and how the record is built from them. It
may be written as an object, of which unknown members are passed over and known ones may stand once,
or as an array of its fields in their declared order. `Dialect` holds the two points in which the text
formats differ.
-/

namespace FleetControl

open Json (Draft)

/-- **Where the text formats differ**: what may stand beside the name of a choice in the form of an
object, and whether an array may hold more than the declared fields of its record. -/
structure Dialect where
  isPayload : Draft → Bool
  sparesItems : Bool

/-- The wire format: `null` beside the name of a choice, no spare items. -/
def Dialect.wire : Dialect := ⟨fun | .null => true | _ => false, false⟩

/-- The configuration format: an empty table or array beside the name of a choice, spare items
ignored. -/
def Dialect.settings : Dialect :=
  ⟨fun | .obj [] .closed => true | .arr [] true => true | _ => false, true⟩

/-- **A reader** of values of a type. -/
abbrev Reader (α : Type) := Dialect → Draft → Except Fault α

namespace Reader

variable {α : Type}

/-- Read a value that is known as a whole. -/
def ofJson? (r : Reader α) (d : Dialect) (v : Json) : Option α := (r d v.draft).toOption

/-- Read the value at the head of a text; what follows it does not matter. -/
def head (r : Reader α) (bytes : List UInt8) : Except Fault α := r .wire (Draft.parse bytes).1

/-- **Read a whole text.** -/
def whole (r : Reader α) (bytes : List UInt8) : Except Fault α := do
  let (v, rest) := Draft.parse bytes
  let a ← r .wire v
  if rest.all (·.all Json.isSpace) then pure a else throw .malformed

/-- Read a whole text, if it can be read. -/
def whole? (r : Reader α) (s : String) : Option α := (r.whole (Text.Utf8.encode s)).toOption

/-- A text. -/
def text : Reader String
  | _, .str s => .ok s
  | _, v => .error v.refusal

/-- A truth value. -/
def bool : Reader Bool
  | _, .bool b => .ok b
  | _, v => .error v.refusal

/-- A whole number within bounds. -/
def int (low high : Int) : Reader Int
  | _, .int n => if low ≤ n ∧ n ≤ high then .ok n else .error .mismatch
  | _, v => .error v.refusal

/-- A 64-bit unsigned number. -/
def u64 : Reader UInt64 := fun d v =>
  (int 0 (UInt64.size - 1) d v).map fun n => UInt64.ofNat n.toNat

/-- A 32-bit unsigned number. -/
def u32 : Reader UInt32 := fun d v =>
  (int 0 (UInt32.size - 1) d v).map fun n => UInt32.ofNat n.toNat

/-- A 16-bit unsigned number. -/
def u16 : Reader UInt16 := fun d v =>
  (int 0 (UInt16.size - 1) d v).map fun n => UInt16.ofNat n.toNat

/-- A 64-bit signed number. -/
def i64 : Reader Int64 := fun d v =>
  (int Int64.minValue.toInt Int64.maxValue.toInt d v).map Int64.ofInt

/-- A double; whole numbers are taken too. -/
def double : Reader Float
  | _, .real x => .ok x
  | _, .int n => .ok (Float.ofInt n)
  | _, v => .error v.refusal

/-- A list. -/
def list (item : Reader α) : Reader (List α)
  | d, .arr xs isClosed => do
    let as ← xs.mapM (item d)
    if isClosed then pure as else throw .malformed
  | _, v => .error v.refusal

/-- A value, or nothing for `null`. -/
def nullable (value : Reader α) : Reader (Option α)
  | _, .null => .ok none
  | d, v => (value d v).map some

/-- A value, or a default for `null`. -/
def nullAs (dflt : α) (value : Reader α) : Reader α := fun d v =>
  (nullable value d v).map (·.getD dflt)

/-- Put an entry into a list sorted by name, in place of one of the same name. -/
def putEntry (k v : String) : List (String × String) → List (String × String)
  | [] => [(k, v)]
  | (k', v') :: rest =>
    if k < k' then (k, v) :: (k', v') :: rest
    else if k == k' then (k, v) :: rest
    else (k', v') :: putEntry k v rest

/-- The name of a member, which has to be a text. -/
def name : Option String → Except Fault String
  | some k => .ok k
  | none => .error .malformed

/-- A map of texts, sorted by name; of two entries of one name the later counts. -/
def textMap : Reader (List (String × String))
  | d, .obj ms ending => do
    let entries ← ms.foldlM (fun acc (k, v) => do
      let k ← name k
      let s ← text d v
      pure (putEntry k s acc)) []
    if ending = .closed then pure entries else throw .malformed
  | _, v => .error v.refusal

/-- A time, read leniently. -/
def time : Reader Time.Instant := fun d v => do
  let s ← text d v
  match Time.lenient? s with
  | some m => pure m.utc
  | none => throw .mismatch

/-- One of several named choices. -/
def named (names : List (String × α)) (s : String) : Except Fault α :=
  match names.lookup s with
  | some a => .ok a
  | none => .error .mismatch

/-- One of several named choices: the name alone, or an object with that one member. Anything else is
no beginning of a choice at all. -/
def choice (names : List (String × α)) : Reader α
  | _, .str s => named names s
  | d, .obj ((k, v) :: rest) ending => do
    let a ← named names (← name k)
    if !d.isPayload v then throw v.refusal
    if rest.isEmpty && ending = .closed then pure a else throw .malformed
  | _, .obj [] .misnamed => .error .mismatch
  | _, _ => .error .malformed

end Reader

/-- **The fields of a record as found**: each declared name with its value, if there is one. -/
structure Found where
  dialect : Dialect
  values : List (String × Draft)
  /-- They were given as an array. -/
  isPositional : Bool

/-- A declared field: its name, and what is wrong with a value of it. -/
structure Field where
  name : String
  check : Dialect → Draft → Except Fault Unit

/-- **How a record is read**: its fields in their declared order, and how it is built from those that
are found. -/
structure Form (α : Type) where
  fields : List Field
  build : Found → Except Fault α

namespace Form

variable {α β : Type}

instance : Applicative Form where
  pure a := ⟨[], fun _ => .ok a⟩
  seq f x := ⟨f.fields ++ (x ()).fields, fun v => do return (← f.build v) (← (x ()).build v)⟩

/-- A field, with what it is where it is missing. -/
def field (name : String) (r : Reader α) (missing : Found → Except Fault α) : Form α where
  fields := [⟨name, fun d v => (r d v).map fun _ => ()⟩]
  build f :=
    match f.values.lookup name with
    | some v => r f.dialect v
    | none => missing f

/-- A field that must be there. -/
def required (name : String) (r : Reader α) : Form α :=
  field name r fun _ => .error .mismatch

/-- A field with a default. -/
def withDefault (name : String) (r : Reader α) (dflt : α) : Form α :=
  field name r fun _ => .ok dflt

/-- An optional field: absent and `null` are none. -/
def optional (name : String) (r : Reader α) : Form (Option α) :=
  withDefault name r.nullable none

/-- An optional field that an array must not leave out. -/
def nullable (name : String) (r : Reader α) : Form (Option α) :=
  field name r.nullable fun f => if f.isPositional then .error .mismatch else .ok none

/-- The values of the declared fields among the members of an object. A name that stands twice is
refused before its second value is looked at. -/
def collect (fields : List Field) (d : Dialect) :
    List (String × Draft) → List (Option String × Draft) → Except Fault (List (String × Draft))
  | found, [] => .ok found
  | found, (k, v) :: rest => do
    let k ← Reader.name k
    match fields.find? fun f => f.name == k with
    | none =>
      v.skip
      collect fields d found rest
    | some f =>
      if (found.lookup k).isSome then throw .mismatch
      f.check d v
      collect fields d (found ++ [(k, v)]) rest

/-- The values of the declared fields among the items of an array, and the items left over. -/
def align (d : Dialect) :
    List Field → List Draft → Except Fault (List (String × Draft) × List Draft)
  | [], rest => .ok ([], rest)
  | _, [] => .ok ([], [])
  | f :: fields, v :: rest => do
    f.check d v
    let (found, rest) ← align d fields rest
    return ((f.name, v) :: found, rest)

/-- **Read a record.** -/
def read (form : Form α) : Reader α
  | d, .obj ms ending => do
    let found ← collect form.fields d [] ms
    if ending ≠ .closed then throw .malformed
    form.build ⟨d, found, false⟩
  | d, .arr xs isClosed => do
    let (found, rest) ← align d form.fields xs
    if found.length < form.fields.length && !isClosed then throw .malformed
    let a ← form.build ⟨d, found, true⟩
    if isClosed && (rest.isEmpty || d.sparesItems) then pure a else throw .malformed
  | _, v => .error v.refusal

end Form

end FleetControl
