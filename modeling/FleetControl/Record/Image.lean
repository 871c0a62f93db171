import FleetControl.Record.Basic

/-!
# Images

An image is what a workload's unit is made from: a name for people and a reference for the engine.
-/

namespace FleetControl

/-- **A workload image.** -/
structure Image where
  id : RecordId
  name : String
  address : String
  /-- The image ships what a shared card needs. -/
  supportsSplit : Bool
  listed : Bool
  stamps : Stamps
deriving Repr, DecidableEq, Inhabited

namespace Image

/-- An image with nothing set, listed, made at a time. -/
def blank (now : Time.Instant) : Image :=
  { id := 0, name := "", address := "", supportsSplit := false, listed := true,
    stamps := .fresh now }

/-- Read an image; its name and its address must be there. -/
def read (now : Time.Instant) : Reader Image :=
  Form.read <| Image.mk <$> .withDefault "id" .u64 0
    <*> .required "name" .text
    <*> .required "address" .text
    <*> .withDefault "supports_memory_split" .bool false
    <*> .withDefault "listed" .bool true
    <*> Stamps.form now

/-- An image as written. -/
def json (i : Image) : Json :=
  .obj ([("id", .u64 i.id), ("name", .str i.name), ("address", .str i.address),
    ("supports_memory_split", .bool i.supportsSplit), ("listed", .bool i.listed)] ++
    i.stamps.members)

end Image

/-- Which images are wanted. -/
structure ImageFilter where
  listed : Option Bool := none
deriving Repr, DecidableEq, Inhabited

/-- Read a filter. -/
def ImageFilter.read : Reader ImageFilter :=
  Form.read <| ImageFilter.mk <$> .nullable "listed" .bool

/-- A change of some fields of an image. -/
structure ImagePatch where
  listed : Option Bool := none
deriving Repr, DecidableEq, Inhabited

instance : Record Image ImageFilter ImagePatch where
  kind := "image"
  id := Image.id
  withId i m := { m with id := i }
  stamps := Image.stamps
  withStamps t m := { m with stamps := t }
  isSelected f m := f.listed.all (· == m.listed)
  patch p m := { m with listed := p.listed.getD m.listed }
  everything := {}

end FleetControl
