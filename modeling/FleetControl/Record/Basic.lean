import FleetControl.Json.Reader

/-!
# Stored records

Every stored record has an identifier and the times of its creation, its last change and its removal.
`Record` says how a repository handles a kind of record: which filter selects among them and which
patch changes some of their fields.
-/

namespace FleetControl

/-- The identifier of a stored record. -/
abbrev RecordId := UInt64

/-- When a record was created, last changed and removed. -/
structure Stamps where
  created : Time.Instant
  updated : Time.Instant
  deleted : Option Time.Instant
deriving Repr, DecidableEq, Inhabited

namespace Stamps

/-- Created at a time and never changed. -/
def fresh (now : Time.Instant) : Stamps := ⟨now, now, none⟩

/-- The three times among the fields of a record; the first two are `now` where they are missing. -/
def form (now : Time.Instant) : Form Stamps :=
  Stamps.mk <$> .withDefault "created_at" .time now
    <*> .withDefault "updated_at" .time now
    <*> .optional "deleted_at" .time

/-- A time as written in a record. -/
def timeJson (t : Time.Instant) : Json := .str t.text

/-- The three times as written. -/
def members (s : Stamps) : List (String × Json) :=
  [("created_at", timeJson s.created), ("updated_at", timeJson s.updated),
   ("deleted_at", .opt timeJson s.deleted)]

end Stamps

/-- **A kind of stored record**, with the filters and patches that go with it. -/
class Record (α : Type) (Filter Patch : outParam Type) where
  /-- The kind's name in messages. -/
  kind : String
  id : α → RecordId
  withId : RecordId → α → α
  stamps : α → Stamps
  withStamps : Stamps → α → α
  /-- Whether a filter selects the record. -/
  isSelected : Filter → α → Bool
  /-- Change the fields that a patch names. -/
  patch : Patch → α → α
  /-- The filter that selects everything. -/
  everything : Filter

namespace Record

variable {α F P : Type} [Record α F P]

/-- Not removed. -/
def isLive (r : α) : Bool := (stamps r).deleted.isNone

/-- Created now. -/
def stampCreated (now : Time.Instant) (r : α) : α :=
  withStamps { stamps r with created := now, updated := now } r

/-- Changed now. -/
def touch (now : Time.Instant) (r : α) : α := withStamps { stamps r with updated := now } r

/-- Removed now. -/
def markDeleted (now : Time.Instant) (r : α) : α :=
  withStamps { stamps r with updated := now, deleted := some now } r

/-- The name of a record in messages: its kind and identifier. -/
def label (α : Type) {F P : Type} [Record α F P] (id : RecordId) : String :=
  kind α ++ " " ++ toString id.toNat

end Record

end FleetControl
