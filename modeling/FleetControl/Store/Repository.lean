import FleetControl.Failure
import FleetControl.Record.Basic
import FleetControl.Store.Page

/-!
# Repositories

A repository holds the records of one kind in ascending order of their identifiers, removed ones
included, and the identifier that the next new record gets. A removed record stays where it is and is
never seen again: no operation finds it, changes it, or takes its identifier.
-/

namespace FleetControl

section Order

variable {α F P : Type} [Record α F P]

/-- **Records in ascending order of their identifiers**, so that none has the identifier of another. -/
def Record.Ascending (rows : List α) : Prop := rows.Pairwise fun a b => Record.id a < Record.id b

/-- Put a record in the place of the one of its identifier, or where it belongs by order. -/
def Record.place (a : α) : List α → List α
  | [] => [a]
  | b :: rest =>
    if Record.id a < Record.id b then a :: b :: rest
    else if Record.id a == Record.id b then a :: rest
    else b :: place a rest

/-- What stands among the records afterwards is the record or stood there before. -/
theorem Record.mem_place {a b : α} : ∀ {rows : List α}, b ∈ place a rows → b = a ∨ b ∈ rows
  | [], h => .inl (List.mem_singleton.mp h)
  | c :: rest, h => by
    unfold place at h
    split at h
    · exact List.mem_cons.mp h
    · split at h
      · exact (List.mem_cons.mp h).imp_right (List.mem_cons_of_mem c)
      · rcases List.mem_cons.mp h with rfl | h
        · exact .inr List.mem_cons_self
        · exact (mem_place h).imp_right (List.mem_cons_of_mem c)

/-- Putting a record in its place keeps the order. -/
theorem Record.Ascending.place (a : α) :
    ∀ {rows : List α}, Ascending rows → Ascending (Record.place a rows)
  | [], _ => List.pairwise_singleton _ a
  | b :: rest, h => by
    obtain ⟨hb, hrest⟩ := List.pairwise_cons.mp h
    unfold Record.place
    split
    · rename_i hab
      refine List.pairwise_cons.mpr ⟨fun c hc => ?_, h⟩
      rcases List.mem_cons.mp hc with rfl | hc
      · exact hab
      · exact UInt64.lt_trans hab (hb c hc)
    · split
      · rename_i heq
        exact List.pairwise_cons.mpr ⟨fun c hc => eq_of_beq heq ▸ hb c hc, hrest⟩
      · rename_i hab hne
        refine List.pairwise_cons.mpr ⟨fun c hc => ?_, Record.Ascending.place a hrest⟩
        rcases mem_place hc with rfl | hc
        · exact UInt64.lt_of_le_of_ne (UInt64.not_lt.mp hab) fun e => hne (beq_iff_eq.mpr e.symm)
        · exact hb c hc

end Order

/-- **The records of one kind.** -/
structure Repository (α : Type) {F P : Type} [Record α F P] where
  rows : List α
  nextId : RecordId
  ordered : Record.Ascending rows

namespace Repository

variable {α F P : Type} [Record α F P]

/-- No records yet. -/
def empty : Repository α := ⟨[], 1, .nil⟩

instance : Inhabited (Repository α) := ⟨empty⟩

/-- Put a record in its place, the identifier of the next new record being as it was. -/
def put (a : α) (r : Repository α) : Repository α :=
  { r with rows := Record.place a r.rows, ordered := r.ordered.place a }

/-- The record of that identifier, removed or not. -/
def row? (r : Repository α) (id : RecordId) : Option α :=
  r.rows.find? fun a => Record.id a == id

/-- **The live record of that identifier.** -/
def find? (r : Repository α) (id : RecordId) : Option α :=
  (r.row? id).filter Record.isLive

/-- The live record of that identifier, or the failure to find one. -/
def get (r : Repository α) (id : RecordId) : Except Failure α :=
  match r.find? id with
  | some a => .ok a
  | none => .error (.notFound (Record.label α id))

/-- The live records that a filter selects. -/
def list (r : Repository α) (f : F) : List α :=
  r.rows.filter fun a => Record.isLive a && Record.isSelected f a

/-- **A page of the live records** that a filter selects. -/
def findMany (r : Repository α) (f : F) (p : Page) : Paged α :=
  let matching := r.list f
  ⟨p.select matching, matching.length⟩

/-- The identifier that a record is stored under, and the one that comes next. A record without an
identifier gets the next one; one with an identifier moves the next one past it. -/
def assign (next : RecordId) (a : α) : RecordId × RecordId :=
  if Record.id a = 0 then (next, next + 1)
  else (Record.id a, max next (Record.id a + 1))

/-- **Store a new record.** Its identifier must be free; the next identifier moves on in any case. -/
def create (now : Time.Instant) (a : α) (r : Repository α) : Except Failure α × Repository α :=
  let (id, next) := assign r.nextId a
  let a := Record.stampCreated now (Record.withId id a)
  match r.row? id with
  | some _ => (.error (.storage (Record.label α id ++ " already exists")), { r with nextId := next })
  | none => (.ok a, { r.put a with nextId := next })

/-- **Overwrite a live record** by one of the same identifier. -/
def replace (now : Time.Instant) (a : α) (r : Repository α) : Except Failure α × Repository α :=
  match r.find? (Record.id a) with
  | none => (.error (.notFound (Record.label α (Record.id a))), r)
  | some _ =>
    let a := Record.touch now a
    (.ok a, r.put a)

/-- **Change some fields of a live record.** -/
def update (now : Time.Instant) (id : RecordId) (p : P) (r : Repository α) :
    Except Failure α × Repository α :=
  match r.find? id with
  | none => (.error (.notFound (Record.label α id)), r)
  | some a =>
    let a := Record.touch now (Record.patch p a)
    (.ok a, r.put a)

/-- Remove one record if it is live, counting it. -/
def deleteOne (now : Time.Instant) (acc : Nat × Repository α) (id : RecordId) :
    Nat × Repository α :=
  match acc.2.find? id with
  | none => acc
  | some a => (acc.1 + 1, acc.2.put (Record.markDeleted now a))

/-- **Remove records**: how many were live, and what is left. -/
def delete (now : Time.Instant) (ids : List RecordId) (r : Repository α) : Nat × Repository α :=
  ids.foldl (deleteOne now) (0, r)

end Repository

end FleetControl
