import FleetControl.Proofs.Store.Repository
import Mathlib.Algebra.Group.Nat.Defs

/-!
# Histories of a repository

A repository serves calls one after another. A call does one of a few things (`Effect`): it changes at
most the records that it names (`Effect.row?_of_row?`), and it gives back only records that stand in the
repository after it (`Effect.row?_of_mem`). A removed record is out of reach of every call
(`Step.buries`), so a row that was stored once is stored under its identifier ever after (`Succeeds`), and
identifiers are never used twice.

New identifiers come from a counter of 64 bits. A history in which the counter stays below its end
gives every new record an identifier above all others (`Step.counts`); where the counter passes its end
it starts again from zero, and nothing here speaks of such histories.
-/

namespace FleetControl

namespace Repository

variable {α F P : Type} [Record α F P]

/-- **A call on a repository.** -/
inductive Call (α : Type) {F P : Type} [Record α F P] where
  | create (a : α)
  | replace (a : α)
  | update (id : RecordId) (p : P)
  | delete (ids : List RecordId)
  | find (id : RecordId)
  | findMany (f : F) (p : Page)

/-- **What a call gives back.** -/
inductive Answer (α : Type) where
  | written (a : α)
  | failed (f : Failure)
  | removed (count : Nat)
  | found (a : Option α)
  | page (p : Paged α)

namespace Answer

/-- The answer of a call that writes one record. -/
def ofWrite : Except Failure α → Answer α
  | .ok a => written a
  | .error f => failed f

/-- The records that a call gives back. -/
def records : Answer α → List α
  | written a => [a]
  | failed _ => []
  | removed _ => []
  | found a => a.toList
  | page p => p.items

end Answer

namespace Call

/-- **The repository serves a call** at a time: the answer, and the repository after it. -/
def serve (now : Time.Instant) (r : Repository α) : Call α → Answer α × Repository α
  | create a => (.ofWrite (r.create now a).1, (r.create now a).2)
  | replace a => (.ofWrite (r.replace now a).1, (r.replace now a).2)
  | update id p => (.ofWrite (r.update now id p).1, (r.update now id p).2)
  | delete ids => (.removed (r.delete now ids).1, (r.delete now ids).2)
  | find id => (.found (r.find? id), r)
  | findMany f p => (.page (r.findMany f p), r)

/-- The identifier of the one record that the call writes; a new record has none yet. -/
def target? : Call α → Option RecordId
  | create a => if Record.id a = 0 then none else some (Record.id a)
  | replace a => some (Record.id a)
  | update id _ => some id
  | _ => none

/-- The identifiers of the records that the call is to change. -/
def names : Call α → List RecordId
  | delete ids => ids
  | call => call.target?.toList

/-- The record that the call brings along as a new one. -/
def created? : Call α → Option α
  | create a => some a
  | _ => none

/-- The call asks for a new record under an identifier of the repository's choice. -/
def IsNew : Call α → Prop
  | create a => Record.id a = 0
  | _ => False

/-- An identifier that the call brings along for a new record is below the upper half of all. -/
def IsModest : Call α → Prop
  | create a => (Record.id a).toNat < 2 ^ 63
  | _ => True

end Call

/-- A call that is served: when, by which repository, and which. -/
structure Step (α : Type) {F P : Type} [Record α F P] where
  now : Time.Instant
  before : Repository α
  call : Call α

namespace Step

def answer (x : Step α) : Answer α := (x.call.serve x.now x.before).1

/-- The repository after the call. -/
def after (x : Step α) : Repository α := (x.call.serve x.now x.before).2

/-- The record that the call stored as a new one. -/
def made? (x : Step α) : Option α :=
  match x.call, x.answer with
  | .create _, .written a => some a
  | _, _ => none

end Step

/-- **What a repository serves**, call by call. -/
def history : Repository α → List (Time.Instant × Call α) → List (Step α)
  | _, [] => []
  | r, (now, call) :: rest => ⟨now, r, call⟩ :: history (Step.after ⟨now, r, call⟩) rest

variable {r r' : Repository α} {a b : α} {i : RecordId} {now : Time.Instant} {call : Call α}
  {answer : Answer α}

/-! ## Rows -/

/-- A row is read back, and every other row is where it was. Unlike a search this also sees rows that are marked
as removed. -/
theorem row?_put (a : α) (r : Repository α) (i : RecordId) :
    (r.put a).row? i = if i = Record.id a then some a else r.row? i := by
  split
  · rename_i h
    exact row?_eq_some_iff.mpr ⟨Record.mem_place_self a r.rows, h.symm⟩
  · rename_i h
    refine Option.ext fun b => ?_
    rw [row?_eq_some_iff, row?_eq_some_iff, rows_put]
    exact ⟨fun ⟨hb, hid⟩ => ⟨(Record.mem_place_of_ne (hid ▸ h)).mp hb, hid⟩,
      fun ⟨hb, hid⟩ => ⟨(Record.mem_place_of_ne (hid ▸ h)).mpr hb, hid⟩⟩

theorem row?_congr (h : r'.rows = r.rows) (i : RecordId) : r'.row? i = r.row? i := by
  rw [row?, row?, h]

/-- What is found stands in the repository. -/
theorem row?_of_find? (h : r.find? i = some a) : r.row? i = some a :=
  (Option.filter_eq_some_iff.mp h).1

/-- **A removed record is found no more**, although it stands in the repository still. -/
theorem find?_of_row? (h : r.row? i = some a) (hdead : Record.isLive a = false) : r.find? i = none := by
  rw [find?, h, Option.filter_some, if_neg (by simp [hdead])]

/-- A new row leaves every other where it was, a removed one too. -/
theorem row?_of_stored (free : r.row? (Record.id b) = none) (rows : r'.rows = Record.place b r.rows)
    (h : r.row? i = some a) : r'.row? i = some a := by
  rw [row?_congr (r := r.put _) rows, row?_put, if_neg]
  · exact h
  · rintro rfl
    rw [free] at h
    cases h

/-- A record that is marked as removed. -/
def struck (now : Time.Instant) (a : α) : α := if Record.isLive a then Record.markDeleted now a else a

/-- A record that is marked as removed is not marked again, so the time of its removal stays. -/
theorem struck_of_dead (h : Record.isLive a = false) : struck now a = a := by
  rw [struck, h, if_neg Bool.false_ne_true]

section Lawful

variable [LawfulRecord α]

theorem isLive_struck (now : Time.Instant) (a : α) : Record.isLive (struck now a) = false := by
  unfold struck
  split
  · rw [Record.isLive, Record.markDeleted, LawfulRecord.stamps_withStamps]
    rfl
  · rename_i h
    exact Bool.not_eq_true _ ▸ h

/-- One removal marks the row of its identifier, if it is live, and leaves every other row. -/
theorem row?_deleteOne (acc : Nat × Repository α) (j i : RecordId) :
    (deleteOne now acc j).2.row? i =
      (acc.2.row? i).map fun a => if i = j then struck now a else a := by
  unfold deleteOne
  cases hfind : acc.2.find? j with
  | some a =>
    have hrow := row?_of_find? hfind
    obtain ⟨_, hid, hlive⟩ := find?_eq_some_iff.mp hfind
    have hmark : Record.id (Record.markDeleted now a) = j := (LawfulRecord.id_withStamps _ a).trans hid
    rw [row?_put, hmark]
    by_cases hij : i = j
    · rw [if_pos hij, hij, hrow, Option.map_some, if_pos rfl, struck, if_pos hlive]
    · simp [hij]
  | none =>
    by_cases hij : i = j
    · subst hij
      cases hrow : acc.2.row? i with
      | none => simp
      | some a =>
        have hdead : Record.isLive a = false := by
          by_contra hlive
          have := find?_eq_none_iff.mp hfind a (row?_eq_some_iff.mp hrow).1 (row?_eq_some_iff.mp hrow).2
          exact hlive this
        simp [struck_of_dead hdead]
    · simp [hij]

/-- **A removal marks the rows that it names** and leaves every other row. -/
theorem row?_delete (now : Time.Instant) (ids : List RecordId) (r : Repository α) (i : RecordId) :
    (r.delete now ids).2.row? i =
      (r.row? i).map fun a => if i ∈ ids then struck now a else a := by
  suffices h : ∀ (ids : List RecordId) (acc : Nat × Repository α),
      (ids.foldl (deleteOne now) acc).2.row? i =
        (acc.2.row? i).map fun a => if i ∈ ids then struck now a else a from h ids (0, r)
  intro ids
  induction ids with
  | nil => simp
  | cons j rest ih =>
    intro acc
    rw [List.foldl_cons, ih, row?_deleteOne, Option.map_map]
    congr 1
    funext a
    by_cases hij : i = j <;> by_cases hrest : i ∈ rest <;>
      simp [hij, hrest, struck_of_dead (isLive_struck now a)]

/-- **An identifier that finds nothing** may be left out of a removal. -/
theorem delete_filter (h : r.find? i = none) (ids : List RecordId) :
    r.delete now ids = r.delete now (ids.filter fun j => decide (j ≠ i)) := by
  suffices hfold : ∀ (ids : List RecordId) (acc : Nat × Repository α), acc.2.find? i = none →
      ids.foldl (deleteOne now) acc = (ids.filter fun j => decide (j ≠ i)).foldl (deleteOne now) acc from
    hfold ids (0, r) h
  intro ids
  induction ids with
  | nil => exact fun _ _ => rfl
  | cons j rest ih =>
    intro acc hacc
    by_cases hij : j = i
    · subst hij
      have hstays : deleteOne now acc j = acc := by rw [deleteOne, hacc]
      rw [List.foldl_cons, hstays, ih acc hacc, List.filter_cons_of_neg (by simp)]
    · have hgone : (deleteOne now acc j).2.find? i = none := by
        have hrow : (deleteOne now acc j).2.row? i = acc.2.row? i := by
          rw [row?_deleteOne]
          simp [Ne.symm hij]
        rw [find?, hrow]
        exact hacc
      rw [List.foldl_cons, ih _ hgone, List.filter_cons_of_pos (by simpa using hij), List.foldl_cons]

end Lawful

/-! ## One call -/

/-- **What a call can do** to a repository, and what it gives back. -/
inductive Effect (now : Time.Instant) (r : Repository α) : Call α → Answer α → Repository α → Prop
  | refused {call : Call α} {f : Failure} {r' : Repository α} (same : r'.rows = r.rows)
      (taken : call.IsNew → ∃ b ∈ r.rows, Record.id b = r.nextId) : Effect now r call (.failed f) r'
  | stored {a b : α} {r' : Repository α} (free : r.row? (Record.id b) = none)
      (rows : r'.rows = Record.place b r.rows)
      (id : Record.id b = if Record.id a = 0 then r.nextId else Record.id a) :
      Effect now r (.create a) (.written b) r'
  | rewritten {call : Call α} {a b : α} (live : r.find? (Record.id b) = some a)
      (target : call.target? = some (Record.id b))
      (old : call.created? = none) : Effect now r call (.written b) (r.put b)
  | removed {ids : List RecordId} :
      Effect now r (.delete ids) (.removed (r.delete now ids).1) (r.delete now ids).2
  | read {call : Call α} {answer : Answer α} (reads : call.target? = none)
      (old : call.created? = none)
      (known : ∀ b ∈ answer.records, r.find? (Record.id b) = some b) : Effect now r call answer r

theorem replace_of_none (h : r.find? (Record.id b) = none) :
    r.replace now b = (.error (.notFound (Record.label α (Record.id b))), r) := by
  rw [replace, h]

theorem create_of_some (h : r.row? (assign r.nextId a).1 = some b) : r.create now a =
    (.error (.storage (Record.label α (assign r.nextId a).1 ++ " already exists")),
      { r with nextId := (assign r.nextId a).2 }) := by
  simp only [create, h]

theorem create_of_none (h : r.row? (assign r.nextId a).1 = none) : r.create now a =
    (.ok (Record.stampCreated now (Record.withId (assign r.nextId a).1 a)),
      { r.put (Record.stampCreated now (Record.withId (assign r.nextId a).1 a)) with
        nextId := (assign r.nextId a).2 }) := by
  simp only [create, h]

section Lawful

variable [LawfulRecord α]

/-- A new record is stored where its identifier is free and refused where it is taken. In either case the counter
is past it. -/
theorem effect_create (now : Time.Instant) (a : α) (r : Repository α) :
    Effect now r (.create a) (.ofWrite (r.create now a).1) (r.create now a).2 := by
  have hassign : (assign r.nextId a).1 = if Record.id a = 0 then r.nextId else Record.id a := by
    unfold assign
    split <;> rfl
  have hid : Record.id (Record.stampCreated now (Record.withId (assign r.nextId a).1 a)) =
      (assign r.nextId a).1 :=
    (LawfulRecord.id_withStamps _ _).trans (LawfulRecord.id_withId _ _)
  cases hrow : r.row? (assign r.nextId a).1 with
  | some b =>
    rw [create_of_some hrow]
    refine .refused rfl fun hnew => ⟨b, ?_⟩
    rw [hassign, if_pos (show Record.id a = 0 from hnew)] at hrow
    exact row?_eq_some_iff.mp hrow
  | none =>
    rw [create_of_none hrow]
    exact .stored (by rw [hid, hrow]) rfl (hid.trans hassign)

/-- **Every call does one of these**: it stores a new record, changes one, removes some, or leaves the rows as
they are. -/
theorem effect (now : Time.Instant) (r : Repository α) (call : Call α) :
    Effect now r call (call.serve now r).1 (call.serve now r).2 := by
  have hid : ∀ a : α, Record.id (Record.touch now a) = Record.id a :=
    fun a => LawfulRecord.id_withStamps _ a
  cases call with
  | create a => exact effect_create now a r
  | replace a =>
    show Effect now r (.replace a) (.ofWrite (r.replace now a).1) (r.replace now a).2
    cases hfind : r.find? (Record.id a) with
    | none =>
      rw [replace_of_none hfind]
      exact .refused rfl fun hnew => hnew.elim
    | some b =>
      rw [replace_of_find? hfind]
      exact .rewritten (by rw [hid, hfind]) (congrArg some (hid a).symm) rfl
  | update id p =>
    show Effect now r (.update id p) (.ofWrite (r.update now id p).1) (r.update now id p).2
    cases hfind : r.find? id with
    | none =>
      rw [update_of_none hfind]
      exact .refused rfl fun hnew => hnew.elim
    | some b =>
      have hb : Record.id (Record.touch now (Record.patch p b)) = id :=
        (hid _).trans ((LawfulRecord.id_patch p b).trans (find?_eq_some_iff.mp hfind).2.1)
      rw [update_of_find? hfind]
      exact .rewritten (by rw [hb, hfind]) (congrArg some hb.symm) rfl
  | delete ids => exact .removed
  | find id => exact .read rfl rfl fun b hb => find?_self (Option.mem_toList.mp hb)
  | findMany f p => exact .read rfl rfl fun b hb => (mem_findMany hb).1

end Lawful

/-- A call names the record that it writes; a removal names several. -/
theorem Call.mem_names (h : call.target? = some i) : i ∈ call.names := by
  cases call with
  | delete ids => cases h
  | _ => exact Option.mem_toList.mpr h

section Effect

variable (e : Effect now r call answer r')
include e

/-- **What a call gives back stands in the repository after it**, to the letter: a caller sees what was stored. -/
theorem Effect.row?_of_mem (h : b ∈ answer.records) : r'.row? (Record.id b) = some b := by
  cases e with
  | refused same => cases h
  | stored free rows =>
    obtain rfl := List.mem_singleton.mp h
    rw [row?_congr (r := r.put _) rows, row?_put, if_pos rfl]
  | rewritten =>
    obtain rfl := List.mem_singleton.mp h
    rw [row?_put, if_pos rfl]
  | removed => cases h
  | read _ _ known => exact row?_of_find? (known b h)

/-- **No call gives back a removed record**, or another under its identifier. -/
theorem Effect.ne_of_dead (h : r.row? i = some a) (hdead : Record.isLive a = false)
    (hb : b ∈ answer.records) : Record.id b ≠ i := by
  rintro rfl
  cases e with
  | refused same => cases hb
  | stored free =>
    obtain rfl := List.mem_singleton.mp hb
    rw [free] at h
    cases h
  | rewritten live =>
    obtain rfl := List.mem_singleton.mp hb
    rw [find?_of_row? h hdead] at live
    cases live
  | removed => cases hb
  | read _ _ known =>
    have := known b hb
    rw [find?_of_row? h hdead] at this
    cases this

/-- **A new record gets the next identifier** where the counter is above all others, so nothing stands in its way. -/
theorem Effect.new_of_fresh (hfresh : r.Fresh) (hnew : call.IsNew) :
    ∃ b, answer = .written b ∧ Record.id b = r.nextId := by
  cases e with
  | refused _ taken =>
    obtain ⟨b, hb, hid⟩ := taken hnew
    exact absurd (hfresh b hb) (hid ▸ UInt64.lt_irrefl _)
  | @stored a b _ _ _ id => exact ⟨b, rfl, id.trans (if_pos hnew)⟩
  | rewritten _ _ old =>
    cases call with
    | create a => cases old
    | _ => exact hnew.elim
  | removed => exact hnew.elim
  | read _ old =>
    cases call with
    | create a => cases old
    | _ => exact hnew.elim

/-- **A call that writes a removed record is refused**, and the rows are as they were. -/
theorem Effect.refused_of_dead (h : r.row? i = some a) (hdead : Record.isLive a = false)
    (htarget : call.target? = some i) : ∃ f, answer = .failed f ∧ r'.rows = r.rows := by
  cases e with
  | @refused _ f _ same => exact ⟨f, rfl, same⟩
  | @stored a b _ free _ id =>
    by_cases hnew : Record.id a = 0
    · rw [Call.target?, if_pos hnew] at htarget
      cases htarget
    · rw [Call.target?, if_neg hnew] at htarget
      rw [if_neg hnew, Option.some.inj htarget] at id
      rw [id, h] at free
      cases free
  | rewritten live target =>
    rw [target] at htarget
    rw [Option.some.inj htarget, find?_of_row? h hdead] at live
    cases live
  | removed => cases htarget
  | read reads =>
    rw [reads] at htarget
    cases htarget

section Lawful

variable [LawfulRecord α]

/-- **A call changes only what it names**: a row that it does not name is where it was. -/
theorem Effect.row?_of_row? (hname : i ∉ call.names) (h : r.row? i = some a) : r'.row? i = some a := by
  cases e with
  | refused same => rwa [row?_congr same]
  | stored free rows => exact row?_of_stored free rows h
  | rewritten live target =>
    rw [row?_put, if_neg]
    · exact h
    · rintro rfl
      exact hname (Call.mem_names target)
  | @removed ids =>
    have hnot : i ∉ ids := hname
    rw [row?_delete, h, Option.map_some, if_neg hnot]
  | read => exact h

/-- What stands in the repository after a call stood there under its identifier, or is new. -/
theorem Effect.origin (h : r'.row? i = some b) : (∃ a, r.row? i = some a) ∨
    ∃ a, call = .create a ∧ answer = .written b ∧
      i = if Record.id a = 0 then r.nextId else Record.id a := by
  cases e with
  | refused same => exact .inl ⟨b, by rwa [row?_congr same] at h⟩
  | @stored a c _ free rows id =>
    rw [row?_congr (r := r.put _) rows, row?_put] at h
    split at h
    · rename_i heq
      obtain rfl := Option.some.inj h
      exact .inr ⟨a, rfl, rfl, heq.trans id⟩
    · exact .inl ⟨b, h⟩
  | @rewritten _ a c live =>
    rw [row?_put] at h
    split at h
    · rename_i heq
      exact .inl ⟨a, heq ▸ row?_of_find? live⟩
    · exact .inl ⟨b, h⟩
  | removed =>
    rw [row?_delete] at h
    obtain ⟨a, ha, _⟩ := Option.map_eq_some_iff.mp h
    exact .inl ⟨a, ha⟩
  | read => exact .inl ⟨b, h⟩

/-- No identifier is forgotten: a removal leaves the row where it is. -/
theorem Effect.known (h : r.row? i = some a) : ∃ b, r'.row? i = some b := by
  cases e with
  | refused same => exact ⟨a, by rwa [row?_congr same]⟩
  | stored free rows => exact ⟨a, row?_of_stored free rows h⟩
  | rewritten =>
    rw [row?_put]
    split
    · exact ⟨_, rfl⟩
    · exact ⟨a, h⟩
  | removed =>
    rw [row?_delete, h]
    exact ⟨_, rfl⟩
  | read => exact ⟨a, h⟩

/-- **A call adds only what it names**, or the new record that it was asked for. -/
theorem Effect.row?_of_row?_after (hname : i ∉ call.names) (h : r'.row? i = some b) :
    r.row? i = some b ∨ call.IsNew ∧ answer = .written b := by
  rcases e.origin h with ⟨a, ha⟩ | ⟨a, rfl, hanswer, hid⟩
  · have hstays := e.row?_of_row? hname ha
    rw [h] at hstays
    exact .inl (ha.trans hstays.symm)
  · refine .inr ⟨?_, hanswer⟩
    by_contra hnew
    have hid : i = Record.id a := hid.trans (if_neg hnew)
    exact hname (Call.mem_names ((if_neg hnew).trans (congrArg some hid.symm)))

/-- **A removed record stays as it is.** -/
theorem Effect.row?_of_dead (h : r.row? i = some a) (hdead : Record.isLive a = false) :
    r'.row? i = some a := by
  cases e with
  | refused same => rwa [row?_congr same]
  | stored free rows => exact row?_of_stored free rows h
  | rewritten live =>
    rw [row?_put, if_neg]
    · exact h
    · rintro rfl
      rw [find?_of_row? h hdead] at live
      cases live
  | removed =>
    rw [row?_delete, h, Option.map_some, struck_of_dead hdead, ite_self]
  | read => exact h

end Lawful

end Effect

/-! ## The counter -/

/-- **A repository whose counter is sound** after so many new records: it is above every identifier,
and far from its end as long as the new records are few. -/
structure Counts (made : Nat) (r : Repository α) : Prop where
  fresh : r.Fresh
  below : r.nextId.toNat ≤ 2 ^ 63 + made

theorem counts_empty : Counts 0 (empty : Repository α) where
  fresh _ h := absurd h List.not_mem_nil
  below := show 1 ≤ 2 ^ 63 + 0 by decide

theorem nextId_delete (now : Time.Instant) (ids : List RecordId) (r : Repository α) :
    (r.delete now ids).2.nextId = r.nextId := by
  suffices h : ∀ (ids : List RecordId) (acc : Nat × Repository α),
      (ids.foldl (deleteOne now) acc).2.nextId = acc.2.nextId from h ids (0, r)
  intro ids
  induction ids with
  | nil => exact fun _ => rfl
  | cons i rest ih =>
    intro acc
    rw [List.foldl_cons, ih]
    unfold deleteOne
    split <;> rfl

/-- Only a new record moves the counter; no removal gives an identifier free. -/
theorem nextId_serve (now : Time.Instant) (r : Repository α) (call : Call α) :
    (call.serve now r).2.nextId =
      match call with
      | .create a => (assign r.nextId a).2
      | _ => r.nextId := by
  cases call with
  | create a =>
    show (r.create now a).2.nextId = _
    cases h : r.row? (assign r.nextId a).1 with
    | some b => rw [create_of_some h]
    | none => rw [create_of_none h]
  | replace a =>
    show (r.replace now a).2.nextId = _
    unfold replace
    split <;> rfl
  | update id p =>
    show (r.update now id p).2.nextId = _
    unfold update
    split <;> rfl
  | delete ids => exact nextId_delete now ids r
  | find id => rfl
  | findMany f p => rfl

/-- Below its end the counter counts as numbers do. -/
theorem toNat_succ {x : UInt64} (h : x.toNat + 1 < 2 ^ 64) : (x + 1).toNat = x.toNat + 1 := by
  rw [UInt64.toNat_add]
  exact Nat.mod_eq_of_lt h

/-- **A counter that is far from its end** moves past the identifier that it gives, its own or one that the record
brings along. -/
theorem toNat_assign {next : RecordId} (ha : (Record.id a).toNat < 2 ^ 63)
    (hnext : next.toNat + (if Record.id a = 0 then 1 else 0) < 2 ^ 64) :
    (assign next a).1.toNat < (assign next a).2.toNat ∧ next.toNat ≤ (assign next a).2.toNat ∧
      (assign next a).2.toNat ≤ max (2 ^ 63) (next.toNat + if Record.id a = 0 then 1 else 0) := by
  unfold assign
  split
  · rename_i hid
    rw [if_pos hid] at hnext
    simp only [toNat_succ hnext]
    omega
  · have hid : (Record.id a + 1).toNat = (Record.id a).toNat + 1 := toNat_succ (by omega)
    simp only [UInt64.toNat_max, hid]
    omega

variable {x y : Step α} {n : Nat}

/-- What a call made, it made under an identifier that was free: the record is what the call gave back. -/
theorem Step.made?_eq_some (h : x.made? = some b) :
    (∃ a, x.call = .create a) ∧ x.answer = .written b := by
  unfold made? at h
  split at h
  · rename_i a c hcall hanswer
    exact ⟨⟨a, hcall⟩, hanswer.trans (congrArg _ (Option.some.inj h))⟩
  · cases h

section Lawful

variable [LawfulRecord α]

/-- What a call that was served did is one of the things that calls do. -/
theorem Step.effect (x : Step α) : Effect x.now x.before x.call x.answer x.after :=
  Repository.effect x.now x.before x.call

/-- Nothing stood before under the identifier of a new record. -/
theorem Step.row?_of_made? (h : x.made? = some b) : x.before.row? (Record.id b) = none := by
  obtain ⟨⟨a, hcall⟩, hanswer⟩ := made?_eq_some h
  have e := x.effect
  rw [hcall, hanswer] at e
  generalize x.after = after at e
  cases e with
  | stored free => exact free
  | rewritten _ _ old => cases old
  | read _ old => cases old

/-- What stands in the repository after a call has the identifier that the call gave, or stood there
under its identifier before. -/
theorem Step.origin (hb : b ∈ x.after.rows) : (∃ a ∈ x.before.rows, Record.id a = Record.id b) ∨
    ∃ a, x.call = .create a ∧ Record.id b = (assign x.before.nextId a).1 := by
  rcases x.effect.origin (row?_eq_some_iff.mpr ⟨hb, rfl⟩) with ⟨a, hrow⟩ | ⟨a, hcall, _, hid⟩
  · exact .inl ⟨a, row?_eq_some_iff.mp hrow⟩
  · refine .inr ⟨a, hcall, hid.trans ?_⟩
    unfold assign
    split <;> rfl

/-- A call that asks for a new record makes one where the counter is sound. -/
theorem Step.made_of_isNew (hfresh : x.before.Fresh) (hnew : x.call.IsNew) :
    ∃ b, x.made? = some b ∧ Record.id b = x.before.nextId := by
  obtain ⟨b, hanswer, hid⟩ := x.effect.new_of_fresh hfresh hnew
  refine ⟨b, ?_, hid⟩
  unfold made?
  cases hcall : x.call with
  | create a => rw [hanswer]
  | _ =>
    rw [hcall] at hnew
    exact hnew.elim

/-- **Every call leaves the counter sound**, as long as new records are few and bring along no identifier of the
upper half. -/
theorem Step.counts (hbefore : Counts n x.before) (hmodest : x.call.IsModest)
    (hmade : n + x.made?.toList.length < 2 ^ 63) : Counts (n + x.made?.toList.length) x.after := by
  have hbelow := hbefore.below
  have hcounter : x.after.nextId = match x.call with
      | .create a => (assign x.before.nextId a).2
      | _ => x.before.nextId := nextId_serve x.now x.before x.call
  by_cases hcreate : ∃ a, x.call = .create a
  · obtain ⟨a, hcall⟩ := hcreate
    simp only [hcall] at hmodest hcounter
    -- the counter moves by one only where a record is made
    have hstep : (if Record.id a = 0 then 1 else 0) ≤ x.made?.toList.length := by
      split
      · rename_i hid
        obtain ⟨b, hb, _⟩ := made_of_isNew hbefore.fresh (hcall ▸ hid : x.call.IsNew)
        rw [hb]
        exact Nat.le_refl 1
      · exact Nat.zero_le _
    obtain ⟨hgiven, hgrows, hlimit⟩ := toNat_assign hmodest
      (show x.before.nextId.toNat + (if Record.id a = 0 then 1 else 0) < 2 ^ 64 by omega)
    rw [← hcounter] at hgiven hgrows hlimit
    refine ⟨fun b hb => UInt64.lt_iff_toNat_lt.mpr ?_, by omega⟩
    rcases x.origin hb with ⟨c, hc, hid⟩ | ⟨c, hcall', hid⟩
    · rw [← hid]
      exact Nat.lt_of_lt_of_le (UInt64.lt_iff_toNat_lt.mp (hbefore.fresh c hc)) hgrows
    · obtain rfl := Call.create.inj (hcall.symm.trans hcall')
      rw [hid]
      exact hgiven
  · have hsame : x.after.nextId = x.before.nextId := by
      rw [hcounter]
      split
      · rename_i a hcall
        exact absurd ⟨a, hcall⟩ hcreate
      · rfl
    refine ⟨fun b hb => ?_, by rw [hsame]; omega⟩
    rcases x.origin hb with ⟨c, hc, hid⟩ | ⟨c, hcall, _⟩
    · rw [hsame, ← hid]
      exact hbefore.fresh c hc
    · exact absurd ⟨c, hcall⟩ hcreate

/-- **The counter is sound throughout a history** of few new records. The induction is on the calls; what is
counted along are the records that were made so far. -/
theorem fresh_of_mem_history : ∀ {calls : List (Time.Instant × Call α)} {r : Repository α} {n : Nat},
    Counts n r → (∀ c ∈ calls, c.2.IsModest) →
    n + ((history r calls).filterMap Step.made?).length < 2 ^ 63 →
    ∀ x ∈ history r calls, x.before.Fresh
  | [], _, _, _, _, _ => fun _ h => absurd h List.not_mem_nil
  | (now, call) :: rest, r, n, hr, hmodest, hmade => by
    have hcount : ((history r ((now, call) :: rest)).filterMap Step.made?).length =
        (Step.made? ⟨now, r, call⟩).toList.length +
          ((history (Step.after ⟨now, r, call⟩) rest).filterMap Step.made?).length := by
      rw [history, List.filterMap_cons]
      cases Step.made? (⟨now, r, call⟩ : Step α) <;> simp [Nat.add_comm]
    have hafter := Step.counts hr (hmodest _ List.mem_cons_self)
      (x := ⟨now, r, call⟩) (by omega)
    intro x hx
    rcases List.mem_cons.mp hx with rfl | hx
    · exact hr.fresh
    · exact fresh_of_mem_history hafter (fun c hc => hmodest c (List.mem_cons_of_mem _ hc)) (by omega) x hx

end Lawful

/-! ## Histories -/

/-- **One repository comes after another**: every row stands under its identifier still, and a removed
one unchanged. -/
def Succeeds (r r' : Repository α) : Prop :=
  ∀ i a, r.row? i = some a → ∃ b, r'.row? i = some b ∧ (Record.isLive a = false → b = a)

theorem Succeeds.refl (r : Repository α) : Succeeds r r := fun _ a h => ⟨a, h, fun _ => rfl⟩

/-- What comes after something that comes after comes after: a removed record is unchanged through both. -/
theorem Succeeds.trans {r₁ r₂ r₃ : Repository α} (h : Succeeds r₁ r₂) (h' : Succeeds r₂ r₃) :
    Succeeds r₁ r₃ := by
  intro i a ha
  obtain ⟨b, hb, hdead⟩ := h i a ha
  obtain ⟨c, hc, hdead'⟩ := h' i b hb
  refine ⟨c, hc, fun hlive => ?_⟩
  obtain rfl := hdead hlive
  exact hdead' hlive

/-- **A call does right by the records that stand before it.** -/
structure Step.Lawful (x : Step α) : Prop where
  /-- A new record is made, and its identifier is above every one stored. -/
  new : x.call.IsNew → ∃ b, x.answer = .written b ∧ x.after.row? (Record.id b) = some b ∧
    ∀ a ∈ x.before.rows, Record.id a < Record.id b
  /-- Only the rows that the call names change. -/
  kept : ∀ i a, i ∉ x.call.names → x.before.row? i = some a → x.after.row? i = some a
  /-- Only rows that the call names are added, and the new record that it asked for. -/
  added : ∀ i b, i ∉ x.call.names → x.after.row? i = some b →
    x.before.row? i = some b ∨ x.call.IsNew ∧ x.answer = .written b

/-- **A call cannot reach a removed record.** -/
structure Step.Buries (x : Step α) (i : RecordId) (d : α) : Prop where
  /-- It stays as it is. -/
  kept : x.after.row? i = some d
  /-- It is not given back, nor is another under its identifier. -/
  hidden : ∀ b ∈ x.answer.records, Record.id b ≠ i
  /-- To write it fails, and changes no row. -/
  refused : x.call.target? = some i → ∃ f, x.answer = .failed f ∧ x.after.rows = x.before.rows
  /-- To remove it again counts for nothing. -/
  uncounted : x.call = .delete [i] → x.answer = .removed 0 ∧ x.after = x.before
  /-- A removal that names it among others does what it does without. -/
  skipped : ∀ ids, x.call = .delete ids →
    (x.answer, x.after) = (Call.delete (ids.filter fun j => decide (j ≠ i))).serve x.now x.before

/-- **A call does right by the records of an earlier call.** -/
structure Step.Precedes (x y : Step α) : Prop where
  /-- A new record gets an identifier above every one that was stored or given back. -/
  above : y.call.IsNew → ∀ b ∈ y.answer.records, ∀ a, a ∈ x.after.rows ∨ a ∈ x.answer.records →
    Record.id a < Record.id b
  /-- No identifier is given out twice. -/
  apart : ∀ a b, x.made? = some a → y.made? = some b → Record.id a ≠ Record.id b
  /-- What is removed is out of reach. -/
  buried : ∀ i d, x.after.row? i = some d → Record.isLive d = false → y.Buries i d

section Lawful

variable [LawfulRecord α]

/-- **The repository after a call comes after the one before it.** -/
theorem Step.succeeds (x : Step α) : Succeeds x.before x.after := by
  intro i a ha
  by_cases hdead : Record.isLive a = false
  · exact ⟨a, x.effect.row?_of_dead ha hdead, fun _ => rfl⟩
  · obtain ⟨b, hb⟩ := x.effect.known ha
    exact ⟨b, hb, fun h => absurd h hdead⟩

/-- **A call of a repository with a sound counter does right** by the records that stand before it. -/
theorem Step.lawful (hfresh : x.before.Fresh) : x.Lawful where
  new hnew := by
    obtain ⟨b, hanswer, hid⟩ := x.effect.new_of_fresh hfresh hnew
    have hmem : b ∈ x.answer.records := by
      rw [hanswer]
      exact List.mem_singleton_self b
    exact ⟨b, hanswer, x.effect.row?_of_mem hmem, fun a ha => hid ▸ hfresh a ha⟩
  kept _ _ hname ha := x.effect.row?_of_row? hname ha
  added _ _ hname hb := x.effect.row?_of_row?_after hname hb

/-- **A removed record is out of reach of every call**: none finds it, changes it or gives it back. -/
theorem Step.buries {i : RecordId} {d : α} (h : x.before.row? i = some d)
    (hdead : Record.isLive d = false) : x.Buries i d where
  kept := x.effect.row?_of_dead h hdead
  hidden _ hb := x.effect.ne_of_dead h hdead hb
  refused htarget := x.effect.refused_of_dead h hdead htarget
  uncounted hcall := by
    have hnone := find?_of_row? h hdead
    have hdelete : x.before.delete x.now [i] = (0, x.before) := by
      rw [delete_filter hnone, List.filter_cons_of_neg (by simp)]
      rfl
    rw [answer, after, hcall, Call.serve, hdelete]
    exact ⟨rfl, rfl⟩
  skipped ids hcall := by
    rw [answer, after, hcall, Call.serve, Call.serve, delete_filter (find?_of_row? h hdead) ids]

/-- What holds of the records of a call still holds when a later call is served, however many lie between. -/
theorem Step.precedes (hy : y.before.Fresh) (h : Succeeds x.after y.before) : x.Precedes y where
  above hnew b hb a ha := by
    obtain ⟨c, hanswer, hid⟩ := y.effect.new_of_fresh hy hnew
    rw [hanswer] at hb
    obtain rfl := List.mem_singleton.mp hb
    have hrow : x.after.row? (Record.id a) = some a :=
      ha.elim (fun ha => row?_eq_some_iff.mpr ⟨ha, rfl⟩) x.effect.row?_of_mem
    obtain ⟨c, hc, _⟩ := h _ _ hrow
    obtain ⟨hmem, hsame⟩ := row?_eq_some_iff.mp hc
    rw [hid, ← hsame]
    exact hy c hmem
  apart a b ha hb := by
    intro hid
    have hmem : a ∈ x.answer.records := by
      rw [(made?_eq_some ha).2]
      exact List.mem_singleton_self a
    obtain ⟨c, hc, _⟩ := h _ _ (x.effect.row?_of_mem hmem)
    rw [hid, row?_of_made? hb] at hc
    cases hc
  buried i d hd hdead := by
    obtain ⟨c, hc, hsame⟩ := h i d hd
    exact buries (hsame hdead ▸ hc) hdead

/-- Every repository of a history comes after the one that it starts from. -/
theorem succeeds_of_mem_history : ∀ {calls : List (Time.Instant × Call α)} {r : Repository α},
    ∀ x ∈ history r calls, Succeeds r x.before
  | [], _, _, h => absurd h List.not_mem_nil
  | (now, call) :: rest, r, x, h => by
    rcases List.mem_cons.mp h with rfl | h
    · exact .refl r
    · exact (Step.succeeds ⟨now, r, call⟩).trans (succeeds_of_mem_history x h)

/-- **Any two calls of a history**, the one before the other, not only neighbours. The induction is on the
history. -/
theorem history_precedes : ∀ {calls : List (Time.Instant × Call α)} {r : Repository α},
    (∀ x ∈ history r calls, x.before.Fresh) → (history r calls).Pairwise Step.Precedes
  | [], _, _ => .nil
  | (now, call) :: rest, r, hfresh => by
    have hrest := fun x hx => hfresh x (List.mem_cons_of_mem _ hx)
    exact .cons (fun y hy => Step.precedes (hrest y hy) (succeeds_of_mem_history y hy))
      (history_precedes hrest)

/-- **The life of records**, over every history of an empty repository whose new records are few and
bring along no identifier of the upper half: each call does right by the records that stand before it,
and by those of every earlier call. -/
theorem history_lawful (calls : List (Time.Instant × Call α)) (hmodest : ∀ c ∈ calls, c.2.IsModest)
    (hmade : ((history empty calls).filterMap Step.made?).length < 2 ^ 63) :
    (∀ x ∈ history empty calls, x.Lawful) ∧ (history empty calls).Pairwise Step.Precedes := by
  have hfresh := fresh_of_mem_history counts_empty hmodest (by omega)
  exact ⟨fun x hx => Step.lawful (hfresh x hx), history_precedes hfresh⟩

end Lawful

/-- Two new records, the second with an identifier of its own; the first is removed, then sought, changed
and removed again, and another new record comes after. -/
def shortLife : List (Time.Instant × Call Workload) :=
  [.create Workload.blank, .create { Workload.blank with id := 10 }, .delete [1],
    .update 1 { status := some .running }, .delete [10, 1], .findMany {} .all,
    .create { Workload.blank with id := 1 }, .create Workload.blank].map (Time.Instant.epoch, ·)

example : ((history empty shortLife).filterMap Step.made?).map Workload.id = [1, 10, 11] := by
  decide +kernel

theorem history_lawful_short : (∀ c ∈ shortLife, c.2.IsModest) ∧
    ((history empty shortLife).filterMap Step.made?).length < 2 ^ 63 ∧
    (∀ x ∈ history empty shortLife, x.Lawful) ∧ (history empty shortLife).Pairwise Step.Precedes := by
  have hmodest : ∀ c ∈ shortLife, c.2.IsModest := by
    simp [shortLife, Call.IsModest, Workload.blank, Record.id]
  have hmade : ((history empty shortLife).filterMap Step.made?).length < 2 ^ 63 := by decide +kernel
  exact ⟨hmodest, hmade, history_lawful shortLife hmodest hmade⟩

end Repository

end FleetControl
