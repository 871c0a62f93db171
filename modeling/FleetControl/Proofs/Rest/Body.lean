import FleetControl.Rest.Serve

/-!
# Owners in answers

A workload is written with its owner under `"owner_id"`, and nothing else that is written has a member of
that name. So whose workloads an answer holds can be read off the answer: if every owner that its content
names is one user (`Json.Names`), every workload within it, at whatever depth, is that user's
(`Json.Names.owner`).
-/

namespace FleetControl

namespace Json

variable {u : RecordId} {v x : Json}

/-- **A value stands within another**, as the whole or as a part at some depth. -/
inductive Within (x : Json) : Json → Prop
  | whole : Within x x
  | item {v : Json} {items : List Json} (mem : v ∈ items) (inside : Within x v) : Within x (.arr items)
  | member {m : String × Json} {members : List (String × Json)} (mem : m ∈ members) (inside : Within x m.2) :
      Within x (.obj members)

/-- **Every owner that is named within a value** is the given one. -/
def Names (u : RecordId) (v : Json) : Prop := ∀ ms, Within (.obj ms) v →
  ∀ owner, ms.lookup "owner_id" = some owner → owner = .u64 u

/-- A null names no owner, nor does any other scalar: an owner is named by a member of an object. -/
@[simp] theorem names_null : Names u .null := by
  rintro _ ⟨⟩

@[simp] theorem names_bool (b : Bool) : Names u (.bool b) := by
  rintro _ ⟨⟩

@[simp] theorem names_int (n : Int) : Names u (.int n) := by
  rintro _ ⟨⟩

@[simp] theorem names_real (x : Float) : Names u (.real x) := by
  rintro _ ⟨⟩

@[simp] theorem names_str (s : String) : Names u (.str s) := by
  rintro _ ⟨⟩

@[simp] theorem names_u64 (n : UInt64) : Names u (.u64 n) := names_int _

/-- An array names the owners that its items name. -/
@[simp] theorem names_arr {items : List Json} : Names u (.arr items) ↔ ∀ v ∈ items, Names u v := by
  constructor
  · intro h v hv ms hms
    exact h ms (.item hv hms)
  · rintro h ms (_ | ⟨mem, inside⟩ | _)
    exact h _ mem ms inside

/-- **An object names the owner in its own `"owner_id"`**, if it has one, and those that its members name. -/
@[simp] theorem names_obj {ms : List (String × Json)} : Names u (.obj ms) ↔
    (∀ owner, ms.lookup "owner_id" = some owner → owner = .u64 u) ∧ ∀ m ∈ ms, Names u m.2 := by
  constructor
  · exact fun h => ⟨h ms .whole, fun m hm ms' hms => h ms' (.member hm hms)⟩
  · rintro ⟨hself, hmembers⟩ ms' (_ | _ | ⟨mem, inside⟩)
    · exact hself
    · exact hmembers _ mem ms' inside

/-- A list of records names the owners that the records name, however long it is. -/
@[simp] theorem names_list {α : Type} {f : α → Json} {xs : List α} :
    Names u (.list f xs) ↔ ∀ a ∈ xs, Names u (f a) := by
  simp [Json.list]

@[simp] theorem names_finite (x : Float) : Names u (.finite x) := by
  unfold finite
  split <;> simp

/-- A value that may be missing names no owner where it is. -/
theorem names_opt {α : Type} {f : α → Json} (h : ∀ a, Names u (f a)) : ∀ a : Option α, Names u (.opt f a)
  | none => names_null
  | some a => h a

/-- An object that names no owner itself, and none of whose members names another. -/
theorem names_of_lookup_eq_none {ms : List (String × Json)} (hnone : ms.lookup "owner_id" = none)
    (h : ∀ m ∈ ms, Names u m.2) : Names u (.obj ms) :=
  names_obj.mpr ⟨fun _ howner => (nomatch hnone.symm.trans howner), h⟩

/-- Two numbers that are written alike are the same. -/
theorem u64_inj {m n : UInt64} (h : Json.u64 m = .u64 n) : m = n := by
  unfold Json.u64 at h
  injection h with h
  exact UInt64.toNat_inj.mp (Int.ofNat_inj.mp h)

end Json

open Json (Names names_of_lookup_eq_none names_opt)

variable {u : RecordId}

/-! ## Workloads -/

/-- The owner stands in what is written of a workload under its own name, and that of nobody else. -/
theorem Workload.lookup_owner (w : Workload) : w.json.members.lookup "owner_id" = some (.u64 w.ownerId) := rfl

/-- **A workload names its owner**, and nothing else that is written of it names one. -/
theorem Workload.names_json {w : Workload} (h : w.ownerId = u) : Names u w.json := by
  have htime : ∀ t, Names u (Stamps.timeJson t) := fun t => Json.names_str _
  have hmembers : ∀ m ∈ w.json.members, Names u m.2 := by
    simp [Workload.json, Json.members, Stamps.members, htime, names_opt, Status.json]
  refine Json.names_obj.mpr ⟨fun owner howner => ?_, hmembers⟩
  rw [← h]
  exact (Option.some.inj (w.lookup_owner.symm.trans howner)).symm

/-- **Every workload within a value is the one user's** whom the value names, at whatever depth it stands; the
induction is on where it stands. -/
theorem Json.Names.owner {v : Json} {w : Workload} (h : Names u v) (hw : Json.Within w.json v) :
    w.ownerId = u :=
  Json.u64_inj (h w.json.members hw _ w.lookup_owner)

/-! ## What names nobody -/

/-- A candidate is written without any owner, for it is about a node. -/
theorem Candidate.names_json (c : Candidate) : Names u c.json :=
  names_of_lookup_eq_none rfl (by simp [names_opt])

/-- What is told of a node names nobody. -/
theorem NodeSummary.names_json (n : NodeSummary) : Names u n.json :=
  names_of_lookup_eq_none rfl (by simp [names_opt, Connectivity.json])

/-- What there is to choose from names nobody. -/
theorem Catalog.names_json (c : Catalog) : Names u c.json := by
  have himage : ∀ o : ImageOption, Names u o.json := fun o => names_of_lookup_eq_none rfl (by simp)
  have hnode : ∀ o : NodeOption, Names u o.json := fun o => names_of_lookup_eq_none rfl (by simp)
  have hspec : ∀ o : SpecOption, Names u o.json := fun o => names_of_lookup_eq_none rfl (by simp [names_opt])
  exact names_of_lookup_eq_none rfl (by simp [himage, hnode, hspec])

/-- Statistics name nobody. -/
theorem Telemetry.Stats.names_json (s : Telemetry.Stats) : Names u s.json :=
  names_of_lookup_eq_none rfl (by simp [Telemetry.Stats.members])

/-- A page of workloads names the owners of its workloads; the figures beside the items name nobody. -/
theorem names_paged {p : Paged Workload} (h : ∀ w ∈ p.items, w.ownerId = u) :
    Names u (p.json Workload.json) := by
  have hitems : ∀ w ∈ p.items, Names u w.json := fun w hw => Workload.names_json (h w hw)
  exact names_of_lookup_eq_none rfl (by simpa using hitems)

/-! ## Answers -/

namespace Rest

/-- **A value stands in an answer**, as its content or as a part of that. -/
def Response.Holds (a : Response) (x : Json) : Prop := ∃ v, a.content = .json v ∧ x.Within v

/-- **Every owner that an answer names** is the given one. -/
def Response.Names (u : RecordId) (a : Response) : Prop := ∀ v, a.content = .json v → v.Names u

/-- An answer names the owners that its content names. -/
theorem Response.names_json {v : Json} (h : v.Names u) : (Response.json v).Names u := by
  rintro _ ⟨⟩
  exact h

end Rest

end FleetControl
