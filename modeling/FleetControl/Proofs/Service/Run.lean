import FleetControl.Proofs.Service.Writes

/-!
# Runs of calls

A run serves calls one after another, each to its end, whatever the engines answer. What a call other
than an order does to the records is one relation, `Store.Moves`: specs, images and cards stay, and so
do the footprints, or some of them go where workloads are removed. The relation needs one invariant of
the records, `Store.UnitsHold`: a live workload that has a unit holds room. Without it a workload that
had failed could be started, and would take room that nobody checked.

Each call has one of three effects (`Call.effect`): an order ends as `Creation` lists, every other
call moves the records (`bears_settles`, `drops_shrinks`). `Run.induct` carries an invariant of the
records over a whole run.
-/

namespace FleetControl

/-- Two records of one node, with the same cards. -/
structure Node.SameCards (n n' : Node) : Prop where
  id : n'.id = n.id
  gpuCount : n'.gpuCount = n.gpuCount
  perCardGb : n'.perCardGb = n.perCardGb

namespace Store

variable {s s' : Store} {w w' : Workload} {Q : List Footprint → List Footprint → Prop}

/-- **A live workload that has a unit holds room.** -/
def UnitsHold (s : Store) : Prop := ∀ w ∈ s.workloads.rows,
  w.stamps.deleted = none → w.unit?.isSome = true → w.holdsCapacity = true

/-- **What a call other than an order does**: the footprints change as `Q` says. -/
structure Moves (Q : List Footprint → List Footprint → Prop) (s s' : Store) : Prop
    extends SameCatalog s s' where
  nodes : ∀ id n', s'.nodes.find? id = some n' → ∃ n, s.nodes.find? id = some n ∧ n.SameCards n'
  units : s'.UnitsHold
  footprints : Q s.footprints s'.footprints

/-- Records whose units hold room are moved. -/
def Settles (Q : List Footprint → List Footprint → Prop) (s s' : Store) : Prop :=
  s.UnitsHold → s.Moves Q s'

/-- Some footprints are gone, and the others are in their order. -/
def Shrinks (fs fs' : List Footprint) : Prop := fs'.Sublist fs

instance : IsPreorder (List Footprint) Shrinks where
  refl := List.Sublist.refl
  trans _ _ _ h₁ h₂ := h₂.trans h₁

/-- Records whose units hold room move by doing nothing. -/
theorem Moves.refl [Std.Refl Q] (hs : s.UnitsHold) : s.Moves Q s where
  specs := rfl
  images := rfl
  nodes _ n h := ⟨n, h, rfl, rfl, rfl⟩
  units := hs
  footprints := Std.Refl.refl _

/-- Two moves in a row are a move, if what they do to the footprints can be chained. -/
theorem Moves.trans [IsTrans _ Q] {s'' : Store} (h₁ : s.Moves Q s') (h₂ : s'.Moves Q s'') :
    s.Moves Q s'' where
  specs := h₂.specs.trans h₁.specs
  images := h₂.images.trans h₁.images
  nodes id n'' h := by
    obtain ⟨n', hn', hcards'⟩ := h₂.nodes id n'' h
    obtain ⟨n, hn, hcards⟩ := h₁.nodes id n' hn'
    exact ⟨n, hn, hcards'.id.trans hcards.id, hcards'.gpuCount.trans hcards.gpuCount,
      hcards'.perCardGb.trans hcards.perCardGb⟩
  units := h₂.units
  footprints := IsTrans.trans _ _ _ h₁.footprints h₂.footprints

/-- A move that keeps the footprints is one by which some may go. -/
theorem Moves.shrinks (h : s.Moves Eq s') : s.Moves Shrinks s' :=
  { h with footprints := h.footprints ▸ List.Sublist.refl _ }

instance [IsPreorder _ Q] : IsPreorder Store (Settles Q) where
  refl _ hs := .refl hs
  trans _ _ _ h₁ h₂ hs := (h₁ hs).trans (h₂ (h₁ hs).units)

/-! ## Records that are put again -/

theorem filterMap_eq_of_forall₂ {α β : Type} {f : α → Option β} {xs ys : List α}
    (h : List.Forall₂ (fun a b => f b = f a) xs ys) : ys.filterMap f = xs.filterMap f := by
  induction h with
  | nil => rfl
  | cons hab _ ih => rw [List.filterMap_cons, List.filterMap_cons, hab, ih]

theorem filterMap_sublist_of_forall₂ {α β : Type} {f : α → Option β} {xs ys : List α}
    (h : List.Forall₂ (fun a b => f b = f a ∨ f b = none) xs ys) :
    (ys.filterMap f).Sublist (xs.filterMap f) := by
  induction h with
  | nil => exact .slnil
  | @cons a b _ _ hab _ ih =>
    rw [List.filterMap_cons, List.filterMap_cons]
    rcases hab with hab | hab
    · rw [hab]
      cases f a with
      | none => exact ih
      | some c => exact ih.cons_cons c
    · rw [hab]
      cases f a with
      | none => exact ih
      | some c => exact ih.cons c

/-- A workload that holds room as before leaves the footprints as they are, in their order. -/
theorem footprints_put (h : s.workloads.find? w'.id = some w) (hf : w'.footprint? = w.footprint?) :
    { s with workloads := s.workloads.put w' }.footprints = s.footprints :=
  filterMap_eq_of_forall₂ (Repository.forall₂_put (fun _ => rfl) h hf)

/-- A workload that holds no room any more takes its footprint with it, and leaves the others in their order. -/
theorem footprints_put_none (h : s.workloads.find? w'.id = some w) (hf : w'.footprint? = none) :
    Shrinks s.footprints { s with workloads := s.workloads.put w' }.footprints :=
  filterMap_sublist_of_forall₂ (Repository.forall₂_put (fun _ => .inl rfl) h (.inr hf))

/-- One more row whose unit holds room, or one that takes the place of another, keeps the invariant. -/
theorem UnitsHold.place (hs : s.UnitsHold) (hrows : s'.workloads.rows = Record.place w s.workloads.rows)
    (hw : w.stamps.deleted = none → w.unit?.isSome = true → w.holdsCapacity = true) : s'.UnitsHold := by
  intro v hv
  rw [hrows] at hv
  rcases Record.mem_place hv with rfl | hv
  · exact hw
  · exact hs v hv

/-- A workload that holds room has its footprint in the replay. -/
theorem footprint?_of_holds (h : w.holdsCapacity = true) : w.footprint? = some w.footprint :=
  if_pos h

/-- A live workload that has a unit is found to hold room. -/
theorem UnitsHold.of_find? {id : RecordId} (hs : s.UnitsHold) (h : s.workloads.find? id = some w)
    (hunit : w.unit?.isSome = true) : w.holdsCapacity = true := by
  obtain ⟨hmem, _, hlive⟩ := Repository.find?_eq_some_iff.mp h
  exact hs w hmem (Option.isNone_iff_eq_none.mp hlive) hunit

end Store

namespace Service

open Store (Moves Settles Shrinks UnitsHold)

variable {v : Service} {p : Principal} {id : RecordId} {s s' : Store} {w : Workload}

/-- A status that holds room. -/
def holds (status : Status) : Prop := status ≠ .failed ∧ status ≠ .removed

/-- **Among statuses that hold room, a workload's status may be set**, and what a probe found of a
node may be recorded: the footprints stay. -/
theorem bears_settles : Bears (Settles Eq) where
  status := by
    intro s w status now hfind hunit hstatus hs
    have hroom : holds status := hstatus.2
    have hlive : w.stamps.deleted.isNone = true := (Repository.find?_eq_some_iff.mp hfind).2.2
    have hbefore : w.holdsCapacity = true := hs.of_find? hfind hunit
    have hafter : (Record.touch now { w with status := status }).holdsCapacity = true := by
      show (w.stamps.deleted.isNone && status != .failed && status != .removed) = true
      simp [hlive, hroom.1, hroom.2]
    refine ⟨⟨rfl, rfl⟩, fun _ n h => ⟨n, h, rfl, rfl, rfl⟩, hs.place rfl fun _ _ => hafter, ?_⟩
    have hsame : (Record.touch now { w with status := status }).footprint? = w.footprint? := by
      rw [Store.footprint?_of_holds hbefore, Store.footprint?_of_holds hafter]
      rfl
    have hfind' : s.workloads.find? (Record.touch now { w with status := status }).id = some w := hfind
    exact (Store.footprints_put hfind' hsame).symm
  connectivity := by
    intro s n now c hfind hs
    refine ⟨⟨rfl, rfl⟩, fun k n' h => ?_, hs, rfl⟩
    have hfound := (Repository.find?_put (Record.touch now { n with connectivity := c }) s.nodes k).symm.trans h
    split at hfound
    · rename_i hk
      split at hfound
      · obtain rfl := Option.some.inj hfound
        have hkn : k = n.id := hk
        exact ⟨n, hkn ▸ hfind, rfl, rfl, rfl⟩
      · cases hfound
    · exact ⟨n', hfound, rfl, rfl, rfl⟩

/-- **A removal takes the footprint of its workload away**, and no other. -/
theorem drops_shrinks : Drops (Settles Shrinks) := by
  intro s w now later hfind hs
  have hfind' : s.workloads.find? (Record.markDeleted later (marked now w)).id = some w := hfind
  refine ⟨⟨rfl, rfl⟩, fun _ n h => ⟨n, h, rfl, rfl, rfl⟩, ?_, Store.footprints_put_none hfind' rfl⟩
  exact hs.place (w := Record.markDeleted later (marked now w)) rfl nofun

/-! ## Runs -/

/-- **A call to the service**, by the type of its answer. -/
inductive Call : Type → Type
  | create (p : Principal) (o : Order) : Call Workload
  | delete (p : Principal) (id : RecordId) : Call Unit
  | deleteMany (p : Principal) (ids : List RecordId) : Call (List RecordId)
  | start (p : Principal) (id : RecordId) : Call Workload
  | stop (p : Principal) (id : RecordId) : Call Workload
  | restart (p : Principal) (id : RecordId) : Call Workload
  | syncStatus (id : RecordId) : Call Status
  | recheckNodes : Call Report
  | resyncWorkloads : Call Report

namespace Call

/-- What serves a call. -/
def job (v : Service) : {α : Type} → Call α → Job α
  | _, .create p o => v.create p o
  | _, .delete p id => v.delete p id
  | _, .deleteMany p ids => v.deleteMany p ids
  | _, .start p id => Service.start p id
  | _, .stop p id => v.stop p id
  | _, .restart p id => v.restart p id
  | _, .syncStatus id => Service.syncStatus id
  | _, .recheckNodes => v.recheckNodes
  | _, .resyncWorkloads => v.resyncWorkloads

/-- What a call is for. -/
inductive Kind where
  | orders
  | removes
  | keeps
deriving DecidableEq

/-- What a call is for. -/
def kind : {α : Type} → Call α → Kind
  | _, .create _ _ => .orders
  | _, .delete _ _ | _, .deleteMany _ _ => .removes
  | _, _ => .keeps

/-- **What a call can do to the records.** -/
inductive Effect (s : Store) : {α : Type} → Call α → Except Halt α → Store → Prop
  | ordered {p : Principal} {o : Order} {r : Except Halt Workload} {s' : Store}
      (creation : Creation o s r s') : Effect s (.create p o) r s'
  | removed {α : Type} {c : Call α} {r : Except Halt α} {s' : Store} (kind : c.kind = .removes)
      (moves : s.Moves Shrinks s') : Effect s c r s'
  | kept {α : Type} {c : Call α} {r : Except Halt α} {s' : Store} (kind : c.kind = .keeps)
      (moves : s.Moves Eq s') : Effect s c r s'

/-- **Every call has one of these effects**, on every course, as long as units hold room: the induction of a run
rests on this single case analysis. -/
theorem effect (hs : s.UnitsHold) {α : Type} {c : Call α} {r : Except Halt α}
    (hy : (c.job v).Yields s r s') : Effect s c r s' := by
  cases c with
  | create p o => exact .ordered (create_yields hy)
  | delete p id => exact .removed rfl (delete_preserves drops_shrinks v p id s r s' hy hs)
  | deleteMany p ids =>
    exact .removed rfl (deleteFrom_preserves (delete_preserves drops_shrinks v p) ids [] s r s' hy hs)
  | start p id => exact .kept rfl (bears_settles.start p id s r s' hy hs)
  | stop p id => exact .kept rfl (bears_settles.stop v p id s r s' hy hs)
  | restart p id => exact .kept rfl (bears_settles.restart v p id s r s' hy hs)
  | syncStatus id => exact .kept rfl (bears_settles.syncStatus id s r s' hy hs)
  | recheckNodes => exact .kept rfl (bears_settles.recheckNodes v s r s' hy hs)
  | resyncWorkloads => exact .kept rfl (bears_settles.resyncWorkloads v s r s' hy hs)

/-- **After every call a live workload that has a unit holds room**, so the invariant is there for the next call. -/
theorem Effect.units (hs : s.UnitsHold) {α : Type} {c : Call α} {r : Except Halt α}
    (h : Effect s c r s') : s'.UnitsHold := by
  cases h with
  | ordered creation =>
    cases creation with
    | missing | rejected => exact hs
    | unstored _ _ same =>
      intro w hw
      rw [same.rows] at hw
      exact hs w hw
    | made _ _ gains _ _ ending =>
      exact hs.place gains.rows fun isLive hunit => ending.holdsCapacity isLive hunit
  | removed _ moves | kept _ moves => exact moves.units

end Call

/-- **A call that was served**, between the records before it and those after it. -/
structure Served where
  {α : Type}
  before : Store
  call : Call α
  answer : Except Halt α
  after : Store

/-- **A run** from the records `s₀`: calls served one after another, up to the last records. -/
inductive Run (v : Service) (s₀ : Store) : List Served → Store → Prop
  | start : Run v s₀ [] s₀
  | call {steps : List Served} {s s' : Store} {α : Type} {c : Call α} {r : Except Halt α}
      (earlier : Run v s₀ steps s) (served : (c.job v).Yields s r s') :
      Run v s₀ (steps ++ [⟨s, c, r, s'⟩]) s'

/-- **The records that a run comes to**, its first ones among them. -/
def reached (s₀ : Store) (steps : List Served) : List Store :=
  s₀ :: steps.map Served.after

/-- **An invariant carried along a run** from records without workloads, whose calls are of one kind;
in its light they are also of another. -/
theorem Run.induct {P Q : Served → Prop} {I : Store → Prop} {s₀ s : Store} {steps : List Served}
    (h₀ : s₀.workloads.rows = []) (hstart : I s₀)
    (hstep : ∀ {s s' : Store} {α : Type} {c : Call α} {r : Except Halt α}, I s → Call.Effect s c r s' →
      P ⟨s, c, r, s'⟩ → Q ⟨s, c, r, s'⟩ ∧ I s')
    (run : Run v s₀ steps s) (hP : ∀ x ∈ steps, P x) : (∀ x ∈ steps, Q x) ∧ s.UnitsHold ∧ I s := by
  induction run with
  | start =>
    refine ⟨List.forall_mem_nil _, fun w hw => ?_, hstart⟩
    rw [h₀] at hw
    exact absurd hw List.not_mem_nil
  | call _ served ih =>
    obtain ⟨hearlier, hlast⟩ := List.forall_mem_append.mp hP
    obtain ⟨hQ, hunits, hI⟩ := ih hearlier
    have heffect := Call.effect hunits served
    obtain ⟨hstepQ, hI'⟩ := hstep hI heffect (hlast _ List.mem_cons_self)
    exact ⟨List.forall_mem_append.mpr ⟨hQ, List.forall_mem_singleton.mpr hstepQ⟩, heffect.units hunits, hI'⟩

end Service

end FleetControl
