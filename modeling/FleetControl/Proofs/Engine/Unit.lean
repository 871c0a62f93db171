import FleetControl.Proofs.Engine.Plan
import FleetControl.Proofs.Engine.Stock
import FleetControl.Proofs.Engine.UnitName
import Mathlib.Data.String.Basic

/-!
# Units on an engine that obliges

What making a unit and taking one down leave of an engine's stock. A unit that is made is one container
more, and one volume more where the plan has one (`stock_provision`). One that is not made leaves no
container, but the volume stays: nothing removes it. A unit that is taken down takes its container and
the volumes with it (`stock_teardown`).
-/

namespace FleetControl.Engine

variable {α β : Type} {e : Engine} {k : Stock} {id name : String} {volumes : List String}

/-! ## Lists of names -/

/-- A name that is put among others is among them, and the others stay. -/
theorem mem_putName {n m : String} : ∀ {l : List String}, m ∈ putName n l ↔ m = n ∨ m ∈ l
  | [] => by simp [putName]
  | a :: rest => by
    unfold putName
    split
    · exact List.mem_cons
    · split
      · rename_i heq
        rw [eq_of_beq heq]
        simp
      · rw [List.mem_cons, mem_putName, List.mem_cons]
        exact or_left_comm

/-- Names in order stay in order when one is put among them. -/
theorem sorted_putName {n : String} : ∀ {l : List String}, l.Pairwise (· < ·) →
    (putName n l).Pairwise (· < ·)
  | [], _ => List.pairwise_singleton _ n
  | a :: rest, h => by
    obtain ⟨ha, hrest⟩ := List.pairwise_cons.mp h
    unfold putName
    split
    · rename_i hlt
      refine List.pairwise_cons.mpr ⟨fun b hb => ?_, h⟩
      rcases List.mem_cons.mp hb with rfl | hb
      · exact hlt
      · exact hlt.trans (ha b hb)
    · split
      · exact h
      · rename_i hlt hne
        refine List.pairwise_cons.mpr ⟨fun b hb => ?_, sorted_putName hrest⟩
        rcases mem_putName.mp hb with rfl | hb
        · exact lt_of_le_of_ne (not_lt.mp hlt) fun heq => hne (beq_iff_eq.mpr heq.symm)
        · exact ha b hb

/-! ## Stocks in order -/

namespace Stock

/-- **Volumes are in order, and containers have identifiers that were given out.** -/
structure Orderly (k : Stock) : Prop where
  sorted : k.volumes.Pairwise (· < ·)
  numbered : ∀ id x, k.unit? id = some x → ∃ i < k.given, id = "c" ++ toString (i + 1)

/-- With the volume of a plan, if it has one. -/
def provided (v : Option VolumeBody) (k : Stock) : Stock :=
  match v with
  | none => k
  | some v => k.withVolume v.name

/-- Without some volumes. -/
def withoutVolumes (names : List String) (k : Stock) : Stock :=
  names.foldl (fun k name => k.withoutVolume name) k

/-- Without a unit and the volumes that go with it. -/
def takenDown (id : String) (name : Option String) (k : Stock) : Stock :=
  (k.withoutUnit id).withoutVolumes (k.volumesOf id name)

/-- A volume takes no identifier of a container. -/
theorem nextId_provided (v : Option VolumeBody) (k : Stock) : (k.provided v).nextId = k.nextId := by
  cases v <;> rfl

theorem given_provided (v : Option VolumeBody) (k : Stock) : (k.provided v).given = k.given := by
  cases v <;> rfl

/-- A volume more changes no container. -/
theorem unit?_provided (v : Option VolumeBody) (k : Stock) : (k.provided v).unit? = k.unit? := by
  cases v <;> rfl

/-- The volumes with that of a plan: the plan's, if it has one, and those before. -/
theorem mem_provided {v : Option VolumeBody} {m : String} :
    m ∈ (k.provided v).volumes ↔ (∃ b ∈ v, m = b.name) ∨ m ∈ k.volumes := by
  cases v with
  | none => simp [provided]
  | some b => simp [provided, withVolume, mem_putName]

/-- A container that is made and removed again leaves a gap in the numbers. -/
theorem withoutUnit_withUnit (h : k.unit? k.nextId = none) :
    (k.withUnit name volumes).withoutUnit k.nextId = { k with given := k.given + 1 } := by
  unfold withUnit withoutUnit
  dsimp only
  rw [Function.update_idem, ← h, Function.update_eq_self]

/-- **The next identifier is free** where all that are in use were given out before. -/
theorem Orderly.unit?_nextId (h : k.Orderly) : k.unit? k.nextId = none := by
  cases hunit : k.unit? k.nextId with
  | none => rfl
  | some x =>
    obtain ⟨i, hi, hid⟩ := h.numbered _ x hunit
    have hrepr : (k.given + 1).repr = (i + 1).repr := (String.append_right_inj "c").mp hid
    have hgiven := Number.digits?_repr (k.given + 1)
    rw [hrepr, Number.digits?_repr, Option.some_inj] at hgiven
    omega

/-- A stock in order is in order with a volume more. -/
theorem Orderly.provided (h : k.Orderly) (v : Option VolumeBody) : (k.provided v).Orderly := by
  cases v with
  | none => exact h
  | some v => exact ⟨sorted_putName h.sorted, h.numbered⟩

/-- A stock in order is in order with a container more, which has the identifier given out for it. -/
theorem Orderly.withUnit (h : k.Orderly) (name : String) (volumes : List String) :
    (k.withUnit name volumes).Orderly where
  sorted := h.sorted
  numbered id x hx := by
    rw [Stock.withUnit] at hx
    dsimp only at hx
    rw [Function.update_apply] at hx
    split at hx
    · rename_i hid
      exact ⟨k.given, Nat.lt_succ_self _, hid⟩
    · obtain ⟨i, hi, hid⟩ := h.numbered id x hx
      exact ⟨i, Nat.lt_succ_of_lt hi, hid⟩

/-- Identifiers may be given out for nothing. -/
theorem Orderly.given {given : Nat} (h : k.Orderly) (hg : k.given ≤ given) :
    ({ k with given := given } : Stock).Orderly where
  sorted := h.sorted
  numbered id x hx := by
    obtain ⟨i, hi, hid⟩ := h.numbered id x hx
    exact ⟨i, Nat.lt_of_lt_of_le hi hg, hid⟩

/-- Without some volumes the containers are what they were, and so are the identifiers given out. -/
theorem unit?_withoutVolumes (names : List String) (k : Stock) :
    (k.withoutVolumes names).unit? = k.unit? ∧ (k.withoutVolumes names).given = k.given := by
  induction names generalizing k with
  | nil => exact ⟨rfl, rfl⟩
  | cons n rest ih => exact ih (k.withoutVolume n)

/-- Without some volumes the others stay where they are. -/
theorem sublist_withoutVolumes (names : List String) (k : Stock) :
    (k.withoutVolumes names).volumes.Sublist k.volumes := by
  induction names generalizing k with
  | nil => exact List.Sublist.refl _
  | cons n rest ih => exact (ih (k.withoutVolume n)).trans List.erase_sublist

/-- What is left without some volumes are those that were not named. -/
theorem mem_withoutVolumes {names : List String} {v : String} (hk : k.volumes.Pairwise (· < ·)) :
    v ∈ (k.withoutVolumes names).volumes ↔ v ∉ names ∧ v ∈ k.volumes := by
  induction names generalizing k with
  | nil => simp [withoutVolumes]
  | cons n rest ih =>
    have hnodup : k.volumes.Nodup := hk.imp ne_of_lt
    have hfirst : v ∈ (k.withoutVolume n).volumes ↔ v ≠ n ∧ v ∈ k.volumes := hnodup.mem_erase_iff
    have hrest := ih (k := k.withoutVolume n) (hk.sublist List.erase_sublist)
    rw [hfirst] at hrest
    rw [List.mem_cons, not_or, and_comm (a := v ≠ n), and_assoc]
    exact hrest

/-- **What is left when a unit was taken down**: the volumes that do not go with it. -/
theorem mem_takenDown {v : String} (h : k.Orderly) {name : Option String} :
    v ∈ (k.takenDown id name).volumes ↔ v ∉ k.volumesOf id name ∧ v ∈ k.volumes :=
  mem_withoutVolumes (k := k.withoutUnit id) h.sorted

/-- **The containers after a unit was taken down** are all but the unit's. -/
theorem unit?_takenDown (id : String) (name : Option String) (k : Stock) :
    (k.takenDown id name).unit? = Function.update k.unit? id none :=
  (unit?_withoutVolumes _ _).1

/-- A stock in order is in order without a unit and its volumes. -/
theorem Orderly.takenDown (h : k.Orderly) (id : String) (name : Option String) :
    (k.takenDown id name).Orderly where
  sorted := h.sorted.sublist (sublist_withoutVolumes _ _)
  numbered id' x hx := by
    rw [unit?_takenDown, Function.update_apply] at hx
    rw [Stock.takenDown, (unit?_withoutVolumes _ _).2]
    split at hx
    · cases hx
    · exact h.numbered id' x hx

end Stock

/-! ## Plans -/

/-- A data volume is named after its unit. -/
theorem dataVolume_name {c : EngineSettings} {spec : Spec} {v : VolumeBody}
    (h : Plan.dataVolume c spec name = some v) : v.name = volumeName name := by
  unfold Plan.dataVolume at h
  split at h
  · rw [← Option.some.inj h]
  · cases h

/-- The container of a plan mounts the plan's volume, and no other: the partition library is bound from the host. -/
theorem volumes_of {c : EngineSettings} {n : Node} {spec : Spec} {i : Image} {p : Plan}
    (h : Plan.of? c n spec i name = some p) :
    p.body.volumes = (Plan.dataVolume c spec name).toList.map (·.name) := by
  have hmounts := (Plan.describes_of? h).mounts
  unfold ContainerBody.volumes
  rw [hmounts, List.filter_append]
  have hbind : (if Plan.isPartitioned n spec i then [Mount.bind (Plan.libraryDir c n) c.libraryUnitDir] else
      []).filter (fun m => m.kind == "volume" && !m.source.isEmpty) = [] := by
    split
    · rfl
    · rfl
  rw [hbind, List.append_nil]
  cases hvolume : Plan.dataVolume c spec name with
  | none => rfl
  | some v =>
    have hname : v.name ≠ "" := by
      rw [dataVolume_name hvolume]
      simp [volumeName, String.append_eq_empty_iff]
    simp [Mount.volume, hname]

/-- A unit has a data volume exactly where its spec asks for a data disk. -/
theorem dataVolume_eq_none_iff {c : EngineSettings} {spec : Spec} :
    Plan.dataVolume c spec name = none ↔ ¬ 0 < spec.dataDiskGb := by
  unfold Plan.dataVolume
  split
  · simp [*]
  · simp [*]

/-! ## Dialogs -/

/-- Two dialogs in a row run on an engine one after the other. -/
theorem run_bind (d : Dialog β) (f : β → Dialog α) (e : Engine) :
    e.run (d >>= f) = (e.run d).2.run (f (e.run d).1) := by
  induction d generalizing e with
  | done b => rfl
  | ask c next ih => exact ih (e.answer c).1 (e.answer c).2

theorem run_call (c : Call β) (e : Engine) : e.run (Dialog.call c) = e.answer c := rfl

namespace Unit

open Stock

/-- An engine that obliges makes the volume of a plan, if there is one. -/
theorem stock_createVolumes (h : e.Obliges) (v : Option VolumeBody) :
    (e.run (Dialog.each (v.toList.map .createVolume))).2.stock = e.stock.provided v := by
  cases v with
  | none => rfl
  | some v => exact h.createVolume v

/-- **A container is made under the next identifier**, at the first attempt or the second, or none is. -/
theorem stock_create (p : Plan) (e : Engine) :
    ((∃ f, (e.run (create p)).1 = .error f) ∧ (e.run (create p)).2.stock = e.stock) ∨
    (e.run (create p)).1 = .ok e.stock.nextId ∧
      (e.run (create p)).2.stock = e.stock.withUnit p.name p.body.volumes := by
  unfold create
  rw [run_bind, run_call]
  rcases stock_createContainer p.name p.body e with ⟨⟨f, hf⟩, hstock⟩ | ⟨hok, hstock⟩
  · rw [hf, ← hstock]
    generalize (e.answer (.createContainer p.name p.body)).2 = e'
    dsimp only
    split
    · exact stock_createContainer p.name p.body.withoutStorageLimit e'
    · exact .inl ⟨⟨f, rfl⟩, rfl⟩
  · rw [hok]
    exact .inr ⟨rfl, hstock⟩

/-- A container that does not start is removed. -/
theorem stock_launch (h : e.Obliges) (id : String) :
    ((e.run (launch id)).1 = .ok id ∧ (e.run (launch id)).2.stock = e.stock) ∨
    (∃ f, (e.run (launch id)).1 = .error f) ∧
      (e.run (launch id)).2.stock = e.stock.withoutUnit id := by
  have hstill := stock_answer_of_isStill (c := .start id) rfl e
  have hobliges := h.of_tempered (tempered_answer (.start id) e)
  unfold launch
  rw [run_bind, run_call]
  cases hstart : (e.answer (.start id)).1 with
  | ok u => exact .inl ⟨rfl, hstill⟩
  | error f =>
    refine .inr ⟨⟨_, rfl⟩, ?_⟩
    have hremove := hobliges.remove id true false
    rw [hstill] at hremove
    exact hremove

/-- **What making a unit leaves**: one container more, or no container; the plan's volume is there in
any case. -/
theorem stock_provision (h : e.Obliges) (hnew : e.stock.unit? e.stock.nextId = none) (p : Plan) :
    ((e.run (provision p)).1 = .ok e.stock.nextId ∧
      (e.run (provision p)).2.stock = (e.stock.provided p.volume).withUnit p.name p.body.volumes) ∨
    (∃ f, (e.run (provision p)).1 = .error f) ∧ ∃ given, e.stock.given ≤ given ∧
      (e.run (provision p)).2.stock = { e.stock.provided p.volume with given := given } := by
  have hvolume := stock_createVolumes h p.volume
  have hobliges := h.of_tempered (tempered_run (Dialog.each (p.volume.toList.map .createVolume)) e)
  have hnext := nextId_provided p.volume e.stock
  have hgiven := given_provided p.volume e.stock
  have hfresh : (e.stock.provided p.volume).unit? (e.stock.provided p.volume).nextId = none := by
    rw [hnext, unit?_provided, hnew]
  unfold provision
  rw [run_bind, ← hgiven, ← hnext, ← hvolume]
  rw [← hvolume] at hfresh
  generalize (e.run (Dialog.each (p.volume.toList.map .createVolume))).2 = e₁ at hobliges hfresh ⊢
  have hobliges' := hobliges.of_tempered (tempered_run (create p) e₁)
  rw [run_bind]
  rcases stock_create p e₁ with ⟨⟨f, hf⟩, hstock⟩ | ⟨hok, hstock⟩
  · rw [hf]
    exact .inr ⟨⟨_, rfl⟩, e₁.stock.given, Nat.le_refl _, hstock⟩
  · rw [hok]
    rcases stock_launch hobliges' e₁.stock.nextId with ⟨hr, hlaunch⟩ | ⟨hr, hlaunch⟩
    · exact .inl ⟨hr, hlaunch.trans hstock⟩
    -- the container is removed again, and its identifier is not given out a second time
    · refine .inr ⟨hr, e₁.stock.given + 1, Nat.le_succ _, hlaunch.trans ?_⟩
      rw [hstock, withoutUnit_withUnit hfresh]

/-- An engine that obliges removes all the volumes that are named, by induction on them. -/
theorem stock_removeVolumes (names : List String) : ∀ {e : Engine}, e.Obliges →
    (e.run (Dialog.each (names.map .removeVolume))).2.stock = e.stock.withoutVolumes names := by
  induction names with
  | nil => exact fun _ => rfl
  | cons n rest ih =>
    intro e h
    have hrest := ih (h.of_tempered (tempered_answer (.removeVolume n) e))
    rw [h.removeVolume n] at hrest
    exact hrest

/-- **A unit that is taken down** takes its container and the volumes with it. -/
theorem stock_teardown (h : e.Obliges) (c : EngineSettings) (id : String) (name : Option String) :
    (e.run (teardown c id name)).2.stock = e.stock.takenDown id name := by
  have hvolumes := h.inspect id name
  have hstill := stock_answer_of_isStill (c := .inspect id) rfl e
  have hobliges := h.of_tempered (tempered_answer (.inspect id) e)
  unfold teardown
  rw [run_bind, run_call, hvolumes]
  generalize (e.answer (.inspect id)).2 = e₁ at hstill hobliges ⊢
  have hstop := stock_answer_of_isStill (c := .stop id c.teardownGrace) rfl e₁
  have hobliges₂ := hobliges.of_tempered (tempered_answer (.stop id c.teardownGrace) e₁)
  have hremove := hobliges₂.remove id true true
  have hobliges₃ := hobliges₂.of_tempered (tempered_answer (.remove id true true) _)
  have hrest := stock_removeVolumes (e.stock.volumesOf id name) hobliges₃
  rw [hremove, hstop, hstill] at hrest
  exact hrest

end Unit

end FleetControl.Engine
