import FleetControl.Proofs.Engine.Unit
import FleetControl.Record.Workload
import Mathlib.Data.Set.Insert

/-!
# Who keeps what on the engines

An estate is what the records say of units, beside what the engines hold. Calls change it by four moves:
a new workload gets a unit; it gets none, but its data volume stays; it gets none and nothing is left; a
unit is taken down with its workload (`Estate.Alters`).

In custody (`Estate.Custody`) each container is the unit of a workload, and each volume is mounted by a
container or was left behind by a workload that never had a unit. What was left behind stays: a unit that is
taken down takes only volumes that its own name stands for.
-/

namespace FleetControl

open Engine (Stock VolumeBody unitName volumeName)

/-- **Where the unit of a workload is**: at the address of its node, if the node is known. -/
structure Berth where
  address : Option String
  unit : String
  name : Option String
deriving Repr, DecidableEq

/-- **What the records say of units, and what the engines hold.** -/
structure Estate where
  /-- Where the unit of a live workload is. -/
  berth? : RecordId → Option Berth
  /-- The identifiers that were given to workloads. -/
  known : Set RecordId
  stock : String → Stock

namespace Estate

variable {E E' : Estate} {id : RecordId} {address name unit : String} {left : List (String × String)}
  {volume : Option VolumeBody}

/-- With a workload more, which has no unit. -/
def recorded (id : RecordId) (E : Estate) : Estate := { E with known := insert id E.known }

/-- With a workload more and its unit. -/
def housed (id : RecordId) (address name : String) (volume : Option VolumeBody) (E : Estate) : Estate where
  berth? := Function.update E.berth? id (some ⟨some address, (E.stock address).nextId, some name⟩)
  known := insert id E.known
  stock := Function.update E.stock address
    (((E.stock address).provided volume).withUnit name (volume.toList.map (·.name)))

/-- With a workload more, which has no unit but a volume. -/
def stranded (id : RecordId) (address : String) (volume : Option VolumeBody) (given : Nat) (E : Estate) :
    Estate where
  berth? := E.berth?
  known := insert id E.known
  stock := Function.update E.stock address { (E.stock address).provided volume with given := given }

/-- Without a workload and its unit. -/
def cleared (id : RecordId) (address unit : String) (name : Option String) (E : Estate) : Estate where
  berth? := Function.update E.berth? id none
  known := E.known
  stock := Function.update E.stock address ((E.stock address).takenDown unit name)

/-- **What a call can do to an estate**, and which volumes it leaves behind. -/
inductive Alters (E : Estate) : List (String × String) → Estate → Prop
  | still : Alters E [] E
  | recorded {id : RecordId} (isNew : id ∉ E.known) : Alters E [] (E.recorded id)
  | housed {id : RecordId} {address : String} {requested : Option String} {seconds : Int}
      {volume : Option VolumeBody} (isNew : id ∉ E.known) (isSome : address ≠ "")
      (named : ∀ v ∈ volume, v.name = volumeName (unitName requested id seconds)) :
      Alters E [] (E.housed id address (unitName requested id seconds) volume)
  | stranded {id : RecordId} {address : String} {requested : Option String} {seconds : Int}
      {volume : Option VolumeBody} {given : Nat} (isNew : id ∉ E.known)
      (named : ∀ v ∈ volume, v.name = volumeName (unitName requested id seconds))
      (grows : (E.stock address).given ≤ given) :
      Alters E (volume.toList.map fun v => (address, v.name)) (E.stranded id address volume given)
  | cleared {id : RecordId} {address unit : String} {name : Option String}
      (berth : E.berth? id = some ⟨some address, unit, name⟩) : Alters E [] (E.cleared id address unit name)

/-! ## Stocks after a move -/

/-- Of the stocks, only the one at the address changes where a volume is left behind. -/
theorem stock_stranded {given : Nat} : (E.stranded id address volume given).stock =
    Function.update E.stock address { (E.stock address).provided volume with given := given } := rfl

/-- Of the stocks, only the one at the address changes where a unit is made. -/
theorem stock_housed : (E.housed id address name volume).stock = Function.update E.stock address
    (((E.stock address).provided volume).withUnit name (volume.toList.map (·.name))) := rfl

/-- Of the stocks, only the one at the address changes where a unit is taken down. -/
theorem stock_cleared {k : Option String} : (E.cleared id address unit k).stock =
    Function.update E.stock address ((E.stock address).takenDown unit k) := rfl

/-- Where only a volume is left behind, the containers are what they were, at every address. -/
theorem unit?_stranded {given : Nat} (a : String) :
    ((E.stranded id address volume given).stock a).unit? = (E.stock a).unit? := by
  rw [stock_stranded]
  by_cases ha : a = address
  · rw [ha, Function.update_self]
    exact Stock.unit?_provided volume _
  · rw [Function.update_of_ne ha]

/-- What a volume is provided to has that volume and those it had; the other stocks have theirs. -/
theorem mem_update_provided {f : String → Stock} {k : Stock}
    (hk : k.volumes = ((f address).provided volume).volumes) {a v : String} :
    v ∈ (Function.update f address k a).volumes ↔
      (a = address ∧ ∃ b ∈ volume, v = b.name) ∨ v ∈ (f a).volumes := by
  by_cases ha : a = address
  · rw [ha, Function.update_self, hk, and_iff_right rfl]
    exact Stock.mem_provided
  · rw [Function.update_of_ne ha, iff_false_intro ha, false_and, false_or]

/-- The volumes after a workload that got no unit: the one that was left behind, and those before. -/
theorem mem_stranded {given : Nat} {a v : String} :
    v ∈ ((E.stranded id address volume given).stock a).volumes ↔
      (a = address ∧ ∃ b ∈ volume, v = b.name) ∨ v ∈ (E.stock a).volumes := by
  rw [stock_stranded]
  apply mem_update_provided
  rfl

/-- The volumes after a unit was made: the unit's own, and those before. -/
theorem mem_housed {a v : String} : v ∈ ((E.housed id address name volume).stock a).volumes ↔
    (a = address ∧ ∃ b ∈ volume, v = b.name) ∨ v ∈ (E.stock a).volumes := by
  rw [stock_housed]
  apply mem_update_provided
  rfl

/-- The container of a new unit is one that was not there. -/
theorem unit?_housed (hnew : (E.stock address).unit? (E.stock address).nextId = none) {a : String}
    {x : String × List String} :
    ((E.housed id address name volume).stock a).unit? unit = some x ↔
      (a = address ∧ unit = (E.stock address).nextId ∧ x = (name, volume.toList.map (·.name))) ∨
        (E.stock a).unit? unit = some x := by
  rw [stock_housed]
  by_cases ha : a = address
  · rw [ha, Function.update_self, Stock.withUnit, Stock.nextId_provided, Stock.unit?_provided]
    dsimp only
    by_cases hu : unit = (E.stock address).nextId
    · rw [hu, Function.update_self, hnew]
      simp [eq_comm]
    · simp [hu]
  · simp [ha]

/-- **The containers after a take-down** are those before, without the one that was taken down. -/
theorem unit?_cleared {k : Option String} {a u : String} {x : String × List String} :
    ((E.cleared id address unit k).stock a).unit? u = some x ↔
      ¬ (a = address ∧ u = unit) ∧ (E.stock a).unit? u = some x := by
  rw [stock_cleared]
  by_cases ha : a = address
  · rw [ha, Function.update_self, Stock.unit?_takenDown, and_iff_right rfl]
    by_cases hu : u = unit
    · simp [hu]
    · simp [hu]
  · simp [ha]

/-- **The volumes after a take-down** are those before, without the ones that go with the unit. -/
theorem mem_cleared (horderly : (E.stock address).Orderly) {k : Option String} {a v : String} :
    v ∈ ((E.cleared id address unit k).stock a).volumes ↔
      ¬ (a = address ∧ v ∈ (E.stock address).volumesOf unit k) ∧ v ∈ (E.stock a).volumes := by
  rw [stock_cleared]
  by_cases ha : a = address
  · rw [ha, Function.update_self, and_iff_right rfl]
    exact Stock.mem_takenDown horderly
  · simp [ha]

/-- An estate of which one stock is another is in order as the others are. -/
theorem orderly_update {f : String → Stock} {k : Stock} (hf : ∀ a, (f a).Orderly) (hk : k.Orderly)
    (address a : String) : (Function.update f address k a).Orderly := by
  rw [Function.update_apply]
  split
  · exact hk
  · exact hf a

/-! ## Custody -/

/-- **Containers are units of workloads, and volumes are mounted by containers**, but for those that
were left behind. -/
structure Custody (left : List (String × String)) (E : Estate) : Prop where
  orderly : ∀ a, (E.stock a).Orderly
  named : ∀ id b, E.berth? id = some b → id ∈ E.known ∧ (∃ a, b.address = some a ∧ a ≠ "") ∧
    ∃ requested seconds, b.name = some (unitName requested id seconds)
  owned : ∀ a unit x, (E.stock a).unit? unit = some x →
    (∃ id, E.berth? id = some ⟨some a, unit, some x.1⟩) ∧ ∀ v ∈ x.2, v = volumeName x.1
  stowed : ∀ a, ∀ v ∈ (E.stock a).volumes,
    (a, v) ∈ left ∨ ∃ unit x, (E.stock a).unit? unit = some x ∧ v ∈ x.2
  behind : ∀ y ∈ left, y.2 ∈ (E.stock y.1).volumes ∧ ∃ id requested seconds,
    id ∈ E.known ∧ E.berth? id = none ∧ y.2 = volumeName (unitName requested id seconds)

namespace Custody

variable {requested : Option String} {seconds : Int}

/-- A workload that is not known has no unit. -/
theorem berth?_eq_none (h : E.Custody left) (isNew : id ∉ E.known) : E.berth? id = none := by
  cases hberth : E.berth? id with
  | none => rfl
  | some b => exact absurd (h.named id b hberth).1 isNew

/-- A workload that gets no unit and leaves nothing behind keeps custody of what there was. -/
theorem recorded (h : E.Custody left) (id : RecordId) : (E.recorded id).Custody left where
  orderly := h.orderly
  named k b hb := by
    obtain ⟨hk, hrest⟩ := h.named k b hb
    exact ⟨Set.mem_insert_of_mem id hk, hrest⟩
  owned := h.owned
  stowed := h.stowed
  behind y hy := by
    obtain ⟨hmem, k, r, t, hk, hrest⟩ := h.behind y hy
    exact ⟨hmem, k, r, t, Set.mem_insert_of_mem id hk, hrest⟩

/-- **A workload that gets no unit but leaves its volume behind**: the volume joins what was left behind, and the
name it has is not that of any unit. -/
theorem stranded {given : Nat} (h : E.Custody left) (isNew : id ∉ E.known)
    (named : ∀ v ∈ volume, v.name = volumeName (unitName requested id seconds))
    (grows : (E.stock address).given ≤ given) :
    (E.stranded id address volume given).Custody
      (left ++ volume.toList.map fun v => (address, v.name)) where
  orderly := by
    refine orderly_update h.orderly (((h.orderly address).provided volume).given ?_) address
    rw [Stock.given_provided]
    exact grows
  named k b hb := by
    obtain ⟨hk, hrest⟩ := h.named k b hb
    exact ⟨Set.mem_insert_of_mem id hk, hrest⟩
  owned a unit x hx := by
    rw [unit?_stranded] at hx
    exact h.owned a unit x hx
  stowed a v hv := by
    rw [unit?_stranded]
    rcases mem_stranded.mp hv with ⟨rfl, b, hb, rfl⟩ | hv
    · exact .inl (List.mem_append_right _ (List.mem_map_of_mem (Option.mem_toList.mpr hb)))
    · exact (h.stowed a v hv).imp_left (List.mem_append_left _)
  behind y hy := by
    rcases List.mem_append.mp hy with hy | hy
    · obtain ⟨hmem, k, r, t, hk, hrest⟩ := h.behind y hy
      exact ⟨mem_stranded.mpr (.inr hmem), k, r, t, Set.mem_insert_of_mem id hk, hrest⟩
    · obtain ⟨b, hb, rfl⟩ := List.mem_map.mp hy
      have hb : b ∈ volume := Option.mem_toList.mp hb
      exact ⟨mem_stranded.mpr (.inl ⟨rfl, b, hb, rfl⟩), id, requested, seconds, Set.mem_insert _ _,
        h.berth?_eq_none isNew, named b hb⟩

/-- **A workload that gets a unit**: its container is new, and its volume is mounted by that container. -/
theorem housed (h : E.Custody left) (isNew : id ∉ E.known) (isSome : address ≠ "")
    (hname : name = unitName requested id seconds) (named : ∀ v ∈ volume, v.name = volumeName name) :
    (E.housed id address name volume).Custody left where
  orderly := orderly_update h.orderly (((h.orderly address).provided volume).withUnit _ _) address
  named k b hb := by
    unfold Estate.housed at hb ⊢
    dsimp only at hb ⊢
    rw [Function.update_apply] at hb
    split at hb
    · rename_i hk
      cases hb
      rw [hk, hname]
      exact ⟨Set.mem_insert _ _, ⟨address, rfl, isSome⟩, requested, seconds, rfl⟩
    · obtain ⟨hknown, hrest⟩ := h.named k b hb
      exact ⟨Set.mem_insert_of_mem id hknown, hrest⟩
  owned a unit x hx := by
    rcases (unit?_housed (h.orderly address).unit?_nextId).mp hx with ⟨rfl, rfl, rfl⟩ | hx
    · refine ⟨⟨id, Function.update_self _ _ _⟩, fun v hv => ?_⟩
      obtain ⟨b, hb, rfl⟩ := List.mem_map.mp hv
      exact named b (Option.mem_toList.mp hb)
    · obtain ⟨⟨k, hk⟩, hvolumes⟩ := h.owned a unit x hx
      have hne : k ≠ id := fun heq => isNew (heq ▸ (h.named k _ hk).1)
      exact ⟨⟨k, (Function.update_of_ne hne _ _).trans hk⟩, hvolumes⟩
  stowed a v hv := by
    rcases mem_housed.mp hv with ⟨rfl, b, hb, rfl⟩ | hv
    · exact .inr ⟨_, _, (unit?_housed (h.orderly a).unit?_nextId).mpr (.inl ⟨rfl, rfl, rfl⟩),
        List.mem_map_of_mem (Option.mem_toList.mpr hb)⟩
    · refine (h.stowed a v hv).imp_right ?_
      rintro ⟨unit, x, hx, hmem⟩
      exact ⟨unit, x, (unit?_housed (h.orderly address).unit?_nextId).mpr (.inr hx), hmem⟩
  behind y hy := by
    obtain ⟨hmem, k, r, t, hk, hnone, hvolume⟩ := h.behind y hy
    have hne : k ≠ id := fun heq => isNew (heq ▸ hk)
    exact ⟨mem_housed.mpr (.inr hmem), k, r, t, Set.mem_insert_of_mem id hk,
      (Function.update_of_ne hne _ _).trans hnone, hvolume⟩

/-- **What goes with a unit is named for a workload that has one.** -/
theorem volumesOf_named (h : E.Custody left) {k : Option String}
    (berth : E.berth? id = some ⟨some address, unit, k⟩) {v : String}
    (hv : v ∈ (E.stock address).volumesOf unit k) : ∃ id b requested seconds,
      E.berth? id = some b ∧ v = volumeName (unitName requested id seconds) := by
  unfold Stock.volumesOf at hv
  split at hv
  · rename_i name volumes hunit
    obtain ⟨⟨id, hid⟩, hvolumes⟩ := h.owned address unit _ hunit
    obtain ⟨_, _, r, t, hname⟩ := h.named id _ hid
    rw [hvolumes v hv, Option.some.inj hname]
    exact ⟨id, _, r, t, hid, rfl⟩
  · obtain ⟨_, _, r, t, hname⟩ := h.named id _ berth
    obtain ⟨n, hn, rfl⟩ := Option.map_eq_some_iff.mp (Option.mem_toList.mp hv)
    have hk : some n = some (unitName r id t) := (Option.filter_eq_some_iff.mp hn).1.symm.trans hname
    rw [Option.some.inj hk]
    exact ⟨id, _, r, t, berth, rfl⟩

/-- **What was left behind stays**: it is named for a workload that has no unit. -/
theorem cleared (h : E.Custody left) {k : Option String}
    (berth : E.berth? id = some ⟨some address, unit, k⟩) : (E.cleared id address unit k).Custody left where
  orderly := orderly_update h.orderly ((h.orderly address).takenDown unit k) address
  named j b hb := by
    unfold Estate.cleared at hb
    dsimp only at hb
    rw [Function.update_apply] at hb
    split at hb
    · cases hb
    · exact h.named j b hb
  owned a u x hx := by
    obtain ⟨hother, hx⟩ := unit?_cleared.mp hx
    obtain ⟨⟨j, hj⟩, hvolumes⟩ := h.owned a u x hx
    have hne : j ≠ id := by
      rintro rfl
      cases berth.symm.trans hj
      exact hother ⟨rfl, rfl⟩
    exact ⟨⟨j, (Function.update_of_ne hne _ _).trans hj⟩, hvolumes⟩
  stowed a v hv := by
    obtain ⟨hother, hv⟩ := (mem_cleared (h.orderly address)).mp hv
    refine (h.stowed a v hv).imp_right ?_
    rintro ⟨u, x, hx, hmem⟩
    refine ⟨u, x, unit?_cleared.mpr ⟨?_, hx⟩, hmem⟩
    -- the volumes of the container that is removed go with it
    rintro ⟨rfl, rfl⟩
    refine hother ⟨rfl, ?_⟩
    rw [Stock.volumesOf, hx]
    exact hmem
  behind y hy := by
    obtain ⟨hmem, j, r, t, hj, hnone, hvolume⟩ := h.behind y hy
    refine ⟨(mem_cleared (h.orderly address)).mpr ⟨?_, hmem⟩, j, r, t, hj, ?_, hvolume⟩
    · rintro ⟨_, hgoes⟩
      obtain ⟨i, b, r', t', hi, hname⟩ := h.volumesOf_named berth hgoes
      obtain rfl := Engine.volumeName_id (hvolume.symm.trans hname)
      cases hnone.symm.trans hi
    · show Function.update E.berth? id none j = none
      rw [Function.update_apply]
      split
      · rfl
      · exact hnone

/-- **Every move keeps custody**, of what it leaves behind as well. -/
theorem alters {more : List (String × String)} (h : E.Custody left) (move : E.Alters more E') :
    E'.Custody (left ++ more) := by
  cases move with
  | still => rwa [List.append_nil]
  | recorded isNew =>
    rw [List.append_nil]
    exact h.recorded _
  | housed isNew isSome named =>
    rw [List.append_nil]
    exact h.housed isNew isSome rfl named
  | stranded isNew named grows => exact h.stranded isNew named grows
  | cleared berth =>
    rw [List.append_nil]
    exact h.cleared berth

end Custody

end Estate

end FleetControl
