import FleetControl.Proofs.Engine.Answer
import Mathlib.Logic.Function.Basic

/-!
# What an engine holds

The stock of an engine is what it holds whatever its containers are doing: their identifiers, names and
volumes, the volumes there are, and how many identifiers were given out. Four calls change it; every
other leaves it as it was (`stock_answer_of_isStill`).

An engine obliges if it is in reach and is set to refuse none of the calls that look after units:
inspections, stops, removals and the calls on volumes. Such an engine does what these calls say, and
obliges after every call (`Obliges.of_tempered`). What it does with other calls is left open.
-/

namespace FleetControl.Engine

variable {α β : Type} {e : Engine}

/-- The named volumes that a container mounts, in order. -/
def ContainerBody.volumes (b : ContainerBody) : List String :=
  (b.host.mounts.filter fun m => m.kind == "volume" && !m.source.isEmpty).map (·.source)

/-- **What an engine holds.** -/
structure Stock where
  /-- The name and the volumes of the container of an identifier. -/
  unit? : String → Option (String × List String)
  volumes : List String
  given : Nat

/-- What an engine holds. -/
def stock (e : Engine) : Stock where
  unit? id := (e.containers.lookup id).map fun c => (c.name, c.body.volumes)
  volumes := e.volumes
  given := e.given

namespace Stock

/-- With a volume more, unless it is there. -/
def withVolume (name : String) (k : Stock) : Stock := { k with volumes := putName name k.volumes }

/-- Without a volume. -/
def withoutVolume (name : String) (k : Stock) : Stock := { k with volumes := k.volumes.erase name }

/-- The identifier that the next container gets. -/
def nextId (k : Stock) : String := "c" ++ toString (k.given + 1)

/-- With a container more, under the next identifier. -/
def withUnit (name : String) (volumes : List String) (k : Stock) : Stock :=
  { k with unit? := Function.update k.unit? k.nextId (some (name, volumes)), given := k.given + 1 }

/-- Without the container of an identifier. -/
def withoutUnit (id : String) (k : Stock) : Stock := { k with unit? := Function.update k.unit? id none }

/-- The volumes that go with a unit: those that its container mounts, or the one its name stands for. -/
def volumesOf (id : String) (name : Option String) (k : Stock) : List String :=
  match k.unit? id with
  | some (_, volumes) => volumes
  | none => ((name.filter fun n => !n.isEmpty).map volumeName).toList

end Stock

/-! ## Lists by key -/

theorem lookup_cons_if (k k' : String) (v : α) (l : List (String × α)) :
    ((k, v) :: l).lookup k' = if k' = k then some v else l.lookup k' := by
  by_cases h : k' = k
  · simp [h]
  · simp [List.lookup_cons, beq_false_of_ne h, h]

/-- What is put under a key is found there, and under other keys what was there before. -/
theorem lookup_putKey (k k' : String) (v : α) (l : List (String × α)) :
    (putKey k v l).lookup k' = if k' = k then some v else l.lookup k' := by
  induction l with
  | nil => exact lookup_cons_if k k' v []
  | cons x rest ih =>
    obtain ⟨k₁, v₁⟩ := x
    unfold putKey
    by_cases h₁ : k₁ = k
    · subst h₁
      rw [if_pos (beq_self_eq_true _), lookup_cons_if, lookup_cons_if]
      split <;> rfl
    · rw [if_neg (by simpa using h₁), lookup_cons_if, lookup_cons_if, ih]
      by_cases h : k' = k
      · rw [if_neg (h ▸ Ne.symm h₁), if_pos h, if_pos h]
      · rw [if_neg h, if_neg h]

/-- What is taken out under a key is not found any more, and the rest is. -/
theorem lookup_filter_ne (k k' : String) (l : List (String × α)) :
    (l.filter fun x => x.1 != k).lookup k' = if k' = k then none else l.lookup k' := by
  induction l with
  | nil => simp
  | cons x rest ih =>
    obtain ⟨k₁, v₁⟩ := x
    by_cases h₁ : k₁ = k
    · rw [List.filter_cons_of_neg (by simpa using h₁), ih, lookup_cons_if, h₁]
      split <;> rfl
    · rw [List.filter_cons_of_pos (by simpa using h₁), lookup_cons_if, lookup_cons_if, ih]
      by_cases h : k' = k
      · rw [if_neg (h ▸ Ne.symm h₁), if_pos h, if_pos h]
      · rw [if_neg h, if_neg h]

/-- An entry that is taken was there, and what is left was there too. -/
theorem mem_takeKey {k : String} {v : α} : ∀ {l rest : List (String × α)},
    takeKey k l = some (v, rest) → rest ⊆ l ∧ (k, v) ∈ l
  | (k₁, v₁) :: l, rest, h => by
    unfold takeKey at h
    split at h
    · rename_i hk
      cases h
      exact ⟨List.subset_cons_self _ _, by simp [eq_of_beq hk]⟩
    · obtain ⟨⟨v', rest'⟩, htake, hpair⟩ := Option.map_eq_some_iff.mp h
      cases hpair
      obtain ⟨hrest, hmem⟩ := mem_takeKey htake
      exact ⟨List.cons_subset_cons _ hrest, List.mem_cons_of_mem _ hmem⟩

/-! ## Engines that oblige -/

/-- Failures of a key are about a call: about all of its kind, or those with a certain detail. -/
def Concerns (op key : String) : Prop := key = op ∨ ∃ detail, key = op ++ ":" ++ detail

/-- The calls that look after units. -/
def upkeep : List String := ["inspect", "stop", "remove", "create_volume", "remove_volume"]

/-- **The engine is in reach and refuses no call of a kind.** -/
structure Heeds (e : Engine) (op : String) : Prop where
  inReach : e.isUnreachable = false
  once : ∀ x ∈ e.once, ¬ Concerns op x.1
  always : ∀ x ∈ e.always, ¬ Concerns op x.1

/-- **The engine is in reach and refuses no call that looks after units.** -/
structure Obliges (e : Engine) : Prop where
  inReach : e.isUnreachable = false
  once : ∀ op ∈ upkeep, ∀ x ∈ e.once, ¬ Concerns op x.1
  always : ∀ op ∈ upkeep, ∀ x ∈ e.always, ¬ Concerns op x.1

/-- **No failure is set that was not set before.** -/
structure Tempered (e e' : Engine) : Prop where
  isUnreachable : e'.isUnreachable = e.isUnreachable
  once : e'.once ⊆ e.once
  always : e'.always = e.always

/-- An engine is set to fail as it is. -/
theorem Tempered.refl (e : Engine) : e.Tempered e := ⟨rfl, List.Subset.refl _, rfl⟩

/-- Failures that were used up are not set again. -/
theorem Tempered.trans {e' e'' : Engine} (h : e.Tempered e') (h' : e'.Tempered e'') : e.Tempered e'' :=
  ⟨h'.isUnreachable.trans h.isUnreachable, List.Subset.trans h'.once h.once, h'.always.trans h.always⟩

/-- **An engine that obliges goes on obliging** as long as no failure is set that was not. -/
theorem Obliges.of_tempered {e' : Engine} (h : e.Obliges) (ht : e.Tempered e') : e'.Obliges where
  inReach := ht.isUnreachable.trans h.inReach
  once op hop x hx := h.once op hop x (ht.once hx)
  always op hop x hx := h.always op hop x (ht.always ▸ hx)

/-- An engine that heeds a kind of calls goes on heeding it, as long as no failure is set. -/
theorem Heeds.of_tempered {e' : Engine} {op : String} (h : e.Heeds op) (ht : e.Tempered e') :
    e'.Heeds op where
  inReach := ht.isUnreachable.trans h.inReach
  once x hx := h.once x (ht.once hx)
  always x hx := h.always x (ht.always ▸ hx)

/-- Looking for a failure may use one up, and sets none. -/
theorem tempered_refusal? (key : String) (e : Engine) : e.Tempered (e.refusal? key).2 := by
  unfold refusal?
  split
  · rename_i r rest htake
    exact ⟨rfl, (mem_takeKey htake).1, rfl⟩
  · exact .refl e

/-- Looking for a failure changes nothing of what the engine holds. -/
theorem stock_refusal? (key : String) (e : Engine) : (e.refusal? key).2.stock = e.stock := by
  unfold refusal?
  split <;> rfl

/-- Where no failure was set under a key, none is found, and the engine stays as it is. -/
theorem refusal?_eq_none {key : String} (honce : ∀ x ∈ e.once, x.1 ≠ key)
    (halways : ∀ x ∈ e.always, x.1 ≠ key) : e.refusal? key = (none, e) := by
  unfold refusal?
  split
  · rename_i r rest htake
    exact absurd rfl (honce _ (mem_takeKey htake).2)
  · rw [List.lookup_eq_none_iff.mpr fun x hx => bne_iff_ne.mpr (Ne.symm (halways x hx))]

/-- A call that is written down. -/
def noted (op detail : String) (e : Engine) : Engine :=
  { e with calls := e.calls ++ [trimEnd (op ++ " " ++ detail)] }

/-- A call is written down, and a failure that was set for it once is used up; what the engine holds stays. -/
theorem receive_keeps (op detail : String) (e : Engine) :
    e.Tempered (e.receive op detail).2 ∧ (e.receive op detail).2.stock = e.stock := by
  have hnoted : e.Tempered (e.noted op detail) := ⟨rfl, List.Subset.refl _, rfl⟩
  have htemper := hnoted.trans (tempered_refusal? (op ++ ":" ++ detail) (e.noted op detail))
  have hstock := stock_refusal? (op ++ ":" ++ detail) (e.noted op detail)
  unfold receive
  dsimp only
  split
  · exact ⟨hnoted, rfl⟩
  · split
    · rename_i r e₁ hfirst
      rw [noted, hfirst] at htemper hstock
      exact ⟨htemper, hstock⟩
    · rename_i e₁ hfirst
      rw [noted, hfirst] at htemper hstock
      have htemper' := htemper.trans (tempered_refusal? op e₁)
      have hstock' := (stock_refusal? op e₁).trans hstock
      split
      · rename_i r e₂ hsecond
        rw [hsecond] at htemper' hstock'
        exact ⟨htemper', hstock'⟩
      · rename_i e₂ hsecond
        rw [hsecond] at htemper' hstock'
        exact ⟨htemper', hstock'⟩

/-- **A call that the engine heeds is received.** -/
theorem Heeds.receive {op : String} (h : e.Heeds op) (detail : String) :
    (e.receive op detail).1 = .ok () := by
  -- a call is looked up under two keys, and neither is set to fail
  have hnone : ∀ key, Concerns op key →
      (e.noted op detail).refusal? key = (none, e.noted op detail) := by
    intro key hkey
    refine refusal?_eq_none (fun x hx heq => ?_) fun x hx heq => ?_
    · exact h.once x hx (heq ▸ hkey)
    · exact h.always x hx (heq ▸ hkey)
  simp only [noted] at hnone
  unfold Engine.receive
  dsimp only
  rw [if_neg (by rw [h.inReach]; exact Bool.false_ne_true), hnone _ (.inr ⟨detail, rfl⟩)]
  dsimp only
  rw [hnone op (.inl rfl)]

/-- **A call that looks after units is received.** -/
theorem Obliges.receive {op : String} (h : e.Obliges) (hop : op ∈ upkeep) (detail : String) :
    (e.receive op detail).1 = .ok () :=
  Heeds.receive ⟨h.inReach, h.once op hop, h.always op hop⟩ detail

/-- **A call that is received does what it does**, on the engine that has written it down. -/
theorem received_of_receive {op detail : String} {act : Engine → Except Failure β × Engine}
    (h : (e.receive op detail).1 = .ok ()) :
    e.received op detail act = act (e.receive op detail).2 := by
  unfold received
  split
  · rename_i f e' hreceive
    rw [hreceive] at h
    cases h
  · rename_i e' hreceive
    rw [hreceive]

/-- A call sets no failure, received or not, if what it does sets none. -/
theorem tempered_received {op detail : String} {act : Engine → Except Failure β × Engine}
    (hact : ∀ e : Engine, e.Tempered (act e).2) : e.Tempered (e.received op detail act).2 := by
  have hkeeps := (receive_keeps op detail e).1
  unfold received
  split
  · rename_i f e' hreceive
    rw [hreceive] at hkeeps
    exact hkeeps
  · rename_i e' hreceive
    rw [hreceive] at hkeeps
    exact hkeeps.trans (hact e')

/-- A call leaves the stock, received or not, if what it does leaves it. -/
theorem stock_received {op detail : String} {act : Engine → Except Failure β × Engine}
    (hact : ∀ e, (act e).2.stock = e.stock) : (e.received op detail act).2.stock = e.stock := by
  have hkeeps := (receive_keeps op detail e).2
  unfold received
  split
  · rename_i f e' hreceive
    rw [hreceive] at hkeeps
    exact hkeeps
  · rename_i e' hreceive
    rw [hreceive] at hkeeps
    exact (hact e').trans hkeeps

/-- What is done to a container sets no failure, also where the container is not there. -/
theorem tempered_withContainer {id : String} {act : Container → Engine → Except Failure β × Engine}
    (hact : ∀ c (e : Engine), e.Tempered (act c e).2) (e : Engine) :
    e.Tempered (e.withContainer id act).2 := by
  unfold withContainer
  split
  · exact .refl e
  · exact hact _ e

/-- **After every call an engine is set to fail as before**, but for failures that were used up. -/
theorem tempered_answer (c : Call β) (e : Engine) : e.Tempered (e.answer c).2 := by
  cases c with
  | ping | attach | resize => exact (receive_keeps _ _ e).1
  | createVolume volume => exact tempered_received fun e => ⟨rfl, List.Subset.refl _, rfl⟩
  | stats id most window => exact tempered_received fun e => .refl e
  | removeVolume name | output id command =>
    refine tempered_received fun e => ?_
    split <;> exact ⟨rfl, List.Subset.refl _, rfl⟩
  | createContainer name body =>
    refine tempered_received fun e => ?_
    unfold make
    split <;> exact ⟨rfl, List.Subset.refl _, rfl⟩
  | start id | stop id grace | restart id grace | remove id force volumes | inspect id | logs id tail
  | prepareShell id command =>
    exact tempered_received (tempered_withContainer fun _ _ => ⟨rfl, List.Subset.refl _, rfl⟩)

/-- After a dialog an engine is set to fail as before, call by call. -/
theorem tempered_run : ∀ (d : Dialog α) (e : Engine), e.Tempered (e.run d).2
  | .done _, e => .refl e
  | .ask c next, e => (tempered_answer c e).trans (tempered_run (next (e.answer c).1) (e.answer c).2)

/-! ## What calls do to the stock -/

/-- What is reported of a container names the volumes that its body mounts. -/
theorem namedVolumes_report (id : String) (c : Container) : (report id c).namedVolumes = c.body.volumes := by
  unfold Inspection.namedVolumes report ContainerBody.volumes
  dsimp only
  rw [List.filter_map, List.map_map]
  have hfilter : ∀ m ∈ c.body.host.mounts,
      ((fun m : MountPoint => m.kind == "volume" && !m.name.isEmpty) ∘ fun m : Mount =>
        { kind := m.kind, name := if m.kind == "volume" then m.source else "", destination := m.target }) m =
      (m.kind == "volume" && !m.source.isEmpty) := by
    intro m _
    by_cases h : m.kind = "volume"
    · simp [h]
    · simp [beq_false_of_ne h]
  rw [List.filter_congr hfilter]
  refine List.map_congr_left fun m hm => ?_
  have hkind := (Bool.and_eq_true_iff.mp (List.mem_filter.mp hm).2).1
  exact if_pos hkind

/-- Neither containers nor volumes come or go by the call. -/
def Call.isStill : {β : Type} → Call β → Bool
  | _, .createVolume _ | _, .removeVolume _ | _, .createContainer _ _ | _, .remove _ _ _ => false
  | _, _ => true

/-- A container that is held joins the others, and no volume comes with it. -/
theorem stock_hold (id : String) (c : Container) (e : Engine) : (e.hold id c).stock =
    { e.stock with unit? := Function.update e.stock.unit? id (some (c.name, c.body.volumes)) } := by
  unfold stock hold
  congr 1
  funext k
  rw [lookup_putKey, Function.update_apply]
  split <;> rfl

/-- Whether a container runs is no part of the stock. -/
theorem stock_setState (id state : String) (e : Engine) : (e.setState id state).2.stock = e.stock := by
  unfold setState withContainer
  split
  · rfl
  · rename_i c hc
    have hunit : some (c.name, c.body.volumes) = e.stock.unit? id := by
      show _ = (e.containers.lookup id).map _
      rw [hc]
      rfl
    refine (stock_hold id { c with state := state } e).trans ?_
    rw [hunit, Function.update_eq_self]

/-- What leaves the stock for every container leaves it where there is no such container, too. -/
theorem stock_withContainer {id : String} {act : Container → Engine → Except Failure β × Engine}
    (hact : ∀ c (e : Engine), (act c e).2.stock = e.stock) (e : Engine) :
    (e.withContainer id act).2.stock = e.stock := by
  unfold withContainer
  split
  · rfl
  · exact hact _ e

/-- **A still call leaves the stock as it was**, whatever it comes to. -/
theorem stock_answer_of_isStill {c : Call β} (h : c.isStill = true) (e : Engine) :
    (e.answer c).2.stock = e.stock := by
  cases c with
  | ping | attach | resize => exact (receive_keeps _ _ e).2
  | createVolume | removeVolume | createContainer | remove => cases h
  | start id => exact stock_received (stock_setState id "running")
  | stop id grace => exact stock_received (stock_setState id "exited")
  | restart id grace => exact stock_received (stock_setState id "running")
  | stats id most window => exact stock_received fun _ => rfl
  | output id command =>
    refine stock_received fun e => ?_
    split <;> rfl
  | inspect id | logs id tail | prepareShell id command =>
    exact stock_received (stock_withContainer fun _ _ => rfl)

/-- **An engine that obliges makes the volume that it is asked for**, and nothing else. -/
theorem Obliges.createVolume (h : e.Obliges) (v : VolumeBody) :
    (e.answer (.createVolume v)).2.stock = e.stock.withVolume v.name := by
  have hstock := (receive_keeps "create_volume" v.name e).2
  change (e.received "create_volume" v.name _).2.stock = _
  rw [received_of_receive (h.receive (by decide) _), ← hstock]
  rfl

/-- **An engine that obliges removes the volume that it is asked to**, and nothing else. -/
theorem Obliges.removeVolume (h : e.Obliges) (name : String) :
    (e.answer (.removeVolume name)).2.stock = e.stock.withoutVolume name := by
  have hstock := (receive_keeps "remove_volume" name e).2
  change (e.received "remove_volume" name _).2.stock = _
  rw [received_of_receive (h.receive (by decide) _), ← hstock]
  generalize (e.receive "remove_volume" name).2 = e'
  by_cases hmem : e'.volumes.contains name
  · rw [if_pos hmem]
    rfl
  · rw [if_neg hmem, Stock.withoutVolume]
    have hnot : name ∉ e'.volumes := by simpa using hmem
    rw [show e'.stock.volumes.erase name = e'.stock.volumes from List.erase_of_not_mem hnot]

/-- **An engine that obliges removes the container that it is asked to**, with or without force; the named volumes
that it mounts stay. -/
theorem Obliges.remove (h : e.Obliges) (id : String) (force volumes : Bool) :
    (e.answer (.remove id force volumes)).2.stock = e.stock.withoutUnit id := by
  have hstock := (receive_keeps "remove" (id ++ " force=" ++ flag force ++ " v=" ++ flag volumes) e).2
  change (e.received "remove" _ _).2.stock = _
  rw [received_of_receive (h.receive (by decide) _), ← hstock]
  generalize (e.receive "remove" _).2 = e'
  unfold withContainer
  split
  · rename_i hnone
    have hunit : e'.stock.unit? id = none := congrArg (Option.map _) hnone
    rw [Stock.withoutUnit, ← hunit, Function.update_eq_self]
  · unfold stock Stock.withoutUnit
    congr 1
    funext k
    dsimp only
    rw [lookup_filter_ne, Function.update_apply]
    split <;> rfl

/-- **What the engine reports of a container says which volumes go with it.** -/
theorem Obliges.inspect (h : e.Obliges) (id : String) (name : Option String) :
    Unit.volumesOf name (e.answer (.inspect id)).1 = e.stock.volumesOf id name := by
  have hstock := (receive_keeps "inspect" id e).2
  change Unit.volumesOf name (e.received "inspect" id _).1 = _
  rw [received_of_receive (h.receive (by decide) _), ← hstock]
  generalize (e.receive "inspect" id).2 = e'
  have hunit : e'.stock.unit? id = (e'.containers.lookup id).map fun c => (c.name, c.body.volumes) := rfl
  unfold withContainer Stock.volumesOf
  rw [hunit]
  split
  · rename_i hnone
    rw [hnone]
    rfl
  · rename_i c hc
    rw [hc]
    exact namedVolumes_report id c

/-- **A container is made under the next identifier**, or nothing is. -/
theorem stock_createContainer (name : String) (body : ContainerBody) (e : Engine) :
    ((∃ f, (e.answer (.createContainer name body)).1 = .error f) ∧
      (e.answer (.createContainer name body)).2.stock = e.stock) ∨
    (e.answer (.createContainer name body)).1 = .ok e.stock.nextId ∧
      (e.answer (.createContainer name body)).2.stock = e.stock.withUnit name body.volumes := by
  have hstock := (receive_keeps "create_container" name e).2
  change ((∃ f, (e.received "create_container" name (make name body)).1 = .error f) ∧
      (e.received "create_container" name (make name body)).2.stock = _) ∨
    (e.received "create_container" name (make name body)).1 = _ ∧
      (e.received "create_container" name (make name body)).2.stock = _
  unfold received
  split
  · rename_i f e' hreceive
    rw [hreceive] at hstock
    exact .inl ⟨⟨f, rfl⟩, hstock⟩
  · rename_i e' hreceive
    rw [hreceive] at hstock
    rw [← hstock]
    unfold make
    split
    · exact .inl ⟨⟨_, rfl⟩, rfl⟩
    · have hheld := stock_hold e'.stock.nextId ⟨name, body, "created"⟩ e'
      exact .inr ⟨rfl, congrArg (fun k : Stock => { k with given := e'.given + 1 }) hheld⟩

end FleetControl.Engine
