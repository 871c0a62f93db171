import FleetControl.Proofs.Engine.Guest

/-!
# What taking a unit down says and spares, whatever fails

Taking a unit down asks for the unit first, and the answer says which volumes go with it. What follows is fixed
by that alone (`asked_teardown`): the unit is stopped and removed, and its volumes are removed one after
another, whatever comes of each call. Other containers and other volumes are spared by every one of these
calls (`spares_answer`), and so by all of them together.
-/

namespace FleetControl.Engine

variable {α β : Type} {e e' : Engine} {id : String} {names : List String}

/-- What is put under a key is nothing to the entries under other keys. -/
theorem filter_putKey {k : String} {a : α} : ∀ {l : List (String × α)},
    (putKey k a l).filter (fun x => x.1 != k) = l.filter fun x => x.1 != k
  | [] => by simp [putKey]
  | (k', b) :: rest => by
    unfold putKey
    split
    · rename_i h
      simp [eq_of_beq h]
    · rw [List.filter_cons, List.filter_cons, filter_putKey]

/-- A name that is taken out is none of the others. -/
theorem filter_erase {name : String} (hname : name ∈ names) : ∀ l : List String,
    (l.erase name).filter (fun m => decide (m ∉ names)) = l.filter fun m => decide (m ∉ names)
  | [] => rfl
  | m :: rest => by
    rw [List.erase_cons]
    split
    · rename_i h
      rw [List.filter_cons_of_neg (by simp [eq_of_beq h, hname])]
    · rw [List.filter_cons, List.filter_cons, filter_erase hname rest]

/-- **The engine holds what it held**, one container and some volumes apart. -/
structure Spares (id : String) (names : List String) (e e' : Engine) : Prop where
  containers : e'.containers.filter (fun x => x.1 != id) = e.containers.filter fun x => x.1 != id
  volumes : e'.volumes.filter (fun m => decide (m ∉ names)) = e.volumes.filter fun m => decide (m ∉ names)

/-- What one call spares and the next one spares is spared by both. -/
theorem Spares.trans {e'' : Engine} (h : Spares id names e e') (h' : Spares id names e' e'') :
    Spares id names e e'' :=
  ⟨h'.containers.trans h.containers, h'.volumes.trans h.volumes⟩

/-- An engine that holds what it held has spared everything. -/
theorem Spares.of_holdings (h : e'.holdings = e.holdings) : Spares id names e e' where
  containers := congrArg (fun k : Holdings => k.containers.filter fun x => x.1 != id) h
  volumes := congrArg (fun k : Holdings => k.volumes.filter fun m => decide (m ∉ names)) h

/-- A call spares, received or not, if what it does spares. -/
theorem spares_received {op detail : String} {act : Engine → Except Failure β × Engine}
    (hact : ∀ e, Spares id names e (act e).2) (e : Engine) :
    Spares id names e (e.received op detail act).2 := by
  rcases received_cases op detail e act with ⟨_, hsame⟩ | ⟨e', hsame, hdone⟩
  · exact .of_holdings hsame
  · rw [hdone]
    exact (Spares.of_holdings hsame).trans (hact e')

/-- What is done to a container spares the others, also where the container is not there. -/
theorem spares_withContainer {act : Container → Engine → Except Failure β × Engine}
    (hact : ∀ c e, Spares id names e (act c e).2) (e : Engine) :
    Spares id names e (e.withContainer id act).2 := by
  unfold withContainer
  split
  · exact .of_holdings rfl
  · exact hact _ e

/-- The call is one of those that take a unit down, with these volumes. -/
def Call.TakesDown (id : String) (names : List String) : {β : Type} → Call β → Prop
  | _, .inspect i | _, .stop i _ | _, .remove i _ _ => i = id
  | _, .removeVolume name => name ∈ names
  | _, _ => False

/-- **A call that takes a unit down spares all that is not the unit's**, whatever it comes to. -/
theorem spares_answer {c : Call β} (hc : c.TakesDown id names) (e : Engine) :
    Spares id names e (e.answer c).2 := by
  cases c with
  | inspect i =>
    obtain rfl : i = id := hc
    exact spares_received (spares_withContainer fun _ _ => .of_holdings rfl) e
  | stop i grace =>
    obtain rfl : i = id := hc
    exact spares_received (spares_withContainer fun _ _ => ⟨filter_putKey, rfl⟩) e
  | remove i force volumes =>
    obtain rfl : i = id := hc
    refine spares_received (spares_withContainer fun _ e => ⟨?_, rfl⟩) e
    show (e.containers.filter fun x => x.1 != i).filter _ = _
    rw [List.filter_filter]
    simp only [Bool.and_self]
  | removeVolume name =>
    refine spares_received (fun e => ?_) e
    split
    · exact ⟨rfl, filter_erase hc e.volumes⟩
    · exact .of_holdings rfl
  | _ => exact hc.elim

/-- Calls one after another spare what each of them spares, by induction on them. -/
theorem spares_each : ∀ {calls : List (Call Unit)} (_ : ∀ c ∈ calls, c.TakesDown id names) (e : Engine),
    Spares id names e (e.run (Dialog.each calls)).2
  | [], _, _ => .of_holdings rfl
  | c :: rest, h, e => by
    obtain ⟨hfirst, hrest⟩ := List.forall_mem_cons.mp h
    exact (spares_answer hfirst e).trans (spares_each hrest (e.answer c).2)

namespace Unit

/-- **Taking a unit down goes on to its end**, with the volumes that the first answer says. -/
structure GoesOn (c : EngineSettings) (id : String) (name : Option String) (e : Engine) (xs : List Exchange)
    (volumes : List String) (e' : Engine) : Prop where
  /-- The volumes are those of the container that the engine reports, or the one that a name stands for. -/
  listed : (∃ k, e.containers.lookup id = some k ∧ (e.answer (.inspect id)).1 = .ok (report id k) ∧
      volumes = (report id k).namedVolumes) ∨
    (∃ f, (e.answer (.inspect id)).1 = .error f) ∧
      volumes = ((name.filter fun n => !n.isEmpty).map volumeName).toList
  asked : xs.map Exchange.asked =
    [⟨_, .inspect id⟩, ⟨_, .stop id c.teardownGrace⟩, ⟨_, .remove id true true⟩] ++
      volumes.map fun v => ⟨_, .removeVolume v⟩
  spared : Spares id volumes e e'

/-- **What a teardown asks for** follows from the first answer alone: an inspection, a stop and a removal of the
container, and then the removal of each volume that the answer names. No later answer changes what is asked. -/
theorem asked_teardown (c : EngineSettings) (id : String) (name : Option String) (e : Engine) :
    (e.exchanges (teardown c id name)).map Exchange.asked =
      [⟨_, .inspect id⟩, ⟨_, .stop id c.teardownGrace⟩, ⟨_, .remove id true true⟩] ++
        (volumesOf name (e.answer (.inspect id)).1).map fun v => ⟨_, .removeVolume v⟩ := by
  unfold teardown
  rw [exchanges_bind, exchanges_call, run_call, List.map_append, asked_each, List.map_append, List.map_map]
  rfl

/-- All that is not the unit's is spared. -/
theorem spares_teardown (c : EngineSettings) (id : String) (name : Option String) (e : Engine) :
    Spares id (volumesOf name (e.answer (.inspect id)).1) e (e.run (teardown c id name)).2 := by
  unfold teardown
  rw [run_bind, run_call]
  refine (spares_answer (c := .inspect id) rfl e).trans (spares_each (fun call hcall => ?_) _)
  rcases List.mem_append.mp hcall with hunit | hvolume
  · rcases List.mem_cons.mp hunit with rfl | hremove
    · rfl
    · obtain rfl := List.mem_singleton.mp hremove
      rfl
  · obtain ⟨v, hv, rfl⟩ := List.mem_map.mp hvolume
    exact hv

/-- **Taking a unit down goes on to its end**, whatever the engine fails. -/
theorem goesOn_teardown (c : EngineSettings) (id : String) (name : Option String) (e : Engine) :
    GoesOn c id name e (e.exchanges (teardown c id name)) (volumesOf name (e.answer (.inspect id)).1)
      (e.run (teardown c id name)).2 where
  listed := by
    rcases inspect_cases id e with ⟨k, hlookup, hok⟩ | ⟨f, hf⟩
    · rw [hok]
      exact .inl ⟨k, hlookup, rfl, rfl⟩
    · rw [hf]
      exact .inr ⟨⟨f, rfl⟩, rfl⟩
  asked := asked_teardown c id name e
  spared := spares_teardown c id name e

end Unit

end FleetControl.Engine
