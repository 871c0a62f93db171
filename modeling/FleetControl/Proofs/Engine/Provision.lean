import FleetControl.Proofs.Engine.Guest

/-!
# What making a unit leaves, whatever fails

An engine may refuse any of the calls by which a unit is made, once or always, or be out of reach. The
volume's failure is passed over, a refused container is asked for once more without the limit of its file
system, and a container that does not start is removed. So there are four ways for it to end (`Course`), and
in each of them the containers are what they were, or one more.

**The law** (`allOrNothing_provision`): a unit that is made is one container more, running; one that is not
made is no container more, unless its removal was refused as well.
-/

namespace FleetControl.Engine

variable {e : Engine} {k : List (String × Container)} {id : String} {c : Container}

/-! ## A container that was just made -/

/-- A container that was just made starts, or the engine holds what it held. -/
theorem start_cases (hnew : k.lookup id = none) (hheld : e.containers = k ++ [(id, c)]) :
    ((∃ f, (e.answer (.start id)).1 = .error f) ∧ (e.answer (.start id)).2.holdings = e.holdings) ∨
    (e.answer (.start id)).1 = .ok () ∧ (e.answer (.start id)).2.holdings =
      ⟨k ++ [(id, { c with state := "running" })], e.volumes, e.given⟩ := by
  refine (received_container_cases "start" id id e fun c e =>
    (.ok (), { e with containers := putKey id { c with state := "running" } e.containers })).imp_right ?_
  rintro ⟨c', e', hlookup, hsame, hdone⟩
  rw [hheld, lookup_append_self hnew] at hlookup
  obtain rfl := Option.some.inj hlookup
  obtain ⟨hcontainers, hvolumes, hgiven⟩ := Holdings.mk.inj hsame
  have hanswer : e.answer (.start id) = _ := hdone
  rw [hanswer]
  refine ⟨rfl, ?_⟩
  show Holdings.mk (putKey id _ e'.containers) e'.volumes e'.given = _
  rw [hcontainers, hheld, putKey_append hnew, hvolumes, hgiven]

/-- It is removed, or the engine holds what it held. -/
theorem remove_cases (hnew : k.lookup id = none) (hheld : e.containers = k ++ [(id, c)])
    (force withVolumes : Bool) :
    ((∃ f, (e.answer (.remove id force withVolumes)).1 = .error f) ∧
      (e.answer (.remove id force withVolumes)).2.holdings = e.holdings) ∨
    (e.answer (.remove id force withVolumes)).1 = .ok () ∧
      (e.answer (.remove id force withVolumes)).2.holdings = ⟨k, e.volumes, e.given⟩ := by
  refine (received_container_cases "remove" (id ++ " force=" ++ flag force ++ " v=" ++ flag withVolumes) id e
    fun _ e => (.ok (), { e with containers := e.containers.filter fun x => x.1 != id })).imp_right ?_
  rintro ⟨_, e', _, hsame, hdone⟩
  obtain ⟨hcontainers, hvolumes, hgiven⟩ := Holdings.mk.inj hsame
  have hanswer : e.answer (.remove id force withVolumes) = _ := hdone
  rw [hanswer]
  refine ⟨rfl, ?_⟩
  show Holdings.mk (e'.containers.filter _) e'.volumes e'.given = _
  rw [hcontainers, hheld, hvolumes, hgiven]
  exact congrArg (Holdings.mk · _ _) (filter_append_self hnew)

namespace Unit

variable {p : Plan} {r : Except Failure String} {xs : List Exchange} {body : ContainerBody}

/-! ## The courses -/

/-- **How making a unit goes on from its volume**: what is said, what comes of it, and the containers then,
where `k` were there and `id` is the next identifier. -/
inductive Course (p : Plan) (k : List (String × Container)) (id : String) :
    List Exchange → Except Failure String → List (String × Container) → Prop
  | refused {xs : List Exchange} {f : Failure} {body : ContainerBody} (creation : Creation p xs (.error f) body) :
      Course p k id xs (.error (.provision ("create container: " ++ f.message))) k
  | started {xs : List Exchange} {body : ContainerBody} (creation : Creation p xs (.ok id) body) :
      Course p k id (xs ++ [⟨.start id, .ok ()⟩]) (.ok id) (k ++ [(id, ⟨p.name, body, "running"⟩)])
  | removed {xs : List Exchange} {body : ContainerBody} {f : Failure} (creation : Creation p xs (.ok id) body) :
      Course p k id (xs ++ [⟨.start id, .error f⟩, ⟨.remove id true false, .ok ()⟩])
        (.error (.provision ("start container: " ++ f.message))) k
  | left {xs : List Exchange} {body : ContainerBody} {f g : Failure} (creation : Creation p xs (.ok id) body) :
      Course p k id (xs ++ [⟨.start id, .error f⟩, ⟨.remove id true false, .error g⟩])
        (.error (.provision ("start container: " ++ f.message))) (k ++ [(id, ⟨p.name, body, "created"⟩)])

/-- **A container that was just made is started**, or removed, or left where its removal fails. -/
theorem course_launch (hnew : k.lookup id = none) (hheld : e.containers = k ++ [(id, ⟨p.name, body, "created"⟩)])
    (creation : Creation p xs (.ok id) body) :
    Course p k id (xs ++ e.exchanges (launch id)) (e.run (launch id)).1 (e.run (launch id)).2.containers ∧
      (e.run (launch id)).2.volumes = e.volumes := by
  unfold launch
  rw [exchanges_bind, exchanges_call, run_bind, run_call]
  rcases start_cases hnew hheld with ⟨⟨f, hf⟩, hsame⟩ | ⟨hok, hstarted⟩
  · rw [hf]
    obtain ⟨hcontainers, hvolumes, _⟩ := Holdings.mk.inj hsame
    dsimp only
    rw [exchanges_bind, exchanges_call, run_bind, run_call, exchanges_pure]
    generalize (e.answer (.start id)).2 = e' at hcontainers hvolumes
    rcases remove_cases hnew (hcontainers.trans hheld) true false with ⟨⟨g, hg⟩, hsame'⟩ | ⟨hok, hgone⟩
    · obtain ⟨hcontainers', hvolumes', _⟩ := Holdings.mk.inj hsame'
      rw [hg]
      refine ⟨?_, hvolumes'.trans hvolumes⟩
      show Course p k id _ _ (e'.answer (.remove id true false)).2.containers
      rw [hcontainers', hcontainers, hheld]
      exact .left creation
    · obtain ⟨hcontainers', hvolumes', _⟩ := Holdings.mk.inj hgone
      rw [hok]
      refine ⟨?_, hvolumes'.trans hvolumes⟩
      show Course p k id _ _ (e'.answer (.remove id true false)).2.containers
      rw [hcontainers']
      exact .removed creation
  · rw [hok]
    obtain ⟨hcontainers, hvolumes, _⟩ := Holdings.mk.inj hstarted
    refine ⟨?_, hvolumes⟩
    show Course p k id _ _ (e.answer (.start id)).2.containers
    rw [hcontainers]
    exact .started creation

/-- **Making a unit takes one of the courses**, once its volume was asked for. -/
theorem course_provision (hnew : e.containers.lookup e.stock.nextId = none) (p : Plan) :
    ∃ xs, e.exchanges (provision p) =
        e.exchanges (Dialog.each (p.volume.toList.map .createVolume)) ++ xs ∧
      Course p e.containers e.stock.nextId xs (e.run (provision p)).1 (e.run (provision p)).2.containers ∧
      ((e.run (provision p)).2.volumes = e.volumes ∨
        ∃ b ∈ p.volume, (e.run (provision p)).2.volumes = putName b.name e.volumes) := by
  have hvolume := createVolumes_cases p.volume e
  unfold provision
  rw [exchanges_bind, run_bind]
  refine ⟨_, rfl, ?_⟩
  generalize (e.run (Dialog.each (p.volume.toList.map .createVolume))).2 = e₁ at hvolume ⊢
  obtain ⟨hcontainers, hgiven, hvolumes⟩ : e₁.containers = e.containers ∧ e₁.given = e.given ∧
      (e₁.volumes = e.volumes ∨ ∃ b ∈ p.volume, e₁.volumes = putName b.name e.volumes) := by
    rcases hvolume with hsame | ⟨b, hb, hmade⟩
    · obtain ⟨hcontainers, hvolumes, hgiven⟩ := Holdings.mk.inj hsame
      exact ⟨hcontainers, hgiven, .inl hvolumes⟩
    · obtain ⟨hcontainers, hvolumes, hgiven⟩ := Holdings.mk.inj hmade
      exact ⟨hcontainers, hgiven, .inr ⟨b, hb, hvolumes⟩⟩
  have hnext : e₁.stock.nextId = e.stock.nextId := congrArg (fun n => "c" ++ toString (n + 1)) hgiven
  rw [exchanges_bind, run_bind]
  obtain ⟨body, creation, ⟨⟨f, hf⟩, hsame⟩ | ⟨hok, hmade⟩⟩ := creation_create p e₁
  · obtain ⟨hcontainers', hvolumes', _⟩ := Holdings.mk.inj hsame
    rw [hf] at creation ⊢
    dsimp only
    rw [exchanges_pure, List.append_nil]
    refine ⟨?_, ?_⟩
    · show Course p _ _ _ _ (e₁.run (create p)).2.containers
      rw [hcontainers', hcontainers]
      exact .refused creation
    · show (e₁.run (create p)).2.volumes = _ ∨ ∃ b ∈ p.volume, (e₁.run (create p)).2.volumes = _
      rw [hvolumes']
      exact hvolumes
  · obtain ⟨hcontainers', hvolumes', _⟩ := Holdings.mk.inj hmade
    rw [hok, hnext] at creation
    rw [hok]
    dsimp only
    rw [hnext, hcontainers, putKey_of_lookup hnew] at hcontainers'
    obtain ⟨hcourse, hkept⟩ := course_launch hnew hcontainers' creation
    rw [hnext]
    refine ⟨hcourse, ?_⟩
    rw [hkept, hvolumes']
    exact hvolumes

/-! ## All or nothing -/

/-- The body that a container was asked for with last. -/
def lastBody (p : Plan) (xs : List Exchange) : ContainerBody :=
  if 1 < (xs.filterMap Exchange.creation?).length then p.body.withoutStorageLimit else p.body

/-- **A container is asked for once**, or a second time without the limit that it had when it was refused. -/
def AskedFor (p : Plan) (xs : List Exchange) : Prop :=
  (∃ r, xs.filterMap Exchange.creation? = [((p.name, p.body), r)]) ∨
    p.body.host.storage.isSome = true ∧ ∃ f r, xs.filterMap Exchange.creation? =
      [((p.name, p.body), .error f), ((p.name, p.body.withoutStorageLimit), r)]

/-- **Making a unit is all or nothing**, as far as containers go. -/
structure AllOrNothing (p : Plan) (e : Engine) (xs : List Exchange) (r : Except Failure String)
    (e' : Engine) : Prop where
  asked : AskedFor p xs
  /-- Success is one container more, running, under the identifier that is returned. -/
  made : ∀ id, r = .ok id → id = e.stock.nextId ∧
    e'.containers = e.containers ++ [(id, ⟨p.name, lastBody p xs, "running"⟩)]
  failed : ∀ f, r = .error f → ∃ text, f = .provision text
  /-- Failure is no container more, where no removal fails. -/
  unmade : ∀ f, r = .error f → (∀ g, .error g ∉ xs.filterMap Exchange.removal?) →
    e'.containers = e.containers
  /-- Where the removal fails too, the container is left as it was created. -/
  left : ∀ f g, r = .error f → .error g ∈ xs.filterMap Exchange.removal? →
    e'.containers = e.containers ++ [(e.stock.nextId, ⟨p.name, lastBody p xs, "created"⟩)]
  volumes : e'.volumes = e.volumes ∨ ∃ b ∈ p.volume, e'.volumes = putName b.name e.volumes

/-- What follows the creation asks for no container, so the creation says which were asked for. -/
theorem Creation.asked (h : Creation p xs r body) (ys : List Exchange)
    (hys : ys.filterMap Exchange.creation? = []) : AskedFor p (xs ++ ys) ∧ lastBody p (xs ++ ys) = body ∧
      (xs ++ ys).filterMap Exchange.removal? = ys.filterMap Exchange.removal? := by
  have hasked : (xs ++ ys).filterMap Exchange.creation? = xs.filterMap Exchange.creation? := by
    rw [List.filterMap_append, hys, List.append_nil]
  unfold AskedFor lastBody
  rw [hasked, List.filterMap_append]
  cases h with
  | once _ => exact ⟨.inl ⟨_, rfl⟩, rfl, rfl⟩
  | twice limited => exact ⟨.inr ⟨limited, _, _, rfl⟩, rfl, rfl⟩

/-- The volume's exchanges ask for no container and remove none. -/
theorem exchanges_createVolumes (volume : Option VolumeBody) (e : Engine) :
    (e.exchanges (Dialog.each (volume.toList.map .createVolume))).filterMap Exchange.creation? = [] ∧
      (e.exchanges (Dialog.each (volume.toList.map .createVolume))).filterMap Exchange.removal? = [] := by
  cases volume with
  | none => exact ⟨rfl, rfl⟩
  | some b => exact ⟨rfl, rfl⟩

/-- **Each of the four courses is all or nothing**: two end with a container that runs or with none, and the
others say what came of the removal. -/
theorem Course.allOrNothing {e' : Engine} (h : Course p e.containers e.stock.nextId xs r e'.containers)
    (hvolumes : e'.volumes = e.volumes ∨ ∃ b ∈ p.volume, e'.volumes = putName b.name e.volumes) :
    AllOrNothing p e xs r e' := by
  generalize hk : e'.containers = k at h
  cases h with
  | refused creation =>
    obtain ⟨hasked, _, hremoved⟩ := creation.asked [] rfl
    rw [List.append_nil] at hasked hremoved
    exact
      { asked := hasked
        made := nofun
        failed := fun _ hr => ⟨_, (Except.error.inj hr).symm⟩
        unmade := fun _ _ _ => hk
        left := fun _ g _ hg => by
          rw [hremoved] at hg
          exact absurd hg List.not_mem_nil
        volumes := hvolumes }
  | started creation =>
    obtain ⟨hasked, hbody, _⟩ := creation.asked [⟨.start e.stock.nextId, .ok ()⟩] rfl
    exact
      { asked := hasked
        made := fun id hid => by
          obtain rfl := Except.ok.inj hid
          rw [hbody]
          exact ⟨rfl, hk⟩
        failed := nofun
        unmade := nofun
        left := nofun
        volumes := hvolumes }
  | @removed _ _ f creation =>
    obtain ⟨hasked, _, hremoved⟩ := creation.asked
      [⟨.start e.stock.nextId, .error f⟩, ⟨.remove e.stock.nextId true false, .ok ()⟩] rfl
    exact
      { asked := hasked
        made := nofun
        failed := fun _ hr => ⟨_, (Except.error.inj hr).symm⟩
        unmade := fun _ _ _ => hk
        left := fun _ g _ hg => by
          rw [hremoved] at hg
          cases List.mem_singleton.mp hg
        volumes := hvolumes }
  | @left _ _ f g creation =>
    obtain ⟨hasked, hbody, hremoved⟩ := creation.asked
      [⟨.start e.stock.nextId, .error f⟩, ⟨.remove e.stock.nextId true false, .error g⟩] rfl
    exact
      { asked := hasked
        made := nofun
        failed := fun _ hr => ⟨_, (Except.error.inj hr).symm⟩
        unmade := fun _ _ hnone => by
          rw [hremoved] at hnone
          exact absurd (List.mem_singleton_self _) (hnone g)
        left := fun _ _ _ _ => by
          rw [hbody]
          exact hk
        volumes := hvolumes }

/-- **Making a unit is all or nothing**, whatever the engine fails. -/
theorem allOrNothing_provision (hnew : e.containers.lookup e.stock.nextId = none) (p : Plan) :
    AllOrNothing p e (e.exchanges (provision p)) (e.run (provision p)).1 (e.run (provision p)).2 := by
  obtain ⟨xs, hxs, hcourse, hvolumes⟩ := course_provision hnew p
  have h := hcourse.allOrNothing hvolumes
  obtain ⟨hnone, hkept⟩ := exchanges_createVolumes p.volume e
  have hasked : (e.exchanges (provision p)).filterMap Exchange.creation? =
      xs.filterMap Exchange.creation? := by
    rw [hxs, List.filterMap_append, hnone, List.nil_append]
  have hremoved : (e.exchanges (provision p)).filterMap Exchange.removal? =
      xs.filterMap Exchange.removal? := by
    rw [hxs, List.filterMap_append, hkept, List.nil_append]
  have hbody : lastBody p (e.exchanges (provision p)) = lastBody p xs := by
    rw [lastBody, hasked]
    rfl
  exact
    { asked := by
        rw [AskedFor, hasked]
        exact h.asked
      made := by
        rw [hbody]
        exact h.made
      failed := h.failed
      unmade := by
        rw [hremoved]
        exact h.unmade
      left := by
        rw [hbody, hremoved]
        exact h.left
      volumes := h.volumes }

/-! ## The unit that was made -/

variable {u : Container}

/-- A container that is started runs, and is otherwise what it was. -/
theorem start_ok (hheld : e.containers.lookup id = some u) (hok : (e.answer (.start id)).1 = .ok ()) :
    (e.answer (.start id)).2.containers.lookup id = some { u with state := "running" } := by
  rcases received_container_cases "start" id id e fun c e =>
      (.ok (), { e with containers := putKey id { c with state := "running" } e.containers }) with
    ⟨⟨f, hf⟩, _⟩ | ⟨u', e', hlookup, _, hdone⟩
  · have hfailed : (e.answer (.start id)).1 = .error f := hf
    cases hfailed.symm.trans hok
  · obtain rfl := Option.some.inj (hlookup.symm.trans hheld)
    have hanswer : e.answer (.start id) = _ := hdone
    rw [hanswer]
    exact (lookup_putKey _ _ _ _).trans (if_pos rfl)

/-- A container is made from the plan's body, or from the same without the limit of its file system. -/
theorem Creation.body_eq (h : Creation p xs r body) : body = p.body ∨ body = p.body.withoutStorageLimit := by
  cases h with
  | once _ => exact .inl rfl
  | twice _ => exact .inr rfl

/-- **The unit that is made is created from the plan**, but for the limit of its file system. -/
theorem body_provision (hok : (e.run (provision p)).1 = .ok id) :
    ∃ body, (body = p.body ∨ body = p.body.withoutStorageLimit) ∧
      (e.run (provision p)).2.containers.lookup id = some ⟨p.name, body, "running"⟩ := by
  unfold provision at hok ⊢
  rw [run_bind] at hok ⊢
  generalize (e.run (Dialog.each (p.volume.toList.map .createVolume))).2 = e₁ at hok ⊢
  rw [run_bind] at hok ⊢
  obtain ⟨body, creation, ⟨⟨f, hf⟩, _⟩ | ⟨hmade, hheld⟩⟩ := creation_create p e₁
  · rw [hf] at hok
    cases hok
  · rw [hmade] at hok ⊢
    generalize (e₁.run (create p)).2 = e₂ at hok hheld ⊢
    have hlookup : e₂.containers.lookup e₁.stock.nextId = some ⟨p.name, body, "created"⟩ := by
      rw [show e₂.containers = _ from congrArg Holdings.containers hheld, lookup_putKey, if_pos rfl]
    refine ⟨body, creation.body_eq, ?_⟩
    dsimp only at hok ⊢
    unfold launch at hok ⊢
    rw [run_bind, run_call] at hok ⊢
    cases hstart : (e₂.answer (.start e₁.stock.nextId)).1 with
    | ok _ =>
      rw [hstart] at hok
      obtain rfl := Except.ok.inj hok
      exact start_ok hlookup hstart
    | error f =>
      rw [hstart] at hok
      cases hok

end Unit

end FleetControl.Engine
