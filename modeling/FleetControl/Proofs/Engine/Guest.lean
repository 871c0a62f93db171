import FleetControl.Proofs.Engine.Exchange

/-!
# Guests of an engine

A container that was made for a unit is a guest: it stands after the containers that were there before
it, and its data volume, if the engine made one, among the volumes (`Hosts`). Making a unit takes a guest
in (`hosts_provision`), calls that mind its state keep it (`Hosts.answer`), and taking the unit down leaves
the containers and the volumes as they were before, to the letter (`Hosts.teardown`).

The engine may fail on the way as it likes. A data volume that could not be made is mounted all the same,
and its removal finds nothing. Only the removals themselves must not be refused.
-/

namespace FleetControl.Engine

variable {α β : Type} {e : Engine} {id name : String} {volumes : List String}

/-! ## Lists -/

/-- What is put under a new key stands behind the others. -/
theorem putKey_of_lookup {k : String} {a : α} : ∀ {l : List (String × α)}, l.lookup k = none →
    putKey k a l = l ++ [(k, a)]
  | [], _ => rfl
  | (k', b) :: rest, h => by
    rw [lookup_cons_if] at h
    split at h
    · cases h
    · rename_i hne
      rw [putKey, if_neg (by simpa using Ne.symm hne), putKey_of_lookup h, List.cons_append]

/-- What is put under the last key takes the place of the last entry. -/
theorem putKey_append {k : String} {a b : α} : ∀ {l : List (String × α)}, l.lookup k = none →
    putKey k a (l ++ [(k, b)]) = l ++ [(k, a)]
  | [], _ => by simp [putKey]
  | (k', c) :: rest, h => by
    rw [lookup_cons_if] at h
    split at h
    · cases h
    · rename_i hne
      rw [List.cons_append, putKey, if_neg (by simpa using Ne.symm hne), putKey_append h, List.cons_append]

/-- What stands behind the others under a new key is found there. -/
theorem lookup_append_self {k : String} {a : α} {l : List (String × α)} (h : l.lookup k = none) :
    (l ++ [(k, a)]).lookup k = some a := by
  rw [← putKey_of_lookup h, lookup_putKey, if_pos rfl]

/-- **What stands behind the others under a new key is taken out without a trace**: the others are what they were,
in their order. -/
theorem filter_append_self {k : String} {a : α} {l : List (String × α)} (h : l.lookup k = none) :
    (l ++ [(k, a)]).filter (fun x => x.1 != k) = l := by
  have hne : ∀ x ∈ l, (x.1 != k) = true := by
    intro x hx
    rw [bne_comm]
    exact List.lookup_eq_none_iff.mp h x hx
  simp [List.filter_eq_self.mpr hne]

/-- A name that was put among others and is taken out again leaves the others in place. -/
theorem erase_putName : ∀ {l : List String}, name ∉ l → (putName name l).erase name = l
  | [], _ => List.erase_cons_head _ _
  | m :: rest, h => by
    have hne : m ≠ name := fun heq => h (heq ▸ List.mem_cons_self)
    unfold putName
    split
    · exact List.erase_cons_head _ _
    · rw [if_neg (by simpa using Ne.symm hne), List.erase_cons_tail (by simpa using hne),
        erase_putName fun hmem => h (List.mem_cons_of_mem _ hmem)]

/-! ## Holdings -/

/-- **What an engine holds, to the letter.** -/
structure Holdings where
  containers : List (String × Container)
  volumes : List String
  given : Nat

def holdings (e : Engine) : Holdings := ⟨e.containers, e.volumes, e.given⟩

/-- Looking for a failure changes nothing that the engine holds. -/
theorem holdings_refusal? (key : String) (e : Engine) : (e.refusal? key).2.holdings = e.holdings := by
  unfold refusal?
  split <;> rfl

/-- Receiving a call, or not, changes nothing that the engine holds. -/
theorem holdings_receive (op detail : String) (e : Engine) :
    (e.receive op detail).2.holdings = e.holdings := by
  have hfirst := holdings_refusal? (op ++ ":" ++ detail) (e.noted op detail)
  unfold receive
  dsimp only
  rw [noted] at hfirst
  split
  · rfl
  · split
    · rename_i r e₁ h₁
      rw [h₁] at hfirst
      exact hfirst
    · rename_i e₁ h₁
      rw [h₁] at hfirst
      have hsecond := (holdings_refusal? op e₁).trans hfirst
      split
      · rename_i r e₂ h₂
        rw [h₂] at hsecond
        exact hsecond
      · rename_i e₂ h₂
        rw [h₂] at hsecond
        exact hsecond

/-- **A call is received and done, or fails** and the engine holds what it held. -/
theorem received_cases (op detail : String) (e : Engine) (act : Engine → Except Failure β × Engine) :
    ((∃ f, (e.received op detail act).1 = .error f) ∧ (e.received op detail act).2.holdings = e.holdings) ∨
      ∃ e', e'.holdings = e.holdings ∧ e.received op detail act = act e' := by
  have hkeeps := holdings_receive op detail e
  unfold received
  split
  · rename_i f e' hreceive
    rw [hreceive] at hkeeps
    exact .inl ⟨⟨f, rfl⟩, hkeeps⟩
  · rename_i e' hreceive
    rw [hreceive] at hkeeps
    exact .inr ⟨e', hkeeps, rfl⟩

/-- **A call about a container** is done with the container, or fails and the engine holds what it held. -/
theorem received_container_cases (op detail id : String) (e : Engine)
    (act : Container → Engine → Except Failure β × Engine) :
    ((∃ f, (e.received op detail (withContainer id act)).1 = .error f) ∧
      (e.received op detail (withContainer id act)).2.holdings = e.holdings) ∨
    ∃ c e', e.containers.lookup id = some c ∧ e'.holdings = e.holdings ∧
      e.received op detail (withContainer id act) = act c e' := by
  rcases received_cases op detail e (withContainer id act) with hfails | ⟨e', hsame, hdone⟩
  · exact .inl hfails
  · have hcontainers : e'.containers = e.containers := congrArg Holdings.containers hsame
    rw [hdone, withContainer, hcontainers]
    cases e.containers.lookup id with
    | none => exact .inl ⟨⟨_, rfl⟩, hsame⟩
    | some c => exact .inr ⟨c, e', rfl, hsame, rfl⟩

/-- A container is reported as it is, or the engine refuses. -/
theorem inspect_cases (id : String) (e : Engine) :
    (∃ k, e.containers.lookup id = some k ∧ (e.answer (.inspect id)).1 = .ok (report id k)) ∨
      ∃ f, (e.answer (.inspect id)).1 = .error f := by
  rcases received_container_cases "inspect" id id e fun c e => (.ok (report id c), e) with
    ⟨hfails, _⟩ | ⟨k, _, hlookup, _, hdone⟩
  · exact .inr hfails
  · exact .inl ⟨k, hlookup, congrArg Prod.fst hdone⟩

/-! ## Guests -/

/-- **The engine holds a guest** besides what it held before: a container, and its data volume unless that
could not be made. -/
structure Hosts (k : Holdings) (id name : String) (volumes : List String) (e : Engine) : Prop where
  isNew : k.containers.lookup id = none
  fresh : volumeName name ∉ k.volumes
  containers : ∃ c : Container, c.name = name ∧ c.body.volumes = volumes ∧
    e.containers = k.containers ++ [(id, c)]
  volumes : e.volumes = k.volumes ∨
    volumes = [volumeName name] ∧ e.volumes = putName (volumeName name) k.volumes

variable {k : Holdings}

/-- An engine that holds the same has the same guest. -/
theorem Hosts.of_holdings {e' : Engine} (h : Hosts k id name volumes e) (he : e'.holdings = e.holdings) :
    Hosts k id name volumes e' where
  isNew := h.isNew
  fresh := h.fresh
  containers := by
    rw [show e'.containers = e.containers from congrArg Holdings.containers he]
    exact h.containers
  volumes := by
    rw [show e'.volumes = e.volumes from congrArg Holdings.volumes he]
    exact h.volumes

/-- A guest changes its state. -/
theorem Hosts.setState (h : Hosts k id name volumes e) (state : String) :
    Hosts k id name volumes (setState id state e).2 := by
  obtain ⟨c, hname, hbody, hcontainers⟩ := h.containers
  have hlookup : e.containers.lookup id = some c := by
    rw [hcontainers, lookup_append_self h.isNew]
  unfold Engine.setState withContainer
  rw [hlookup]
  refine ⟨h.isNew, h.fresh, ⟨{ c with state := state }, hname, hbody, ?_⟩, h.volumes⟩
  show putKey id _ e.containers = _
  rw [hcontainers, putKey_append h.isNew]

/-- The call is about the state of one container. -/
def Call.Minds (id : String) : {β : Type} → Call β → Prop
  | _, .start i | _, .stop i _ | _, .restart i _ | _, .inspect i => i = id
  | _, _ => False

/-- A guest stays through a call that keeps it, whether the call is received or not. -/
theorem hosts_received {op detail : String} {act : Engine → Except Failure β × Engine}
    (hact : ∀ e, Hosts k id name volumes e → Hosts k id name volumes (act e).2)
    (h : Hosts k id name volumes e) : Hosts k id name volumes (e.received op detail act).2 := by
  rcases received_cases op detail e act with ⟨_, hsame⟩ | ⟨e', hsame, hdone⟩
  · exact h.of_holdings hsame
  · rw [hdone]
    exact hact e' (h.of_holdings hsame)

/-- **A guest stays through every call that minds its state**, whatever the call comes to. -/
theorem Hosts.answer (h : Hosts k id name volumes e) {c : Call β} (hc : c.Minds id) :
    Hosts k id name volumes (e.answer c).2 := by
  cases c with
  | start i =>
    obtain rfl : i = id := hc
    exact hosts_received (fun _ h => h.setState _) h
  | stop i grace =>
    obtain rfl : i = id := hc
    exact hosts_received (fun _ h => h.setState _) h
  | restart i grace =>
    obtain rfl : i = id := hc
    exact hosts_received (fun _ h => h.setState _) h
  | inspect i =>
    refine hosts_received (fun e h => ?_) h
    unfold withContainer
    split <;> exact h
  | _ => exact hc.elim

/-! ## Taking a guest in -/

/-- A container is made under the next identifier, or the engine holds what it held. -/
theorem createContainer_cases (name : String) (body : ContainerBody) (e : Engine) :
    ((∃ f, (e.answer (.createContainer name body)).1 = .error f) ∧
      (e.answer (.createContainer name body)).2.holdings = e.holdings) ∨
    (e.answer (.createContainer name body)).1 = .ok e.stock.nextId ∧
      (e.answer (.createContainer name body)).2.holdings =
        ⟨putKey e.stock.nextId ⟨name, body, "created"⟩ e.containers, e.volumes, e.given + 1⟩ := by
  change ((∃ f, (e.received "create_container" name (make name body)).1 = .error f) ∧
      (e.received "create_container" name (make name body)).2.holdings = _) ∨
    (e.received "create_container" name (make name body)).1 = _ ∧
      (e.received "create_container" name (make name body)).2.holdings = _
  rcases received_cases "create_container" name e (make name body) with hfails | ⟨e', hsame, hdone⟩
  · exact .inl hfails
  · rw [hdone]
    obtain ⟨hcontainers, hvolumes, hgiven⟩ := Holdings.mk.inj hsame
    unfold make
    split
    · exact .inl ⟨⟨_, rfl⟩, hsame⟩
    · refine .inr ⟨congrArg (fun n => Except.ok ("c" ++ toString (n + 1))) hgiven, ?_⟩
      rw [← hcontainers, ← hvolumes, ← hgiven]
      exact congrArg (fun n => Holdings.mk (putKey ("c" ++ toString (n + 1)) _ e'.containers) e'.volumes
        (e'.given + 1)) hgiven

namespace Unit

/-- **What is said to have a container made**, the last answer, and the body that was asked for with it: once
more without the limit of the file system where there is one and the engine refuses. -/
inductive Creation (p : Plan) : List Exchange → Except Failure String → ContainerBody → Prop
  | once {r : Except Failure String} (final : r.isOk = true ∨ p.body.host.storage = none) :
      Creation p [⟨.createContainer p.name p.body, r⟩] r p.body
  | twice {f : Failure} {r : Except Failure String} (limited : p.body.host.storage.isSome = true) :
      Creation p [⟨.createContainer p.name p.body, .error f⟩,
        ⟨.createContainer p.name p.body.withoutStorageLimit, r⟩] r p.body.withoutStorageLimit

/-- The limit of the file system is no matter of the volumes. -/
theorem Creation.volumes_eq {p : Plan} {xs : List Exchange} {r : Except Failure String} {body : ContainerBody}
    (h : Creation p xs r body) : body.volumes = p.body.volumes := by
  cases h with
  | once _ => rfl
  | twice _ => rfl

/-- **A container is made under the next identifier**, or the engine holds what it held. -/
theorem creation_create (p : Plan) (e : Engine) :
    ∃ body, Creation p (e.exchanges (create p)) (e.run (create p)).1 body ∧
      (((∃ f, (e.run (create p)).1 = .error f) ∧ (e.run (create p)).2.holdings = e.holdings) ∨
      (e.run (create p)).1 = .ok e.stock.nextId ∧ (e.run (create p)).2.holdings =
        ⟨putKey e.stock.nextId ⟨p.name, body, "created"⟩ e.containers, e.volumes, e.given + 1⟩) := by
  unfold create
  rw [exchanges_bind, exchanges_call, run_bind, run_call]
  rcases createContainer_cases p.name p.body e with ⟨⟨f, hf⟩, hsame⟩ | ⟨hok, hmade⟩
  · rw [hf]
    obtain ⟨hcontainers, hvolumes, hgiven⟩ := Holdings.mk.inj hsame
    dsimp only
    split
    · rename_i limited
      have hnext : e.stock.nextId = (e.answer (.createContainer p.name p.body)).2.stock.nextId :=
        congrArg (fun n => "c" ++ toString (n + 1)) hgiven.symm
      rw [exchanges_call, run_call, hnext, ← hsame, ← hcontainers, ← hvolumes, ← hgiven]
      exact ⟨_, .twice limited, createContainer_cases p.name p.body.withoutStorageLimit _⟩
    · rename_i hnone
      exact ⟨_, .once (.inr (Option.not_isSome_iff_eq_none.mp hnone)), .inl ⟨⟨f, rfl⟩, hsame⟩⟩
  · rw [hok]
    exact ⟨_, .once (.inl rfl), .inr ⟨rfl, hmade⟩⟩

end Unit

/-- The same, at the first attempt or the second. -/
theorem create_ok {p : Plan} (h : (e.run (Unit.create p)).1 = .ok id) : id = e.stock.nextId ∧
    ∃ body, body.volumes = p.body.volumes ∧ (e.run (Unit.create p)).2.holdings =
      ⟨putKey id ⟨p.name, body, "created"⟩ e.containers, e.volumes, e.given + 1⟩ := by
  obtain ⟨body, creation, ⟨⟨f, hf⟩, _⟩ | ⟨hok, hmade⟩⟩ := Unit.creation_create p e
  · cases hf.symm.trans h
  · obtain rfl := Except.ok.inj (hok.symm.trans h)
    exact ⟨rfl, body, creation.volumes_eq, hmade⟩

/-- The volume of a plan is made, or the engine holds what it held. -/
theorem createVolumes_cases (volume : Option VolumeBody) (e : Engine) :
    (e.run (Dialog.each (volume.toList.map .createVolume))).2.holdings = e.holdings ∨
    ∃ b ∈ volume, (e.run (Dialog.each (volume.toList.map .createVolume))).2.holdings =
      ⟨e.containers, putName b.name e.volumes, e.given⟩ := by
  cases volume with
  | none => exact .inl rfl
  | some b =>
    rcases received_cases "create_volume" b.name e fun e => (.ok (), e.holdVolume b.name) with
      ⟨_, hsame⟩ | ⟨e', hsame, hdone⟩
    · exact .inl hsame
    · refine .inr ⟨b, rfl, ?_⟩
      obtain ⟨hcontainers, hvolumes, hgiven⟩ := Holdings.mk.inj hsame
      show (e.received "create_volume" b.name fun e => (.ok (), e.holdVolume b.name)).2.holdings = _
      rw [hdone, ← hcontainers, ← hvolumes, ← hgiven]
      rfl

/-- A container that was just made starts, and is a guest. -/
theorem hosts_launch (h : Hosts k id name volumes e) {id' : String}
    (hok : (e.run (Unit.launch id)).1 = .ok id') :
    id' = id ∧ Hosts k id name volumes (e.run (Unit.launch id)).2 := by
  have hstart := h.answer (c := .start id) rfl
  unfold Unit.launch at hok ⊢
  rw [run_bind, run_call] at hok ⊢
  cases hanswer : (e.answer (.start id)).1 with
  | ok u =>
    rw [hanswer] at hok
    exact ⟨(Except.ok.inj hok).symm, hstart⟩
  | error f =>
    rw [hanswer] at hok
    cases hok

/-- **Making a unit takes a guest in.** -/
theorem hosts_provision {p : Plan} (hnew : e.containers.lookup e.stock.nextId = none)
    (hfresh : volumeName p.name ∉ e.volumes)
    (hplan : ∀ b ∈ p.volume, b.name = volumeName p.name ∧ p.body.volumes = [volumeName p.name])
    (hok : (e.run (Unit.provision p)).1 = .ok id) :
    Hosts e.holdings id p.name p.body.volumes (e.run (Unit.provision p)).2 := by
  have hvolumes := createVolumes_cases p.volume e
  unfold Unit.provision at hok ⊢
  rw [run_bind] at hok ⊢
  generalize (e.run (Dialog.each (p.volume.toList.map .createVolume))).2 = e₁ at hvolumes hok ⊢
  have hheld : e₁.containers = e.containers ∧ e₁.given = e.given ∧ (e₁.volumes = e.volumes ∨
      p.body.volumes = [volumeName p.name] ∧ e₁.volumes = putName (volumeName p.name) e.volumes) := by
    rcases hvolumes with hsame | ⟨b, hb, hmade⟩
    · obtain ⟨hcontainers, hkept, hgiven⟩ := Holdings.mk.inj hsame
      exact ⟨hcontainers, hgiven, .inl hkept⟩
    · obtain ⟨hcontainers, hput, hgiven⟩ := Holdings.mk.inj hmade
      obtain ⟨hname, hbody⟩ := hplan b hb
      exact ⟨hcontainers, hgiven, .inr ⟨hbody, hname ▸ hput⟩⟩
  obtain ⟨hcontainers, hgiven, hkept⟩ := hheld
  rw [run_bind] at hok ⊢
  cases hcreate : (e₁.run (Unit.create p)).1 with
  | error f =>
    rw [hcreate] at hok
    cases hok
  | ok id' =>
    obtain ⟨rfl, body, hbody, hmade⟩ := create_ok hcreate
    rw [hcreate] at hok
    dsimp only at hok ⊢
    obtain ⟨hmade, hsame, _⟩ := Holdings.mk.inj hmade
    have hnext : e₁.stock.nextId = e.stock.nextId := congrArg (fun n => "c" ++ toString (n + 1)) hgiven
    have hguest : Hosts e.holdings e₁.stock.nextId p.name p.body.volumes (e₁.run (Unit.create p)).2 := by
      refine ⟨hnext ▸ hnew, hfresh, ⟨⟨p.name, body, "created"⟩, rfl, hbody, ?_⟩, ?_⟩
      · rw [hmade, hcontainers, putKey_of_lookup (hnext ▸ hnew)]
        rfl
      · rw [hsame]
        exact hkept
    obtain ⟨rfl, hrest⟩ := hosts_launch hguest hok
    exact hrest

/-! ## Taking a guest out -/

/-- A container that is removed leaves the others in place. -/
theorem Hosts.remove (h : Hosts k id name volumes e) (hheeds : e.Heeds "remove") (force withVolumes : Bool) :
    (e.answer (.remove id force withVolumes)).2.containers = k.containers ∧
      (e.answer (.remove id force withVolumes)).2.volumes = e.volumes := by
  have hsame := holdings_receive "remove" (id ++ " force=" ++ flag force ++ " v=" ++ flag withVolumes) e
  change (e.received "remove" _ _).2.containers = _ ∧ (e.received "remove" _ _).2.volumes = _
  rw [received_of_receive (hheeds.receive _)]
  generalize (e.receive "remove" _).2 = e' at hsame ⊢
  obtain ⟨c, _, _, hcontainers⟩ := (h.of_holdings hsame).containers
  have hlookup : e'.containers.lookup id = some c := by
    rw [hcontainers, lookup_append_self h.isNew]
  unfold withContainer
  rw [hlookup]
  refine ⟨?_, congrArg Holdings.volumes hsame⟩
  show e'.containers.filter _ = _
  rw [hcontainers]
  exact filter_append_self h.isNew

/-- A volume that is removed is gone, and nothing else is. -/
theorem Heeds.removeVolume (h : e.Heeds "remove_volume") (name : String) :
    (e.answer (.removeVolume name)).2.containers = e.containers ∧
      (e.answer (.removeVolume name)).2.volumes = e.volumes.erase name := by
  have hsame := holdings_receive "remove_volume" name e
  change (e.received "remove_volume" name _).2.containers = _ ∧
    (e.received "remove_volume" name _).2.volumes = _
  rw [received_of_receive (h.receive _)]
  generalize (e.receive "remove_volume" name).2 = e' at hsame
  obtain ⟨hcontainers, hvolumes, _⟩ := Holdings.mk.inj hsame
  rw [← hcontainers, ← hvolumes]
  split
  · exact ⟨rfl, rfl⟩
  · rename_i hnot
    exact ⟨rfl, (List.erase_of_not_mem (by simpa using hnot)).symm⟩

/-- Volumes that are removed are gone, one after another, and the containers stay; the induction is on them. -/
theorem Heeds.removeVolumes : ∀ (names : List String) {e : Engine}, e.Heeds "remove_volume" →
    (e.run (Dialog.each (names.map .removeVolume))).2.containers = e.containers ∧
      (e.run (Dialog.each (names.map .removeVolume))).2.volumes = names.foldl List.erase e.volumes
  | [], _, _ => ⟨rfl, rfl⟩
  | name :: rest, e, h => by
    obtain ⟨hcontainers, hvolumes⟩ := h.removeVolume name
    have hrest := removeVolumes rest (h.of_tempered (tempered_answer (.removeVolume name) e))
    rw [hcontainers, hvolumes] at hrest
    exact hrest

/-- The volumes to remove with a guest are those of its container, or the one that its name stands for. -/
theorem Hosts.volumesOf (h : Hosts k id name volumes e) (hname : name ≠ "") :
    Unit.volumesOf (some name) (e.answer (.inspect id)).1 = volumes ∨
      Unit.volumesOf (some name) (e.answer (.inspect id)).1 = [volumeName name] := by
  rcases inspect_cases id e with ⟨c, hlookup, hok⟩ | ⟨f, hf⟩
  · obtain ⟨guest, _, hbody, hcontainers⟩ := h.containers
    rw [hcontainers, lookup_append_self h.isNew] at hlookup
    obtain rfl := Option.some.inj hlookup
    rw [hok]
    exact .inl ((namedVolumes_report id guest).trans hbody)
  · rw [hf]
    simp [Unit.volumesOf, hname]

/-- **Taking a unit down leaves the containers and the volumes as they were before the unit**, whatever the
inspection and the stop come to. -/
theorem Hosts.teardown (h : Hosts k id name volumes e) (hvolumes : volumes = [] ∨ volumes = [volumeName name])
    (hname : name ≠ "") (hremove : e.Heeds "remove") (hremoveVolume : e.Heeds "remove_volume")
    (c : EngineSettings) : (e.run (Unit.teardown c id (some name))).2.containers = k.containers ∧
      (e.run (Unit.teardown c id (some name))).2.volumes = k.volumes := by
  have hreported := h.volumesOf hname
  have hinspect := h.answer (c := .inspect id) rfl
  have htempered := tempered_answer (.inspect id) e
  unfold Unit.teardown
  rw [run_bind, run_call]
  generalize (e.answer (.inspect id)).2 = e₁ at hinspect htempered ⊢
  generalize Unit.volumesOf (some name) (e.answer (.inspect id)).1 = removed at hreported ⊢
  have hstop := hinspect.answer (c := .stop id c.teardownGrace) rfl
  have htempered := htempered.trans (tempered_answer (.stop id c.teardownGrace) e₁)
  obtain ⟨hcontainers, hkept⟩ := hstop.remove (hremove.of_tempered htempered) true true
  have htempered := htempered.trans (tempered_answer (.remove id true true) _)
  have hrest := Heeds.removeVolumes removed (hremoveVolume.of_tempered htempered)
  rw [hcontainers, hkept] at hrest
  refine ⟨hrest.1, hrest.2.trans ?_⟩
  -- what is removed is the guest's volume, or was not there
  rcases hstop.volumes with hsame | ⟨hmounted, hput⟩
  · rw [hsame]
    have herase : k.volumes.erase (volumeName name) = k.volumes := List.erase_of_not_mem h.fresh
    rcases hreported with rfl | rfl
    · rcases hvolumes with rfl | rfl
      · rfl
      · exact herase
    · exact herase
  · have hremoved : removed = [volumeName name] :=
      hreported.elim (fun heq => heq.trans hmounted) fun heq => heq
    rw [hremoved, hput]
    exact erase_putName h.fresh

end FleetControl.Engine
