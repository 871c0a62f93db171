import FleetControl.Proofs.Fleet.Upkeep

/-!
# Inquiries

What a single call to the engine of a node comes to depends on the engines alone: `Engines.reply` is the
answer, failures included, and `Engines.after` is what the engines are then. Where items are asked for one
after another, `Engines.Tell` says what all the answers are.
-/

namespace FleetControl

/-- **Engines**, by address. -/
abbrev Engines := String → Engine

namespace Engines

variable {α β : Type}

/-- **What comes of a call to the engine of a node**, which must have an address. -/
def reply (es : Engines) (n : Node) (c : Engine.Call β) : Except Failure β :=
  if n.engineAddress = "" then .error (.incomplete "engine address is empty")
  else ((es n.engineAddress).answer c).1

/-- The engines after a call to the engine of a node. -/
def after (es : Engines) (n : Node) (c : Engine.Call β) : Engines :=
  if n.engineAddress = "" then es
  else Function.update es n.engineAddress ((es n.engineAddress).answer c).2

/-- The engines after asking for an item, where there is something to ask. -/
def asked (ask : α → Option (Node × Engine.Call β)) (es : Engines) (a : α) : Engines :=
  match ask a with
  | none => es
  | some (n, c) => es.after n c

/-- **What is told when one asks for each item in turn**, each answer coming from the engines as the
earlier calls left them. -/
def Tell (ask : α → Option (Node × Engine.Call β)) (told : α → Except Failure β → Prop) :
    Engines → List α → Prop
  | _, [] => True
  | es, a :: rest =>
    (∀ n c, ask a = some (n, c) → told a (es.reply n c)) ∧ Tell ask told (es.asked ask a) rest

section Tell

variable {ask : α → Option (Node × Engine.Call β)} {told told' : α → Except Failure β → Prop}
  {es : Engines} {a : α} {rest : List α} {n : Node} {c : Engine.Call β}

/-- An item of which there is nothing to ask, and which leaves the engines for the rest as they are. -/
theorem tell_cons_of_none (ha : ask a = none) (hrest : Tell ask told es rest) :
    Tell ask told es (a :: rest) := by
  refine ⟨fun n c h => (nomatch ha.symm.trans h), ?_⟩
  rw [asked, ha]
  exact hrest

/-- An item that is told of, the rest being asked for when its engine has answered. -/
theorem tell_cons_of_some (ha : ask a = some (n, c)) (htold : told a (es.reply n c))
    (hrest : Tell ask told (es.after n c) rest) : Tell ask told es (a :: rest) := by
  refine ⟨fun n' c' h => ?_, ?_⟩
  · obtain ⟨rfl, rfl⟩ := Prod.mk.inj (Option.some.inj (ha.symm.trans h))
    exact htold
  · rw [asked, ha]
    exact hrest

/-- Each item is told of at some time, by engines as the earlier calls have left them. -/
theorem Tell.exists (ha : ask a = some (n, c)) : ∀ {es : Engines} {items : List α},
    Tell ask told es items → a ∈ items → ∃ es' : Engines, told a (es'.reply n c)
  | _, [], _, h => absurd h List.not_mem_nil
  | es, b :: rest, ⟨hb, hrest⟩, h => by
    rcases List.mem_cons.mp h with rfl | h
    · exact ⟨es, hb n c ha⟩
    · exact Tell.exists ha hrest h

/-- What is told may be put in other words, item by item. -/
theorem Tell.imp : ∀ {es : Engines} {items : List α}, Tell ask told es items →
    (∀ a ∈ items, ∀ r, told a r → told' a r) → Tell ask told' es items
  | _, [], _, _ => trivial
  | _, a :: _, ⟨ha, hrest⟩, h =>
    ⟨fun n c hask => h a List.mem_cons_self _ (ha n c hask),
      hrest.imp fun b hb => h b (List.mem_cons_of_mem a hb)⟩

/-- **Engines always tell something** of items that can be told apart. The word on an item is what comes of asking
for it after all the earlier ones, so items with one key would have two words. -/
theorem exists_tell {κ γ : Type} [DecidableEq κ] [Inhabited γ]
    (ask : α → Option (Node × Engine.Call β)) (key : α → κ) (value : Except Failure β → γ) :
    ∀ (es : Engines) {items : List α}, (items.map key).Nodup →
      ∃ word : κ → γ, Tell ask (fun a r => word (key a) = value r) es items
  | _, [], _ => ⟨fun _ => default, trivial⟩
  | es, a :: rest, h => by
    obtain ⟨hnot, hnodup⟩ := List.nodup_cons.mp h
    obtain ⟨word, hrest⟩ := exists_tell ask key value (es.asked ask a) hnodup
    have hne : ∀ b ∈ rest, key b ≠ key a := fun b hb heq => hnot (heq ▸ List.mem_map_of_mem hb)
    cases ha : ask a with
    | none =>
      rw [asked, ha] at hrest
      exact ⟨word, tell_cons_of_none ha hrest⟩
    | some x =>
      obtain ⟨n, c⟩ := x
      rw [asked, ha] at hrest
      refine ⟨Function.update word (key a) (value (es.reply n c)), tell_cons_of_some ha ?_ ?_⟩
      · exact Function.update_self _ _ _
      · exact hrest.imp fun b hb r hr => by rwa [Function.update_of_ne (hne b hb)]

end Tell

end Engines

namespace Job

variable {α β : Type} {fl : Fleet} {n : Node}

/-- A call runs against the engine at its address alone. -/
theorem run_call (address : String) (c : Engine.Call β) (fl : Fleet) :
    (call address c).run.run fl = (((fl.engineAt address).answer c).1.mapError .failed,
      fl.setEngine address ((fl.engineAt address).answer c).2) :=
  run_tryAct _ fl

/-- **A call to the engine of a node**, which is not silent, changes the engines alone. -/
theorem run_onNode (heard : n.engineAddress ∉ fl.silent) (c : Engine.Call β) :
    ∃ engines, (onNode n c).run.run fl =
        ((Engines.reply fl.engineAt n c).mapError .failed, { fl with engines }) ∧
      Fleet.engineAt { fl with engines } = Engines.after fl.engineAt n c := by
  unfold onNode Engines.reply Engines.after
  by_cases hn : n.engineAddress = ""
  · refine ⟨fl.engines, ?_, (if_pos hn).symm⟩
    rw [run_bind_of_error (run_openEngine_empty hn), if_pos hn]
    rfl
  · refine ⟨(fl.setEngine n.engineAddress ((fl.engineAt n.engineAddress).answer c).2).engines, ?_, ?_⟩
    · rw [run_bind_of_ok (run_openEngine heard hn), run_call, if_neg hn]
      rfl
    · rw [if_neg hn]
      exact (fl.became_setEngine n.engineAddress _).engineAt

/-- What was found out is heard as it was found out, failures included. -/
theorem heard_mapError (r : Except Failure α) : heard (r.mapError .failed) = .ok r := by
  cases r <;> rfl

/-- What is heard as a value was a value. -/
theorem ok_of_heard : ∀ {r : Except Halt α} {a : α}, heard r = .ok (.ok a) → r = .ok a
  | .ok _, _, rfl => rfl

/-- The state of a unit is a part of what its inspection reports. -/
theorem unitState_eq (n : Node) (unit : String) :
    unitState n unit = (·.state) <$> onNode n (.inspect unit) := by
  unfold unitState onNode
  rw [map_eq_pure_bind, bind_assoc]
  refine congrArg (openEngine n >>= ·) (funext fun address => ?_)
  refine congrArg (fun next => ExceptT.mk (Routine.step (Fleet.call address (.inspect unit)) next)) ?_
  funext r
  cases r <;> rfl

/-- **What the engine of a node answers about the state of a unit**, failures included. -/
theorem run_attempt_unitState (hheard : n.engineAddress ∉ fl.silent) (unit : String) :
    ∃ engines, (attempt (unitState n unit)).run.run fl =
        (.ok ((Engines.reply fl.engineAt n (.inspect unit)).map (·.state)), { fl with engines }) ∧
      Fleet.engineAt { fl with engines } = Engines.after fl.engineAt n (.inspect unit) := by
  obtain ⟨engines, hrun, hengines⟩ := run_onNode hheard (.inspect unit)
  refine ⟨engines, ?_, hengines⟩
  rw [run_attempt, unitState_eq, map_eq_pure_bind, run_bind, hrun]
  cases Engines.reply fl.engineAt n (.inspect unit) <;> rfl

/-- **What a probe of the engine of a node finds**: whether it answers. -/
theorem run_testEngine (hheard : n.engineAddress ∉ fl.silent) :
    ∃ engines text, (testEngine n).run.run fl =
        (.ok ((Engines.reply fl.engineAt n .ping).isOk, text), { fl with engines }) ∧
      Fleet.engineAt { fl with engines } = Engines.after fl.engineAt n .ping := by
  obtain ⟨engines, hrun, hengines⟩ := run_onNode hheard (.ping : Engine.Call Unit)
  have hattempt : (attempt (onNode n .ping)).run.run fl = _ := run_attempt_of hrun
  rw [heard_mapError] at hattempt
  have htest : (testEngine n).run.run fl = _ := run_bind_of_ok hattempt
  cases hreply : Engines.reply fl.engineAt n .ping with
  | ok u =>
    rw [hreply] at htest
    exact ⟨engines, "connected", htest, hengines⟩
  | error e =>
    rw [hreply] at htest
    exact ⟨engines, e.message, htest, hengines⟩

end Job

end FleetControl
