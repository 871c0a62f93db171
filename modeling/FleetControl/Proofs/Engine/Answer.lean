import FleetControl.Engine.Basic
import FleetControl.Engine.Unit

/-!
# What engines answer

An engine may be in any state when a call reaches it. `Dialog.Comes d a` says that a dialog can come to
`a` in this way, each call being answered by some engine; what holds of every such answer holds whatever
the engine went through before and meanwhile.

A call fails for a reason of the engine's own (`answer_error`): it is out of reach, or it refuses with a
status. A unit that is made has an identifier that is not empty (`provision_ok`).
-/

namespace FleetControl

/-- **A failure of the engine's own**: it is out of reach, or refuses. -/
def Failure.isEngines : Failure → Bool
  | connection _ | engine _ _ => true
  | _ => false

namespace Engine

variable {α β : Type} {e : Engine} {f : Failure} {a : α}

/-- A call that is not received fails because the engine is out of reach or set to refuse it. -/
theorem receive_error {op detail : String} (h : (e.receive op detail).1 = .error f) :
    f.isEngines = true := by
  unfold receive at h
  dsimp only at h
  split at h
  · cases h
    rfl
  · split at h
    · cases h
      rfl
    · split at h
      · cases h
        rfl
      · cases h

/-- A call fails for a reason of the engine's own if what it does once it is received fails only so. -/
theorem received_error {op detail : String} {act : Engine → Except Failure β × Engine}
    (hact : ∀ e, (act e).1 = .error f → f.isEngines = true)
    (h : (e.received op detail act).1 = .error f) : f.isEngines = true := by
  unfold received at h
  split at h
  · rename_i g e' hreceive
    cases h
    exact receive_error (congrArg Prod.fst hreceive)
  · exact hact _ h

/-- A call on a container that is not there is refused with a status, which is the engine's own reason. -/
theorem withContainer_error {id : String} {act : Container → Engine → Except Failure β × Engine}
    (hact : ∀ c e, (act c e).1 = .error f → f.isEngines = true)
    (h : (e.withContainer id act).1 = .error f) : f.isEngines = true := by
  unfold withContainer at h
  split at h
  · cases h
    rfl
  · exact hact _ _ h

/-- **A call fails for a reason of the engine's own**, one case for each call: it is not received, or what it is
about is not there. -/
theorem answer_error {c : Call β} (h : (e.answer c).1 = .error f) : f.isEngines = true := by
  cases c with
  | ping => exact receive_error h
  | createVolume volume => exact received_error (fun _ h => by cases h) h
  | removeVolume name =>
    refine received_error (fun e h => ?_) h
    split at h
    · cases h
    · cases h
      rfl
  | createContainer name body =>
    refine received_error (fun e h => ?_) h
    unfold make at h
    split at h
    · cases h
      rfl
    · cases h
  | start id | stop id grace | restart id grace | remove id force volumes | inspect id | logs id tail
  | prepareShell id command =>
    exact received_error (fun _ => withContainer_error fun _ _ h => by cases h) h
  | stats id most window => exact received_error (fun _ h => by cases h) h
  | output id command =>
    refine received_error (fun e h => ?_) h
    split at h
    · cases h
    · cases h
      rfl
  | attach shell => exact receive_error h
  | resize shell rows cols => exact receive_error h

/-- **A container that is made has an identifier.** -/
theorem createContainer_ok {name id : String} {body : ContainerBody}
    (h : (e.answer (.createContainer name body)).1 = .ok id) : id ≠ "" := by
  change (e.received "create_container" name (make name body)).1 = .ok id at h
  unfold received at h
  split at h
  · cases h
  · unfold make at h
    split at h
    · cases h
    · cases h
      simp [String.append_eq_empty_iff]

/-! ## What a dialog can come to -/

/-- **What a dialog can come to**, each call being answered by an engine in some state. -/
inductive Dialog.Comes : Dialog α → α → Prop
  | done (a : α) : Comes (.done a) a
  | ask {β : Type} {c : Call β} {next : Except Failure β → Dialog α} {a : α} (e : Engine)
      (rest : Comes (next (e.answer c).1) a) : Comes (.ask c next) a

namespace Dialog

/-- A dialog that makes no call comes to its value only. -/
@[simp] theorem comes_pure {b : α} : Comes (pure b) a ↔ a = b := by
  constructor
  · rintro ⟨⟩
    rfl
  · rintro rfl
    exact .done a

/-- A dialog of one call comes to what some engine answers to it. -/
@[simp] theorem comes_call {c : Call β} {r : Except Failure β} :
    Comes (call c) r ↔ ∃ e : Engine, r = (e.answer c).1 := by
  constructor
  · rintro (_ | ⟨e, ⟨⟩⟩)
    exact ⟨e, rfl⟩
  · rintro ⟨e, rfl⟩
    exact .ask e (.done _)

/-- **What two dialogs in a row can come to**: the engine may be any other when the second begins, so the second
starts from all that the first can come to. -/
@[simp] theorem comes_bind {d : Dialog β} {f : β → Dialog α} :
    Comes (d >>= f) a ↔ ∃ b, Comes d b ∧ Comes (f b) a := by
  constructor
  · intro h
    induction d with
    | done b => exact ⟨b, .done b, h⟩
    | ask c next ih =>
      obtain _ | ⟨e, rest⟩ := h
      obtain ⟨b, hb, hrest⟩ := ih _ rest
      exact ⟨b, .ask e hb, hrest⟩
  · rintro ⟨b, hb, hrest⟩
    induction hb with
    | done b => exact hrest
    | ask e _ ih => exact .ask e (ih hrest)

end Dialog

namespace Unit

open Dialog (Comes)

/-- A container that a dialog has made has an identifier that is not empty, at the first attempt or the second. -/
theorem create_ok {p : Plan} {id : String} (h : Comes (create p) (.ok id)) : id ≠ "" := by
  obtain ⟨r, hcall, h⟩ := Dialog.comes_bind.mp h
  obtain ⟨e, rfl⟩ := Dialog.comes_call.mp hcall
  split at h
  · rename_i id' hmade
    cases Dialog.comes_pure.mp h
    exact createContainer_ok hmade
  · split at h
    · obtain ⟨e', hagain⟩ := Dialog.comes_call.mp h
      exact createContainer_ok hagain.symm
    · cases Dialog.comes_pure.mp h

/-- A unit that starts keeps its identifier. -/
theorem launch_ok {id id' : String} (h : Comes (launch id) (.ok id')) : id' = id := by
  obtain ⟨r, _, h⟩ := Dialog.comes_bind.mp h
  split at h
  · exact Except.ok.inj (Dialog.comes_pure.mp h)
  · obtain ⟨_, _, h⟩ := Dialog.comes_bind.mp h
    cases Dialog.comes_pure.mp h

/-- **A unit that is made has an identifier**, which is what a workload's record tells a unit by. -/
theorem provision_ok {p : Plan} {id : String} (h : Comes (provision p) (.ok id)) : id ≠ "" := by
  obtain ⟨_, _, h⟩ := Dialog.comes_bind.mp h
  obtain ⟨r, hcreate, h⟩ := Dialog.comes_bind.mp h
  split at h
  · cases Dialog.comes_pure.mp h
  · rename_i id' hmade
    rw [launch_ok h]
    exact create_ok hcreate

end Unit

end Engine

end FleetControl
