import FleetControl.Proofs.Engine.Log
import FleetControl.Proofs.Engine.Unit

/-!
# What is said in a dialog

A dialog with an engine is a course of exchanges: a call, and what the engine answers to it. Which calls
follow depends on the answers, so the exchanges are those of one engine (`exchanges`). Dialogs in a row have
their exchanges in a row (`exchanges_bind`), and what the engine writes down are the calls of the exchanges
(`calls_run`).
-/

namespace FleetControl.Engine

/-- **A call and its answer.** -/
structure Exchange where
  {β : Type}
  call : Call β
  answer : Except Failure β

variable {α β : Type}

/-- **What is said when a dialog runs on an engine**, in its order. -/
def exchanges : Dialog α → Engine → List Exchange
  | .done _, _ => []
  | .ask c next, e => ⟨c, (e.answer c).1⟩ :: exchanges (next (e.answer c).1) (e.answer c).2

namespace Exchange

/-- The call, whatever was answered. -/
def asked (x : Exchange) : (β : Type) × Call β := ⟨x.β, x.call⟩

/-- The call, where it asks for a container: for which, and what was answered. -/
def creation? : Exchange → Option ((String × ContainerBody) × Except Failure String)
  | ⟨.createContainer name body, r⟩ => some ((name, body), r)
  | _ => none

/-- The call, where it removes a container: what was answered. -/
def removal? : Exchange → Option (Except Failure Unit)
  | ⟨.remove _ _ _, r⟩ => some r
  | _ => none

end Exchange

/-- A dialog that makes no call has no exchanges, with whichever engine. -/
theorem exchanges_pure (a : α) (e : Engine) : e.exchanges (pure a) = [] := rfl

/-- A single call is one exchange: the call, and what this engine answers. -/
theorem exchanges_call (c : Call β) (e : Engine) :
    e.exchanges (Dialog.call c) = [⟨c, (e.answer c).1⟩] := rfl

/-- **Dialogs in a row have their exchanges in a row**, those of the second with the engine as the first has left
it. -/
theorem exchanges_bind (d : Dialog β) (f : β → Dialog α) (e : Engine) :
    e.exchanges (d >>= f) = e.exchanges d ++ (e.run d).2.exchanges (f (e.run d).1) := by
  induction d generalizing e with
  | done b => rfl
  | ask c next ih => exact congrArg _ (ih (e.answer c).1 (e.answer c).2)

/-- Calls of which no failure matters are all made, in their order and whatever is answered. -/
theorem asked_each : ∀ (calls : List (Call Unit)) (e : Engine),
    (e.exchanges (Dialog.each calls)).map Exchange.asked = calls.map (Sigma.mk Unit)
  | [], _ => rfl
  | c :: rest, e => congrArg _ (asked_each rest (e.answer c).2)

/-- **An engine writes down the calls of a dialog**, and nothing else: its log is the calls of the exchanges. -/
theorem calls_run : ∀ (d : Dialog α) (e : Engine),
    (e.run d).2.calls = e.calls ++ (e.exchanges d).map fun x => x.call.line
  | .done _, _ => (List.append_nil _).symm
  | .ask c next, e => by
    have hrest := calls_run (next (e.answer c).1) (e.answer c).2
    rw [calls_answer, List.append_assoc] at hrest
    exact hrest

/-- Calls of which no failure matters are all written down, those that fail too. -/
theorem calls_each (calls : List (Call Unit)) (e : Engine) :
    (e.run (Dialog.each calls)).2.calls = e.calls ++ calls.map Call.line := by
  have hasked := congrArg (List.map fun a : (β : Type) × Call β => a.2.line) (asked_each calls e)
  rw [List.map_map, List.map_map] at hasked
  rw [calls_run]
  exact congrArg (e.calls ++ ·) hasked

end FleetControl.Engine
