/-!
# Routines

A routine is a course of steps on a shared state. Each step happens at once; between two steps other
routines may run. At a pause the routine waits, and others that are ready do run. `run` takes a
routine to its end with nothing in between; `interleave` mixes the steps of two by a schedule.
-/

namespace FleetControl

/-- What a routine waits for at a pause. -/
inductive Wait where
  /-- For a while, so as not to press. -/
  | pace
  /-- For an answer that does not come in so many seconds. -/
  | answer (seconds : UInt64)
deriving Repr, DecidableEq, Inhabited

namespace Wait

/-- The wait is there to keep a pace. -/
def isPace : Wait → Bool
  | pace => true
  | answer _ => false

/-- The wait takes seconds. -/
def isLong : Wait → Bool
  | pace => false
  | answer seconds => 0 < seconds

end Wait

/-- **A course of steps on a state**, with what it comes to. -/
inductive Routine (σ α : Type) : Type 1
  | done (a : α)
  | step {β : Type} (act : σ → β × σ) (next : β → Routine σ α)
  | pause (wait : Wait) (next : Routine σ α)

namespace Routine

variable {σ α β : Type}

/-- Go on with another routine. -/
def bind : Routine σ α → (α → Routine σ β) → Routine σ β
  | done a, f => f a
  | step act next, f => step act fun b => (next b).bind f
  | pause w next, f => pause w (next.bind f)

instance : Monad (Routine σ) where
  pure := done
  bind := bind

/-- One step. -/
def act (f : σ → α × σ) : Routine σ α := step f done

/-- A step that only looks. -/
def look (f : σ → α) : Routine σ α := act fun s => (f s, s)

/-- Wait. -/
def wait (w : Wait) : Routine σ Unit := pause w (done ())

/-- **Run a routine to its end**, nothing else happening in between. -/
def run : Routine σ α → σ → α × σ
  | done a, s => (a, s)
  | step act next, s => run (next (act s).1) (act s).2
  | pause _ next, s => run next s

/-- **Run a routine to its end or to the first pause of a kind**: what is left of it. -/
def runUntil (stops : Wait → Bool) : Routine σ α → σ → Routine σ α × σ
  | done a, s => (done a, s)
  | step act next, s => runUntil stops (next (act s).1) (act s).2
  | pause w next, s => if stops w then (next, s) else runUntil stops next s

/-- What a routine has come to, if it is at its end. -/
def result? : Routine σ α → Option α
  | done a => some a
  | _ => none

/-- **Start two routines together**: the first runs until it waits for something that the second may
use the time of, then the second runs to its end, then the first does. -/
def runTogether (yields : Wait → Bool) (first : Routine σ α) (second : Routine σ β) (s : σ) :
    (α × β) × σ :=
  let (rest, s) := first.runUntil yields s
  let (b, s) := second.run s
  let (a, s) := rest.run s
  ((a, b), s)

/-- The next step of a routine, pauses skipped. -/
def advance : Routine σ α → σ → Routine σ α × σ
  | done a, s => (done a, s)
  | step act next, s => (next (act s).1, (act s).2)
  | pause _ next, s => advance next s

/-- **Mix the steps of two routines by a schedule**: at each place the first or the second makes its
next step. What is left of both after it. -/
def interleave : List Bool → Routine σ α → Routine σ β → σ → (Routine σ α × Routine σ β) × σ
  | [], p, q, s => ((p, q), s)
  | true :: rest, p, q, s => let (p, s) := p.advance s; interleave rest p q s
  | false :: rest, p, q, s => let (q, s) := q.advance s; interleave rest p q s

/-! ## Laws -/

section Laws

variable {γ : Type}

theorem bind_done (p : Routine σ α) : p.bind done = p := by
  induction p with
  | done a => rfl
  | step act next ih => simp only [bind, ih]
  | pause w next ih => simp only [bind, ih]

theorem bind_bind (p : Routine σ α) (f : α → Routine σ β) (g : β → Routine σ γ) :
    (p.bind f).bind g = p.bind fun a => (f a).bind g := by
  induction p with
  | done a => rfl
  | step act next ih => simp only [bind, ih]
  | pause w next ih => simp only [bind, ih]

instance : LawfulMonad (Routine σ) := LawfulMonad.mk' _ bind_done (fun _ _ => rfl) bind_bind

/-- **A routine that goes on with another runs as far as itself, and the other runs from there.** -/
@[simp] theorem run_bind (p : Routine σ α) (f : α → Routine σ β) (s : σ) :
    (p >>= f).run s = (f (p.run s).1).run (p.run s).2 := by
  show (p.bind f).run s = _
  induction p generalizing s with
  | done a => rfl
  | step act next ih => exact ih (act s).1 (act s).2
  | pause w next ih => exact ih s

@[simp] theorem run_pure (a : α) (s : σ) : (pure a : Routine σ α).run s = (a, s) := rfl

/-- What is left after one step comes to the same, run from there. -/
theorem run_advance (p : Routine σ α) (s : σ) :
    (p.advance s).1.run (p.advance s).2 = p.run s := by
  induction p generalizing s with
  | done a => rfl
  | step act next ih => rfl
  | pause w next ih => exact ih s

end Laws

end Routine

end FleetControl
