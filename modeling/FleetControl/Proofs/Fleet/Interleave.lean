import FleetControl.Proofs.Fleet.Run
import Mathlib.Data.List.TakeWhile

/-!
# Two jobs at a time

Two routines whose steps are mixed by a schedule come to a state that an invariant of both steps holds of
(`Routine.interleave_induct`). Where one of them is done the other runs on by itself
(`Routine.interleave_done_right`), and until the second makes its first step the first runs by itself
(`Routine.interleave_of_left`).

A routine is indifferent to the records if what it does to the rest of the fleet never depends on them,
and clerical if it changes nothing but records. What an indifferent routine does to the engines is then
the same whatever a clerical one does in between (`Routine.filed_interleave`).
-/

namespace FleetControl

namespace Routine

variable {σ α β : Type} {R : σ → σ → Prop} {p : Routine σ α} {q : Routine σ β}

/-- A routine has a result as soon as it is done, and not before. -/
theorem result?_eq_some_iff {a : α} : p.result? = some a ↔ p = .done a := by
  cases p <;> simp [result?]

/-! ## Schedules -/

/-- A schedule may be cut anywhere: the rest of it goes on with what the two routines have become. -/
theorem interleave_append (turns turns' : List Bool) (p : Routine σ α) (q : Routine σ β) (s : σ) :
    interleave (turns ++ turns') p q s = interleave turns' (interleave turns p q s).1.1
      (interleave turns p q s).1.2 (interleave turns p q s).2 := by
  induction turns generalizing p q s with
  | nil => rfl
  | cons turn rest ih =>
    cases turn with
    | true => exact ih (p.advance s).1 q (p.advance s).2
    | false => exact ih p (q.advance s).1 (q.advance s).2

/-- **What both steps keep holds at every moment.** The invariant speaks of both routines and of the state that
they share; the induction is on the turns, for every schedule at once. -/
theorem interleave_induct {I : Routine σ α → Routine σ β → σ → Prop}
    (left : ∀ p q s, I p q s → I (p.advance s).1 q (p.advance s).2)
    (right : ∀ p q s, I p q s → I p (q.advance s).1 (q.advance s).2) (turns : List Bool) {s : σ}
    (h : I p q s) :
    I (interleave turns p q s).1.1 (interleave turns p q s).1.2 (interleave turns p q s).2 := by
  induction turns generalizing p q s with
  | nil => exact h
  | cons turn rest ih =>
    cases turn with
    | true => exact ih (left p q s h)
    | false => exact ih (right p q s h)

/-- Where the second routine is done, the first runs on by itself: the remaining turns of the second do nothing,
and those of the first are a part of its run. -/
theorem interleave_done_right {turns : List Bool} {p' : Routine σ α} {q' : Routine σ β} {b : β} {s s' : σ}
    (h : interleave turns p (.done b) s = ((p', q'), s')) : p'.run s' = p.run s := by
  have hkept := interleave_induct (p := p) (I := fun p' q' s' => q' = .done b ∧ p'.run s' = p.run s)
    (fun p' q' s' hI => ⟨hI.1, (run_advance p' s').trans hI.2⟩)
    (fun p' q' s' hI => by
      obtain ⟨rfl, hrun⟩ := hI
      exact ⟨rfl, hrun⟩) turns ⟨rfl, rfl⟩
  rw [h] at hkept
  exact hkept.2

/-- Where the first routine is done, the second runs on by itself. -/
theorem interleave_done_left {turns : List Bool} {p' : Routine σ α} {q' : Routine σ β} {a : α} {s s' : σ}
    (h : interleave turns (.done a) q s = ((p', q'), s')) : q'.run s' = q.run s := by
  have hkept := interleave_induct (q := q) (I := fun p' q' s' => p' = .done a ∧ q'.run s' = q.run s)
    (fun p' q' s' hI => by
      obtain ⟨rfl, hrun⟩ := hI
      exact ⟨rfl, hrun⟩)
    (fun p' q' s' hI => ⟨hI.1, (run_advance q' s').trans hI.2⟩) turns ⟨rfl, rfl⟩
  rw [h] at hkept
  exact hkept.2

/-- **As long as it is the first routine's turn** it runs by itself, and what its steps keep holds. The second
routine is then still what it was at the outset. -/
theorem interleave_of_left {I : Routine σ α → σ → Prop}
    (left : ∀ p s, I p s → I (p.advance s).1 (p.advance s).2) :
    ∀ {turns : List Bool} {p : Routine σ α} {s : σ}, (∀ turn ∈ turns, turn = true) → I p s →
      ∃ p' s', interleave turns p q s = ((p', q), s') ∧ p'.run s' = p.run s ∧ I p' s'
  | [], p, s, _, h => ⟨p, s, rfl, rfl, h⟩
  | turn :: rest, p, s, hturns, h => by
    obtain ⟨rfl, hrest⟩ := List.forall_mem_cons.mp hturns
    obtain ⟨p', s', hmixed, hrun, hI⟩ := interleave_of_left left hrest (left p s h)
    exact ⟨p', s', hmixed, hrun.trans (run_advance p s), hI⟩

/-- The turns of the first routine before the second's first. -/
def headStart (turns : List Bool) : List Bool := turns.takeWhile id

/-- Before the second routine makes its first step, all turns are the first routine's. -/
theorem of_mem_headStart {turns : List Bool} : ∀ turn ∈ headStart turns, turn = true :=
  fun _ => List.mem_takeWhile_imp

/-- A schedule is a head start and then, unless it ends there, a turn of the second routine. -/
theorem headStart_cases (turns : List Bool) : turns = headStart turns ∨
    ∃ rest, turns = headStart turns ++ false :: rest := by
  have hsplit := List.takeWhile_append_dropWhile (p := id) (l := turns)
  cases hrest : turns.dropWhile id with
  | nil =>
    rw [hrest, List.append_nil] at hsplit
    exact .inl hsplit.symm
  | cons turn rest =>
    have hturn : turn = false := by
      have := List.head?_dropWhile_not id turns
      rw [hrest] at this
      simpa using this
    rw [hrest, hturn] at hsplit
    exact .inr ⟨rest, hsplit.symm⟩

/-! ## Steps within a relation -/

/-- **Every step of the routine stays within a relation**, whenever it is made. -/
inductive Within (R : σ → σ → Prop) {α : Type} : Routine σ α → Prop
  | done (a : α) : Within R (.done a)
  | step {β : Type} {act : σ → β × σ} {next : β → Routine σ α} (now : ∀ s, R s (act s).2)
      (later : ∀ b, Within R (next b)) : Within R (.step act next)
  | pause {w : Wait} {next : Routine σ α} (later : Within R next) : Within R (.pause w next)

/-- One step of a routine within a relation stays in it, and what is left of the routine is again within it. -/
theorem Within.advance [Std.Refl R] (h : Within R p) (s : σ) :
    Within R (p.advance s).1 ∧ R s (p.advance s).2 := by
  induction h with
  | done a => exact ⟨.done a, Std.Refl.refl s⟩
  | step now later => exact ⟨later _, now s⟩
  | pause _ ih => exact ih

/-- What follows a routine within a relation may be any routine within it, whatever the first came to. -/
theorem Within.bind (h : Within R p) {f : α → Routine σ β} (hf : ∀ a, Within R (f a)) :
    Within R (p >>= f) := by
  show Within R (p.bind f)
  induction h with
  | done a => exact hf a
  | step now _ ih => exact .step now ih
  | pause _ ih => exact .pause ih

/-- A routine within a relation is within every larger one. -/
theorem Within.mono {R' : σ → σ → Prop} (h : Within R p) (hR : ∀ s s', R s s' → R' s s') : Within R' p := by
  induction h with
  | done a => exact .done a
  | step now _ ih => exact .step (fun s => hR _ _ (now s)) ih
  | pause _ ih => exact .pause ih

/-- A routine whose steps stay within a relation that can be chained stays within it over its whole run. -/
theorem Within.run [IsPreorder σ R] (h : Within R p) (s : σ) : R s (p.run s).2 := by
  induction h generalizing s with
  | done a => exact Std.Refl.refl s
  | step now _ ih => exact IsTrans.trans _ _ _ (now s) (ih _ _)
  | pause _ ih => exact ih s

/-! ## Steps that only look -/

/-- **The routine only looks until it is at a certain place.** -/
inductive Peeks (s : σ) (P : Routine σ α → Prop) : Routine σ α → Prop
  | here {p : Routine σ α} (h : P p) : Peeks s P p
  | look {β : Type} {act : σ → β × σ} {next : β → Routine σ α} (same : (act s).2 = s)
      (later : Peeks s P (next (act s).1)) : Peeks s P (.step act next)

end Routine

/-! ## Records and the rest -/

/-- **Only records are other than they were.** -/
def Fleet.Filed (fl fl' : Fleet) : Prop := ∃ s, fl' = { fl with store := s }

instance : IsPreorder Fleet Fleet.Filed where
  refl fl := ⟨fl.store, rfl⟩
  trans := by
    rintro fl _ _ ⟨s, rfl⟩ ⟨s', rfl⟩
    exact ⟨s', rfl⟩

namespace Routine

variable {α β : Type} {p : Routine Fleet α} {q : Routine Fleet β}

/-- The routine changes nothing but records. -/
abbrev Clerical (p : Routine Fleet α) : Prop := Within Fleet.Filed p

/-- **The routine pays no heed to the records**, and leaves them as they are. -/
inductive Blind {α : Type} : Routine Fleet α → Prop
  | done (a : α) : Blind (.done a)
  | step {β : Type} {act : Fleet → β × Fleet} {next : β → Routine Fleet α}
      (now : ∀ fl s, act { fl with store := s } = ((act fl).1, { (act fl).2 with store := s }))
      (later : ∀ b, Blind (next b)) : Blind (.step act next)

/-- **What the routine does to the rest of the fleet never depends on the records.** -/
inductive Indifferent {α : Type} : Routine Fleet α → Prop
  | clerical {p : Routine Fleet α} (h : Clerical p) : Indifferent p
  | step {β : Type} {act : Fleet → β × Fleet} {next : β → Routine Fleet α}
      (now : ∀ fl s, act { fl with store := s } = ((act fl).1, { (act fl).2 with store := s }))
      (later : ∀ b, Indifferent (next b)) : Indifferent (.step act next)

/-- Two routines in a row pay no heed to the records if neither of them does. -/
theorem Blind.bind (h : Blind p) {f : α → Routine Fleet β} (hf : ∀ a, Blind (f a)) : Blind (p >>= f) := by
  show Blind (p.bind f)
  induction h with
  | done a => exact hf a
  | step now _ ih => exact .step now ih

/-- A step that pays no heed to the records leaves them: were they changed, then not in the same way for all
records. -/
theorem store_of_heedless {act : Fleet → β × Fleet}
    (now : ∀ fl s, act { fl with store := s } = ((act fl).1, { (act fl).2 with store := s })) (fl : Fleet) :
    (act fl).2.store = fl.store :=
  congrArg (fun r : β × Fleet => r.2.store) (now fl fl.store)

/-- A routine that pays no heed to the records leaves them as they are at every step. -/
theorem Blind.within (h : Blind p) : Within (fun fl fl' => fl'.store = fl.store) p := by
  induction h with
  | done a => exact .done a
  | step now _ ih => exact .step (store_of_heedless now) ih

/-- **Engine calls before changes of records**: where a routine pays no heed to the records, and what comes after
it only changes records, the rest of the fleet does not depend on the records. Making a unit is of this form. -/
theorem Blind.indifferent (h : Blind p) {f : α → Routine Fleet β} (hf : ∀ a, Clerical (f a)) :
    Indifferent (p >>= f) := by
  show Indifferent (p.bind f)
  induction h with
  | done a => exact .clerical (hf a)
  | step now _ ih => exact .step now ih

/-- What is left of an indifferent routine after a step is indifferent too. -/
theorem Indifferent.advance (h : Indifferent p) (fl : Fleet) : Indifferent (p.advance fl).1 := by
  cases h with
  | clerical h => exact .clerical (h.advance fl).1
  | step now later => exact later _

/-- Whatever the records are at the outset, the rest of the fleet ends the same; the induction is over the steps
of the routine. -/
theorem Indifferent.run_filed (h : Indifferent p) (fl : Fleet) (s : Store) :
    Fleet.Filed (p.run fl).2 (p.run { fl with store := s }).2 := by
  induction h generalizing fl with
  | clerical h =>
    obtain ⟨s₁, h₁⟩ := h.run fl
    obtain ⟨s₂, h₂⟩ := h.run { fl with store := s }
    exact ⟨s₂, by rw [h₁, h₂]⟩
  | @step β act next now _ ih =>
    show Fleet.Filed (Routine.run (next (act fl).1) (act fl).2).2
      (Routine.run (next (act { fl with store := s }).1) (act { fl with store := s }).2).2
    rw [now fl s]
    exact ih _ _

/-- **What an indifferent routine leaves of the fleet, but for the records, is what it leaves by itself**,
whatever a clerical one does in between. The invariant is that the run of the rest of the routine, from the state
of the moment, ends where the whole run would have ended. -/
theorem filed_interleave {turns : List Bool} {p' : Routine Fleet α} {q' : Routine Fleet β} {fl fl' : Fleet}
    (hp : Indifferent p) (hq : Clerical q) (h : interleave turns p q fl = ((p', q'), fl')) :
    Fleet.Filed (p.run fl).2 (p'.run fl').2 := by
  have hkept := interleave_induct (p := p) (q := q)
    (I := fun p' q' fl' => Indifferent p' ∧ Clerical q' ∧ Fleet.Filed (p.run fl).2 (p'.run fl').2)
    ?_ ?_ turns ⟨hp, hq, Std.Refl.refl _⟩
  · rw [h] at hkept
    exact hkept.2.2
  · rintro p' q' fl' ⟨hp', hq', hfiled⟩
    exact ⟨hp'.advance fl', hq', by rwa [run_advance]⟩
  · rintro p' q' fl' ⟨hp', hq', hfiled⟩
    obtain ⟨hq'', s, hs⟩ := hq'.advance fl'
    refine ⟨hp', hq'', IsTrans.trans _ _ _ hfiled ?_⟩
    rw [hs]
    exact hp'.run_filed fl' s

end Routine

/-! ## Jobs -/

namespace Job

variable {α β : Type} {t : Job α}

/-- The job pays no heed to the records. -/
def Blind (t : Job α) : Prop := t.run.Blind

theorem blind_pure (a : α) : Blind (pure a : Job α) := .done _

theorem blind_fail (f : Failure) : Blind (fail f : Job α) := .done _

theorem blind_ofExcept (e : Except Failure α) : Blind (ofExcept e) := by
  cases e with
  | ok a => exact blind_pure a
  | error f => exact blind_fail f

theorem blind_fitting (o : Option α) : Blind (fitting o) := by
  cases o with
  | some a => exact blind_pure a
  | none => exact .done _

/-- A job that pays no heed to the records, after another such job, whether that one fails or not. -/
theorem blind_bind {t : Job β} {f : β → Job α} (ht : t.Blind) (hf : ∀ b, (f b).Blind) : Blind (t >>= f) := by
  unfold Blind
  rw [ExceptT.run_bind]
  refine Routine.Blind.bind ht fun r => ?_
  cases r with
  | error e => exact .done _
  | ok b => exact hf b

/-- Hearing a failure takes no look at the records. -/
theorem blind_attempt (h : t.Blind) : Blind (attempt t) := by
  unfold Blind attempt
  rw [ExceptT.run_mk]
  refine Routine.Blind.bind h fun r => ?_
  obtain (f | _) | a := r <;> exact .done _

theorem blind_act {f : Fleet → α × Fleet}
    (hf : ∀ fl s, f { fl with store := s } = ((f fl).1, { (f fl).2 with store := s })) : Blind (act f) :=
  .step hf fun _ => .done _

/-- A dialog with an engine pays no heed to the records, one call after another. -/
theorem blind_dialog (address : String) : ∀ d : Engine.Dialog α, Blind (dialog address d)
  | .done a => blind_pure a
  | .ask _ next => blind_bind (blind_act fun _ _ => rfl) fun r => blind_dialog address (next r)

theorem blind_openEngine (n : Node) : Blind (openEngine n) := by
  unfold openEngine
  split
  · exact blind_fail _
  · refine blind_bind (blind_act fun _ _ => rfl) fun isSilent => ?_
    split
    · exact .done _
    · exact blind_pure _

/-- **Making a unit pays no heed to the records**: everything in its plan was handed to it. -/
theorem blind_provision (c : EngineSettings) (n : Node) (spec : Spec) (i : Image) (name : String) :
    Blind (provision c n spec i name) :=
  blind_bind (blind_openEngine n) fun address => blind_bind (blind_fitting _) fun _ =>
    blind_bind (blind_dialog address _) fun r => blind_ofExcept r

/-- **Every step of the job stays within a relation**, whenever it is made. -/
def Within (R : Fleet → Fleet → Prop) (t : Job α) : Prop := t.run.Within R

variable {R : Fleet → Fleet → Prop}

theorem within_pure (a : α) : Within R (pure a : Job α) := .done _

theorem within_fail (f : Failure) : Within R (fail f : Job α) := .done _

theorem within_ofExcept (e : Except Failure α) : Within R (ofExcept e) := by
  cases e with
  | ok a => exact within_pure a
  | error f => exact within_fail f

/-- Two jobs in a row stay within a relation if both of them do, the second for every value of the first. -/
theorem within_bind {t : Job β} {f : β → Job α} (ht : t.Within R) (hf : ∀ b, (f b).Within R) :
    Within R (t >>= f) := by
  unfold Within
  rw [ExceptT.run_bind]
  refine Routine.Within.bind ht fun r => ?_
  cases r with
  | error e => exact .done _
  | ok b => exact hf b

/-- A step that may fail stays within every relation that it keeps, failed or not. -/
theorem within_tryAct {f : Fleet → Except Failure α × Fleet} (hf : ∀ fl, R fl (f fl).2) :
    Within R (tryAct f) :=
  within_bind (.step hf fun _ => .done _) fun e => within_ofExcept e

/-- A change of a shelf leaves everything of the fleet but the records. -/
theorem filed_write {ρ F P : Type} [Record ρ F P] (shelf : Shelf ρ)
    (f : Time.Instant → Repository ρ → Except Failure α × Repository ρ) :
    Within Fleet.Filed (write shelf f) :=
  within_tryAct fun _ => ⟨_, rfl⟩

/-- A change of a single record leaves everything of the fleet but the records. -/
theorem filed_update {ρ F P : Type} [Record ρ F P] (shelf : Shelf ρ) (id : RecordId) (p : P) :
    Within Fleet.Filed (update shelf id p) := filed_write shelf _

/-! ## Single steps -/

/-- What comes after a job that has come to something. -/
def goOn (f : β → Job α) : Except Halt β → Routine Fleet (Except Halt α)
  | .ok b => (f b).run
  | .error e => .done (.error e)

/-- As a routine, a job after another is the first routine followed by what its end leads to. This is where the
halts of jobs meet the steps of routines. -/
theorem run_bind_goOn (t : Job β) (f : β → Job α) : (t >>= f).run = t.run >>= goOn f := by
  rw [ExceptT.run_bind]
  congr 1
  funext r
  cases r <;> rfl

section Records

variable {ρ F P : Type} [Record ρ F P] {shelf : Shelf ρ} {id : RecordId} {fl : Fleet}

/-- **The first step of a job that needs a record**, where it is there: the fleet stays, and the job goes on with
the record. -/
theorem advance_get_bind {a : ρ} {g : ρ → Job α} (h : (shelf.get fl.store).find? id = some a) :
    (get shelf id >>= g).run.advance fl = ((g a).run, fl) := by
  show ((ofExcept ((shelf.get fl.store).get id) >>= g).run, fl) = _
  rw [Repository.get, h]
  rfl

/-- A job that needs a record fails at its first step, where it is not there. -/
theorem advance_get_bind_of_none {g : ρ → Job α} (h : (shelf.get fl.store).find? id = none) :
    ∃ e, (get shelf id >>= g).run.advance fl = (.done (.error e), fl) := by
  refine ⟨.failed (.notFound (Record.label ρ id)), ?_⟩
  show ((ofExcept ((shelf.get fl.store).get id) >>= g).run, fl) = _
  rw [Repository.get, h]
  rfl

/-- **The first step of a job that changes records first**, where the change is accepted: the shelf is changed
within the one step, so nothing of another job comes in between. -/
theorem advance_write_bind {f : Time.Instant → Repository ρ → Except Failure β × Repository ρ} {g : β → Job α}
    {b : β} (h : (f fl.now (shelf.get fl.store)).1 = .ok b) : (write shelf f >>= g).run.advance fl =
      ((g b).run, { fl with store := shelf.set (f fl.now (shelf.get fl.store)).2 fl.store }) := by
  show ((ofExcept (f fl.now (shelf.get fl.store)).1 >>= g).run, _) = _
  rw [h]
  rfl

/-- The first step of a job that changes a live record and goes on with what it has become. -/
theorem advance_update_bind {p : P} {a : ρ} {g : ρ → Job α} (h : (shelf.get fl.store).find? id = some a) :
    (update shelf id p >>= g).run.advance fl = ((g (Record.touch fl.now (Record.patch p a))).run,
      { fl with store :=
          shelf.set ((shelf.get fl.store).put (Record.touch fl.now (Record.patch p a))) fl.store }) := by
  have hwrite : (shelf.get fl.store).update fl.now id p = _ := Repository.update_of_find? h
  rw [update, advance_write_bind (congrArg Prod.fst hwrite), hwrite]

/-- The one step of a job that only changes a live record. -/
theorem advance_update {p : P} {a : ρ} (h : (shelf.get fl.store).find? id = some a) :
    (update shelf id p).run.advance fl = (.done (.ok (Record.touch fl.now (Record.patch p a))),
      { fl with store :=
          shelf.set ((shelf.get fl.store).put (Record.touch fl.now (Record.patch p a))) fl.store }) := by
  have hbind := advance_update_bind (p := p) (g := pure) h
  rwa [bind_pure] at hbind

end Records

/-- A job that only looks first is then where it fails or where it goes on with what it has seen. -/
theorem peeks_bind {f : Fleet → Except Failure β} {g : β → Job α} {fl : Fleet}
    {P : Routine Fleet (Except Halt α) → Prop} (hfailed : ∀ e, P (.done (.error e)))
    (hfound : ∀ b, (g b).run.Peeks fl P) : (tryAct (fun fl => (f fl, fl)) >>= g).run.Peeks fl P := by
  refine .look rfl ?_
  show ((ofExcept (f fl) >>= g).run).Peeks fl P
  cases f fl with
  | ok b => exact hfound b
  | error e => exact .here (hfailed _)

end Job

end FleetControl
