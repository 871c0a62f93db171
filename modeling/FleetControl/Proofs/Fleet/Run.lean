import FleetControl.Proofs.Fleet.Course

/-!
# Runs of a job by itself

A run of a job by itself is a function of the fleet. A relation of fleets that holds across every step of
a job holds across its runs (`Job.Leads`); the laws below take a job apart for such a relation.
-/

namespace FleetControl.Job

variable {α β : Type} {t : Job α} {R : Fleet → Fleet → Prop}

/-- **A run of two jobs in a row**: the second runs from the fleet that the first has left, unless the first comes
to a halt, which is then that of the whole. -/
theorem run_bind (t : Job β) (f : β → Job α) (fl : Fleet) : (t >>= f).run.run fl =
    match t.run.run fl with
    | (.ok b, fl') => (f b).run.run fl'
    | (.error e, fl') => (.error e, fl') := by
  rw [ExceptT.run_bind, Routine.run_bind]
  rcases t.run.run fl with ⟨e | b, fl'⟩
  · rfl
  · rfl

/-- Where the first of two jobs comes to a value, the run is that of the second from there. -/
theorem run_bind_of_ok {t : Job β} {f : β → Job α} {b : β} {fl fl' : Fleet}
    (h : t.run.run fl = (.ok b, fl')) : (t >>= f).run.run fl = (f b).run.run fl' := by
  rw [run_bind, h]

/-- Where the first of two jobs comes to a halt, the second is not begun. -/
theorem run_bind_of_error {t : Job β} {f : β → Job α} {e : Halt} {fl fl' : Fleet}
    (h : t.run.run fl = (.error e, fl')) : (t >>= f).run.run fl = (.error e, fl') := by
  rw [run_bind, h]

theorem run_ofExcept (e : Except Failure α) (fl : Fleet) :
    (ofExcept e).run.run fl = (e.mapError .failed, fl) := by
  cases e <;> rfl

/-- **What must fit** runs without a step: to its value, or to the halt of an overflow where there is none. -/
theorem run_fitting (o : Option α) (fl : Fleet) :
    (fitting o).run.run fl = (o.elim (.error .overflow) .ok, fl) := by
  cases o <;> rfl

/-- The failures of a job are heard, and the fleet is what the job has left, failed or not. -/
theorem run_attempt (t : Job α) (fl : Fleet) :
    (attempt t).run.run fl = (heard (t.run.run fl).1, (t.run.run fl).2) := by
  unfold attempt
  rw [ExceptT.run_mk, Routine.run_bind]
  rcases t.run.run fl with ⟨(f | _ | _) | a, fl'⟩ <;> rfl

/-- The same for a run whose end is known, which is how it is used where the run of the inner job has a lemma of
its own. -/
theorem run_attempt_of {r : Except Halt α} {fl fl' : Fleet} (h : t.run.run fl = (r, fl')) :
    (attempt t).run.run fl = (heard r, fl') := by
  rw [run_attempt, h]

/-- A look at the fleet leaves it as it is. -/
theorem run_look (f : Fleet → α) (fl : Fleet) : (look f).run.run fl = (.ok (f fl), fl) := rfl

/-- A step that cannot fail acts on the fleet as it is. -/
theorem run_act (f : Fleet → α × Fleet) (fl : Fleet) : (act f).run.run fl = (.ok (f fl).1, (f fl).2) := rfl

/-- A step that may fail leaves the fleet that it made, also where it fails. -/
theorem run_tryAct (f : Fleet → Except Failure α × Fleet) (fl : Fleet) :
    (tryAct f).run.run fl = ((f fl).1.mapError .failed, (f fl).2) :=
  run_ofExcept _ _

theorem run_pace (fl : Fleet) : pace.run.run fl = (.ok (), fl) := rfl

/-- A job that is waited for has run to its end; that it was silent is what the one that waits goes on with. -/
theorem run_within_of {seconds : UInt64} {r : Except Halt α} {fl fl' : Fleet} (h : t.run.run fl = (r, fl')) :
    (within seconds t).run.run fl = (awaited r, fl') := by
  unfold within
  rw [ExceptT.run_mk, Routine.run_bind, h]
  obtain (f | _ | _) | a := r <;> rfl

/-- What is done at the end is done to the fleet that the job has left, whatever the job came to. -/
theorem run_ensuring_of {last : Fleet → Fleet} {r : Except Halt α} {fl fl' : Fleet}
    (h : t.run.run fl = (r, fl')) : (ensuring last t).run.run fl = (r, last fl') := by
  unfold ensuring
  rw [ExceptT.run_mk, Routine.run_bind, h]
  rfl

section Records

variable {ρ F P : Type} [Record ρ F P]

theorem run_get (shelf : Shelf ρ) (id : RecordId) (fl : Fleet) :
    (get shelf id).run.run fl = (((shelf.get fl.store).get id).mapError .failed, fl) :=
  run_ofExcept _ fl

/-- A live record with the identifier is got, and the fleet stays as it is. -/
theorem run_get_of_find? {shelf : Shelf ρ} {id : RecordId} {a : ρ} {fl : Fleet}
    (h : (shelf.get fl.store).find? id = some a) : (get shelf id).run.run fl = (.ok a, fl) := by
  rw [run_get, Repository.get, h]
  rfl

/-- Where no live record has the identifier, the job fails for want of the record. -/
theorem run_get_of_none {shelf : Shelf ρ} {id : RecordId} {fl : Fleet}
    (h : (shelf.get fl.store).find? id = none) :
    (get shelf id).run.run fl = (.error (.failed (.notFound (Record.label ρ id))), fl) := by
  rw [run_get, Repository.get, h]
  rfl

/-- **A record that must be there is found and the job goes on with it**, from the fleet as it was; or the job
fails for want of the record, and nothing was done. -/
theorem run_get_bind (shelf : Shelf ρ) (id : RecordId) (f : ρ → Job α) (fl : Fleet) :
    (∃ a, (shelf.get fl.store).find? id = some a ∧
      (get shelf id >>= f).run.run fl = (f a).run.run fl) ∨
    (get shelf id >>= f).run.run fl = (.error (.failed (.notFound (Record.label ρ id))), fl) := by
  cases hfind : (shelf.get fl.store).find? id with
  | some a => exact .inl ⟨a, rfl, run_bind_of_ok (run_get_of_find? hfind)⟩
  | none => exact .inr (run_bind_of_error (run_get_of_none hfind))

/-- A change of a shelf is made with the time that the fleet's clock shows. -/
theorem run_write (shelf : Shelf ρ) (f : Time.Instant → Repository ρ → Except Failure α × Repository ρ)
    (fl : Fleet) : (write shelf f).run.run fl = ((f fl.now (shelf.get fl.store)).1.mapError .failed,
      { fl with store := shelf.set (f fl.now (shelf.get fl.store)).2 fl.store }) :=
  run_ofExcept _ _

/-- **A live record is changed where it stands**, and stamped with the time that the fleet's clock shows. -/
theorem run_update {shelf : Shelf ρ} {id : RecordId} {a : ρ} (p : P) {fl : Fleet}
    (h : (shelf.get fl.store).find? id = some a) : (update shelf id p).run.run fl =
      (.ok (Record.touch fl.now (Record.patch p a)), { fl with
        store := shelf.set ((shelf.get fl.store).put (Record.touch fl.now (Record.patch p a))) fl.store }) := by
  rw [update, run_write, Repository.update_of_find? h]
  rfl

end Records

/-! ## What holds across runs -/

/-- **The fleets before and after a run are related.** -/
def Leads (R : Fleet → Fleet → Prop) (t : Job α) : Prop := ∀ fl, R fl (t.run.run fl).2

/-- A relation across the step of a job holds across its run, whether the step fails or not. -/
theorem leads_tryAct {f : Fleet → Except Failure α × Fleet} (hf : ∀ fl, R fl (f fl).2) :
    Leads R (tryAct f) := by
  intro fl
  rw [run_tryAct]
  exact hf fl

theorem leads_attempt (h : Leads R t) : Leads R (attempt t) := by
  intro fl
  rw [run_attempt]
  exact h fl

/-- **A relation that can be chained holds across two jobs in a row** once it holds across each of them. -/
theorem leads_bind [IsTrans Fleet R] {t : Job β} {f : β → Job α} (ht : t.Leads R)
    (hf : ∀ b, (f b).Leads R) : Leads R (t >>= f) := by
  intro fl
  have h := ht fl
  rw [run_bind]
  rcases hrun : t.run.run fl with ⟨e | b, fl'⟩
  · rw [hrun] at h
    exact h
  · rw [hrun] at h
    exact IsTrans.trans _ _ _ h (hf b fl')

section Refl

variable [Std.Refl R]

theorem leads_pure (a : α) : Leads R (pure a : Job α) := Std.Refl.refl

theorem leads_fail (f : Failure) : Leads R (fail f : Job α) := Std.Refl.refl

theorem leads_look (f : Fleet → α) : Leads R (look f) := Std.Refl.refl

theorem leads_ofExcept (e : Except Failure α) : Leads R (ofExcept e) := by
  cases e with
  | ok a => exact leads_pure a
  | error f => exact leads_fail f

theorem leads_get {ρ F P : Type} [Record ρ F P] (shelf : Shelf ρ) (id : RecordId) :
    Leads R (get shelf id) := by
  intro fl
  rw [run_get]
  exact Std.Refl.refl fl

theorem leads_fitting (o : Option α) : Leads R (fitting o) := by
  intro fl
  rw [run_fitting]
  exact Std.Refl.refl fl

/-- Opening an engine asks nothing of it, so it leads wherever doing nothing leads. -/
theorem leads_openEngine [IsTrans Fleet R] (n : Node) : Leads R (openEngine n) := by
  unfold openEngine
  split
  · exact leads_fail _
  · refine leads_bind (leads_look _) fun isSilent => ?_
    split
    · exact Std.Refl.refl
    · exact leads_pure _

end Refl

end FleetControl.Job
