import FleetControl.Proofs.Fleet.Run

/-!
# Refusals

A job that refuses says that something is not there, not allowed, not valid or not set up. It should
say so before it does anything: `Job.Refuses s t` states that a run of `t` by itself on the records `s`
that ends in a refusal leaves the records and every engine as they were.

A job is taken apart at the place of its first effect. What comes before is `Idle`, and may refuse;
what comes after never does. Engines themselves never refuse in this sense: they are out of reach or
answer with a status (`Engine.answer_error`).
-/

namespace FleetControl

/-- **A refusal**: what was asked for is not there, not allowed, not valid or not set up. -/
def Failure.isRefusal : Failure → Bool
  | notFound _ | permissionDenied _ | invalidRequest _ | incomplete _ => true
  | _ => false

/-- What engines answer with is no refusal: they are out of reach, or give a status. -/
theorem Failure.isRefusal_of_isEngines : ∀ {f : Failure}, f.isEngines = true → f.isRefusal = false
  | connection _, _ | engine _ _, _ => rfl

/-- **The same records and engines.** -/
structure Fleet.Alike (fl fl' : Fleet) : Prop where
  store : fl'.store = fl.store
  engines : fl'.engines = fl.engines

instance : IsPreorder Fleet Fleet.Alike where
  refl _ := ⟨rfl, rfl⟩
  trans _ _ _ h h' := ⟨h'.store.trans h.store, h'.engines.trans h.engines⟩

namespace Job

variable {α β : Type} {t : Job α} {s : Store}

/-! ## Jobs that never refuse -/

/-- **Records are only looked at, and nothing is refused**, on every course. -/
def Watches (t : Job α) : Prop := ∀ s r s', t.Yields s r s' →
  s' = s ∧ ∀ f, r = .error (.failed f) → f.isRefusal = false

/-- What only watches leaves the records as they are. -/
theorem Watches.keeps (h : Watches t) : Keeps t := fun s r s' hy => (h s r s' hy).1.symm

/-- Whatever a job that only watches fails with, it is no refusal. -/
theorem Watches.not_refusal {s' : Store} {f : Failure} (h : Watches t)
    (hy : t.Yields s (.error (.failed f)) s') : f.isRefusal = false := (h _ _ _ hy).2 f rfl

theorem watches_pure (a : α) : Watches (pure a : Job α) := by
  intro s r s' hy
  obtain ⟨rfl, rfl⟩ := yields_pure.mp hy
  exact ⟨rfl, nofun⟩

theorem watches_fail {f : Failure} (hf : f.isRefusal = false) : Watches (fail f : Job α) := by
  intro s r s' hy
  obtain ⟨rfl, rfl⟩ := yields_fail.mp hy
  refine ⟨rfl, fun g hg => ?_⟩
  cases hg
  exact hf

/-- A job that only watches, after another one, whatever that came to. -/
theorem watches_bind {t : Job β} {f : β → Job α} (ht : t.Watches) (hf : ∀ b, (f b).Watches) :
    Watches (t >>= f) := by
  intro s r s' hy
  rcases yields_bind_keeps ht.keeps hy with ⟨b, _, h⟩ | ⟨e, h, rfl, rfl⟩
  · exact hf b s r s' h
  · refine ⟨rfl, fun g hg => ?_⟩
    cases hg
    exact ht.not_refusal h

/-- A step that leaves the records and cannot fail is one that watches. -/
theorem watches_act {f : Fleet → α × Fleet} (hf : ∀ fl, (f fl).2.store = fl.store) :
    Watches (act f) := by
  intro s r s' hy
  obtain ⟨fl, rfl, rfl, rfl⟩ := yields_act.mp hy
  exact ⟨hf fl, nofun⟩

theorem watches_look (f : Fleet → α) : Watches (look f) := watches_act fun _ => rfl

/-- A failure that is heard is none of the job, so it may be any failure, a refusal too. -/
theorem watches_attempt (h : Keeps t) : Watches (attempt t) := by
  intro s r s' hy
  obtain ⟨r', hy', rfl⟩ := yields_attempt.mp hy
  refine ⟨(h s r' s' hy').symm, fun f hf => ?_⟩
  obtain (_ | _) | _ := r' <;> cases hf

/-- **Engines refuse nothing**, and a call to one leaves the records as they are. -/
theorem watches_call {address : String} {c : Engine.Call α} : Watches (call address c) := by
  intro s r s' hy
  obtain ⟨fl, rfl, rfl, rfl⟩ := yields_tryAct.mp hy
  refine ⟨rfl, fun f hf => Failure.isRefusal_of_isEngines ?_⟩
  change ((fl.engineAt address).answer c).1.mapError Halt.failed = .error (.failed f) at hf
  cases hanswer : ((fl.engineAt address).answer c).1 with
  | ok a =>
    rw [hanswer] at hf
    cases hf
  | error g =>
    rw [hanswer] at hf
    cases hf
    exact Engine.answer_error hanswer

/-! ## Runs by itself -/

/-- **A run does nothing to the records or to an engine.** -/
def Idle (t : Job α) : Prop := t.Leads Fleet.Alike

/-! ## Refusals come first -/

/-- **A refusal leaves everything as it was**, where the job runs by itself on the records. -/
def Refuses (s : Store) (t : Job α) : Prop := ∀ (fl : Fleet) f, fl.store = s →
  (t.run.run fl).1 = .error (.failed f) → f.isRefusal = true → fl.Alike (t.run.run fl).2

/-- A job that does nothing has nothing to take back, and so it may refuse at any time. -/
theorem Idle.refuses (h : Idle t) (s : Store) : Refuses s t := fun fl _ _ _ _ => h fl

/-- What never refuses, on any course from these records, leaves nothing to show. -/
theorem refuses_of_yields
    (h : ∀ f s', t.Yields s (.error (.failed f)) s' → f.isRefusal = false) : Refuses s t := by
  rintro fl f rfl hr hrefusal
  have hy := run_yields t fl
  rw [hr] at hy
  rw [h f _ hy] at hrefusal
  cases hrefusal

/-- What only watches never refuses, and has nothing to show. -/
theorem Watches.refuses (h : Watches t) (s : Store) : Refuses s t :=
  refuses_of_yields fun _ _ hy => h.not_refusal hy

/-- **Nothing is done by the first job, so the second may still refuse.** The checks of an operation come before
its first effect in this way. -/
theorem refuses_bind {t : Job β} {f : β → Job α} (ht : t.Idle)
    (hf : ∀ b, t.Yields s (.ok b) s → (f b).Refuses s) : Refuses s (t >>= f) := by
  rintro fl g rfl hr hrefusal
  have hidle := ht fl
  have hy := run_yields t fl
  rw [run_bind] at hr ⊢
  rcases hrun : t.run.run fl with ⟨e | b, fl'⟩
  · rw [hrun] at hidle
    exact hidle
  · rw [hrun] at hr hidle hy
    dsimp only at hr hidle hy ⊢
    rw [hidle.store] at hy
    exact IsTrans.trans _ _ _ hidle (hf b hy fl' g hidle.store hr hrefusal)

/-- **The first job may do something, so the second must not refuse**, on any course from what the first has left. -/
theorem refuses_bind_of_yields {t : Job β} {f : β → Job α} (ht : t.Refuses s)
    (hf : ∀ b z g s', t.Yields s (.ok b) z → (f b).Yields z (.error (.failed g)) s' →
      g.isRefusal = false) : Refuses s (t >>= f) := by
  rintro fl g rfl hr hrefusal
  have hfirst := ht fl g rfl
  have hy := run_yields t fl
  rw [run_bind] at hr ⊢
  rcases hrun : t.run.run fl with ⟨e | b, fl'⟩
  · rw [hrun] at hr hfirst
    obtain rfl := Except.error.inj hr
    exact hfirst rfl hrefusal
  · rw [hrun] at hr hy
    have hrest := run_yields (f b) fl'
    rw [show ((f b).run.run fl').1 = .error (.failed g) from hr] at hrest
    rw [hf b _ g _ hy hrest] at hrefusal
    cases hrefusal

/-- One call to a node's engine: it opens or refuses, and the call refuses nothing. -/
theorem refuses_onNode (n : Node) (c : Engine.Call α) (s : Store) : Refuses s (onNode n c) :=
  refuses_bind (leads_openEngine n) fun _ _ => watches_call.refuses s

end Job

end FleetControl
