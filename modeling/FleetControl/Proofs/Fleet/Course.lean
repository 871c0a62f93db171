import FleetControl.Fleet.Unit
import FleetControl.Proofs.Engine.Answer
import FleetControl.Proofs.Store.Repository
import Mathlib.Order.Defs.Unbundled

/-!
# Courses of a job

An engine may answer anything, a clock may show anything, and a cache may hold anything. What a job
does to the records is therefore stated over all its courses: `Job.Yields t s r s'` says that the job
can come to `r` and leave the records `s'`, having found the records `s`, where everything else of the
fleet is free to be otherwise before each step. A run from a fleet is one of these courses
(`Job.run_yields`).

The laws take a job apart: a course of two jobs in a row is a course of the first and one of the
second from where it ends (`Job.yields_bind`). Records change by steps of the job alone, so nothing
here speaks of two jobs at a time.
-/

namespace FleetControl

namespace Routine

variable {σ τ α β : Type} {view : σ → τ} {x y : τ} {a b : α}

/-- **A course of a routine, of whose state only a view is held fast**: each step finds some state of
that view. -/
inductive Course (view : σ → τ) {α : Type} : Routine σ α → τ → α → τ → Prop
  | done (a : α) (x : τ) : Course view (.done a) x a x
  | step {β : Type} {act : σ → β × σ} {next : β → Routine σ α} {x y : τ} {a : α} (s : σ)
      (found : view s = x) (rest : Course view (next (act s).1) (view (act s).2) a y) :
      Course view (.step act next) x a y
  | pause {w : Wait} {next : Routine σ α} {x y : τ} {a : α} (rest : Course view next x a y) :
      Course view (.pause w next) x a y

/-- A routine that is done is at its end: nothing more is looked at, and what is viewed stays as it was found. -/
@[simp] theorem course_done : Course view (.done b) x a y ↔ a = b ∧ y = x := by
  constructor
  · rintro ⟨⟩
    exact ⟨rfl, rfl⟩
  · rintro ⟨rfl, rfl⟩
    exact .done a y

/-- A step finds some state of the view, acts on it, and goes on from what it leaves. Everything outside the view
is chosen anew here, which is how the rest of the fleet may change between two steps. -/
@[simp] theorem course_step {act : σ → β × σ} {next : β → Routine σ α} :
    Course view (.step act next) x a y ↔
      ∃ s, view s = x ∧ Course view (next (act s).1) (view (act s).2) a y := by
  constructor
  · rintro (_ | ⟨s, found, rest⟩ | _)
    exact ⟨s, found, rest⟩
  · rintro ⟨s, found, rest⟩
    exact .step s found rest

/-- A pause by itself changes nothing of the view; what others do meanwhile is in the choice of the next state. -/
@[simp] theorem course_pause {w : Wait} {next : Routine σ α} :
    Course view (.pause w next) x a y ↔ Course view next x a y := by
  constructor
  · rintro (_ | _ | rest)
    exact rest
  · exact .pause

/-- **A course of two routines in a row** is a course of the first and, from the view where that ends, a course of
what it goes on with. The induction is on the steps of the first. -/
theorem course_bind (f : α → Routine σ β) {c : β} : ∀ (p : Routine σ α) {x : τ},
    Course view (p >>= f) x c y ↔ ∃ a z, Course view p x a z ∧ Course view (f a) z c y
  | .done a, x => by
    show Course view (f a) x c y ↔ _
    simp only [course_done]
    constructor
    · intro h
      exact ⟨a, x, ⟨rfl, rfl⟩, h⟩
    · rintro ⟨_, _, ⟨rfl, rfl⟩, h⟩
      exact h
  | .step act next, x => by
    show Course view (.step act fun b => next b >>= f) x c y ↔ _
    simp only [course_step, course_bind f (next _)]
    constructor
    · rintro ⟨s, found, a, z, h₁, h₂⟩
      exact ⟨a, z, ⟨s, found, h₁⟩, h₂⟩
    · rintro ⟨a, z, ⟨s, found, h₁⟩, h₂⟩
      exact ⟨s, found, a, z, h₁, h₂⟩
  | .pause w next, x => by
    show Course view (.pause w (next >>= f)) x c y ↔ _
    simp only [course_pause, course_bind f next]

/-- **A run is a course**: the states that its steps find are the very states that the steps before have left. -/
theorem run_course (view : σ → τ) : ∀ (p : Routine σ α) (s : σ),
    Course view p (view s) (p.run s).1 (view (p.run s).2)
  | .done a, s => .done a (view s)
  | .step act next, s => .step s rfl (run_course view (next (act s).1) (act s).2)
  | .pause _ next, s => .pause (run_course view next s)

end Routine

namespace Job

variable {α β : Type} {t : Job α} {s s' : Store} {a : α}

/-- **What a job can come to**, and the records that it can leave, whatever else of the fleet changes
meanwhile. -/
def Yields (t : Job α) (s : Store) (r : Except Halt α) (s' : Store) : Prop :=
  t.run.Course Fleet.store s r s'

/-- **A run of a job is one of its courses**, so whatever holds along all courses holds of every run from every
fleet. The converse fails, for in a run nothing changes between the steps. -/
theorem run_yields (t : Job α) (fl : Fleet) :
    t.Yields fl.store (t.run.run fl).1 (t.run.run fl).2.store :=
  Routine.run_course Fleet.store t.run fl

/-! ## Jobs taken apart -/

section Parts

variable {r : Except Halt α}

/-- A job that only gives a value has one course, along which the records stay as they are. -/
@[simp] theorem yields_pure : Yields (pure a) s r s' ↔ r = .ok a ∧ s' = s := Routine.course_done

/-- A job that fails has one course: it comes to its failure and leaves the records alone. -/
@[simp] theorem yields_fail {f : Failure} :
    Yields (fail f) s r s' ↔ r = .error (.failed f) ∧ s' = s := Routine.course_done

/-- What was found out beforehand becomes what the job comes to, without a look at the records. -/
@[simp] theorem yields_ofExcept {e : Except Failure α} :
    Yields (ofExcept e) s r s' ↔ r = e.mapError .failed ∧ s' = s := by
  cases e with
  | ok a => exact yields_pure
  | error f => exact yields_fail

/-- **What must fit changes nothing**: the job goes on with it, or it ends with the overflow. -/
@[simp] theorem yields_fitting {o : Option α} :
    Yields (fitting o) s r s' ↔ r = o.elim (.error .overflow) .ok ∧ s' = s := by
  cases o with
  | some a => exact yields_pure
  | none => exact Routine.course_done

/-- **A course of two jobs in a row**: the first fails, or the second goes on from where it ends. -/
@[simp] theorem yields_bind {t : Job β} {f : β → Job α} : Yields (t >>= f) s r s' ↔
    (∃ b z, Yields t s (.ok b) z ∧ Yields (f b) z r s') ∨
      ∃ e, Yields t s (.error e) s' ∧ r = .error e := by
  unfold Yields
  rw [ExceptT.run_bind, Routine.course_bind]
  constructor
  · rintro ⟨b | b, z, h₁, h₂⟩
    · obtain ⟨rfl, rfl⟩ := Routine.course_done.mp h₂
      exact .inr ⟨b, h₁, rfl⟩
    · exact .inl ⟨b, z, h₁, h₂⟩
  · rintro (⟨b, z, h₁, h₂⟩ | ⟨e, h, rfl⟩)
    · exact ⟨.ok b, z, h₁, h₂⟩
    · exact ⟨.error e, s', h, Routine.course_done.mpr ⟨rfl, rfl⟩⟩

/-- A job after one that only ever comes to one thing, the records being as they were, has the courses of the
second alone; so the reads and checks before a change drop out of its description. -/
theorem yields_bind_of_ok {t : Job β} {f : β → Job α} {b : β}
    (ht : ∀ q z, Yields t s q z ↔ q = .ok b ∧ z = s) :
    Yields (t >>= f) s r s' ↔ Yields (f b) s r s' := by
  simp only [yields_bind, ht]
  constructor
  · rintro (⟨_, _, ⟨hb, rfl⟩, h⟩ | ⟨_, ⟨he, _⟩, _⟩)
    · cases hb
      exact h
    · cases he
  · intro h
    exact .inl ⟨b, s, ⟨rfl, rfl⟩, h⟩

/-- One step finds some fleet with these records and does its work on it; the records it leaves are those of the
fleet it makes. -/
theorem yields_act {f : Fleet → α × Fleet} : Yields (act f) s r s' ↔
    ∃ fl, fl.store = s ∧ r = .ok (f fl).1 ∧ s' = (f fl).2.store := by
  unfold Yields act
  rw [ExceptT.run_mk, Routine.course_step]
  simp only [Routine.course_done]

/-- A look finds some fleet with these records and leaves it as it is. What is seen beside the records may be
anything. -/
theorem yields_look {f : Fleet → α} :
    Yields (look f) s r s' ↔ ∃ fl, fl.store = s ∧ r = .ok (f fl) ∧ s' = s := by
  rw [look, yields_act]
  constructor
  · rintro ⟨fl, rfl, hr, hs⟩
    exact ⟨fl, rfl, hr, hs⟩
  · rintro ⟨fl, rfl, hr, hs⟩
    exact ⟨fl, rfl, hr, hs⟩

/-- A step that may fail leaves the records of the fleet it makes in either case, also where it fails. -/
theorem yields_tryAct {f : Fleet → Except Failure α × Fleet} : Yields (tryAct f) s r s' ↔
    ∃ fl, fl.store = s ∧ r = (f fl).1.mapError .failed ∧ s' = (f fl).2.store := by
  simp only [tryAct, yields_bind, yields_act, yields_ofExcept]
  constructor
  · rintro (⟨_, _, ⟨fl, hfl, hb, rfl⟩, rfl, rfl⟩ | ⟨_, ⟨_, _, he, _⟩, _⟩)
    · cases hb
      exact ⟨fl, hfl, rfl, rfl⟩
    · cases he
  · rintro ⟨fl, hfl, rfl, rfl⟩
    exact .inl ⟨_, _, ⟨fl, hfl, rfl, rfl⟩, rfl, rfl⟩

/-- What a job comes to with its failures heard. Silence and an overflow are not heard: they end the job that
listens as they ended the one that it listened to. -/
def heard : Except Halt α → Except Halt (Except Failure α)
  | .ok a => .ok (.ok a)
  | .error (.failed f) => .ok (.error f)
  | .error .silent => .error .silent
  | .error .overflow => .error .overflow

/-- **To listen to a job** is to run along its courses, and to come to what is heard of it. -/
theorem yields_attempt {r : Except Halt (Except Failure α)} :
    Yields (attempt t) s r s' ↔ ∃ r', Yields t s r' s' ∧ r = heard r' := by
  unfold Yields attempt
  rw [ExceptT.run_mk, Routine.course_bind]
  constructor
  · rintro ⟨(f | _ | _) | b, z, h₁, h₂⟩ <;> obtain ⟨rfl, rfl⟩ := Routine.course_done.mp h₂ <;>
      exact ⟨_, h₁, rfl⟩
  · rintro ⟨r', h, rfl⟩
    refine ⟨r', s', h, ?_⟩
    obtain (f | _ | _) | b := r' <;> exact Routine.course_done.mpr ⟨rfl, rfl⟩

/-- **A job that listens to another is not ended by its failures**, for those it hears; only silence and an
overflow, which are not heard, end it too. -/
theorem untold_of_attempt {e : Halt} (h : Yields (attempt t) s (.error e) s') (f : Failure) : e ≠ .failed f := by
  obtain ⟨(f' | _ | _) | a, _, hheard⟩ := yields_attempt.mp h <;> cases hheard <;> exact nofun

/-- What a job comes to when it is given up in silence. Only silence can be waited for: an overflow ends the job
that waits. -/
def awaited : Except Halt α → Except Halt (Option (Except Failure α))
  | .ok a => .ok (some (.ok a))
  | .error (.failed f) => .ok (some (.error f))
  | .error .silent => .ok none
  | .error .overflow => .error .overflow

/-- To wait for a job for so many seconds is to run along its courses, and to come to what is awaited of it: here
a silent job is given up, and the one that waits goes on. -/
theorem yields_within {seconds : UInt64} {r : Except Halt (Option (Except Failure α))} :
    Yields (within seconds t) s r s' ↔ ∃ r', Yields t s r' s' ∧ r = awaited r' := by
  unfold Yields within
  rw [ExceptT.run_mk, Routine.course_bind]
  constructor
  · rintro ⟨(f | _ | _) | b, z, h₁, h₂⟩
    · obtain ⟨rfl, rfl⟩ := Routine.course_done.mp h₂
      exact ⟨_, h₁, rfl⟩
    · obtain ⟨rfl, rfl⟩ := Routine.course_done.mp (Routine.course_pause.mp h₂)
      exact ⟨_, h₁, rfl⟩
    · obtain ⟨rfl, rfl⟩ := Routine.course_done.mp h₂
      exact ⟨_, h₁, rfl⟩
    · obtain ⟨rfl, rfl⟩ := Routine.course_done.mp h₂
      exact ⟨_, h₁, rfl⟩
  · rintro ⟨r', h, rfl⟩
    refine ⟨r', s', h, ?_⟩
    obtain (f | _ | _) | b := r'
    · exact Routine.course_done.mpr ⟨rfl, rfl⟩
    · exact Routine.course_pause.mpr (Routine.course_done.mpr ⟨rfl, rfl⟩)
    · exact Routine.course_done.mpr ⟨rfl, rfl⟩
    · exact Routine.course_done.mpr ⟨rfl, rfl⟩

/-- A pause between two entries of a pass changes no record and comes to nothing. -/
theorem yields_pace {r : Except Halt Unit} : Yields pace s r s' ↔ r = .ok () ∧ s' = s :=
  Routine.course_pause.trans Routine.course_done

end Parts

/-! ## Records -/

section Records

variable {ρ F P : Type} [Record ρ F P] {shelf : Shelf ρ}

/-- What is asked of a shelf is answered from the records that the step finds, and they stay. -/
theorem yields_read {f : Repository ρ → α} {r : Except Halt α} :
    Yields (read shelf f) s r s' ↔ r = .ok (f (shelf.get s)) ∧ s' = s := by
  rw [read, yields_look]
  constructor
  · rintro ⟨fl, rfl, hr, rfl⟩
    exact ⟨hr, rfl⟩
  · rintro ⟨hr, rfl⟩
    exact ⟨{ (default : Fleet) with store := s' }, rfl, hr, rfl⟩

/-- A record that must be there is looked up among the live ones; a missing one is the failure of the job. -/
theorem yields_get {id : RecordId} {r : Except Halt ρ} :
    Yields (get shelf id) s r s' ↔ r = ((shelf.get s).get id).mapError .failed ∧ s' = s := by
  simp only [get, yields_bind, yields_read, yields_ofExcept]
  constructor
  · rintro (⟨_, _, ⟨hb, rfl⟩, rfl, rfl⟩ | ⟨_, ⟨he, _⟩, _⟩)
    · cases hb
      exact ⟨rfl, rfl⟩
    · cases he
  · rintro ⟨rfl, rfl⟩
    exact .inl ⟨_, _, ⟨rfl, rfl⟩, rfl, rfl⟩

/-- Where a live record has the identifier, to get it comes to that record and to nothing else. -/
theorem yields_get_of_find? {id : RecordId} {a : ρ} {r : Except Halt ρ}
    (h : (shelf.get s).find? id = some a) : Yields (get shelf id) s r s' ↔ r = .ok a ∧ s' = s := by
  rw [yields_get, Repository.get, h]
  rfl

/-- A record that a job has got was among the live records when it was looked up. -/
theorem get_ok {id : RecordId} {a : ρ} (h : Yields (get shelf id) s (.ok a) s') :
    (shelf.get s).find? id = some a := by
  obtain ⟨hr, _⟩ := yields_get.mp h
  unfold Repository.get at hr
  split at hr
  · rename_i b hfind
    rw [hfind, Except.ok.inj hr]
  · cases hr

/-- **A record that must be there is found and the job goes on**, or it fails for want of the record. -/
theorem yields_get_bind {id : RecordId} {f : ρ → Job α} {r : Except Halt α}
    (h : Yields (get shelf id >>= f) s r s') :
    (∃ a, (shelf.get s).find? id = some a ∧ Yields (f a) s r s') ∨
      ((shelf.get s).find? id = none ∧ r = .error (.failed (.notFound (Record.label ρ id))) ∧ s' = s) := by
  rw [yields_bind] at h
  simp only [yields_get, Repository.get] at h
  cases hfind : (shelf.get s).find? id with
  | none =>
    rw [hfind] at h
    obtain ⟨_, _, ⟨hr, _⟩, _⟩ | ⟨e, ⟨hr, rfl⟩, rfl⟩ := h
    · cases hr
    · cases hr
      exact .inr ⟨rfl, rfl, rfl⟩
  | some a =>
    rw [hfind] at h
    obtain ⟨_, _, ⟨hr, rfl⟩, h⟩ | ⟨e, ⟨hr, _⟩, _⟩ := h
    · cases hr
      exact .inl ⟨a, rfl, h⟩
    · cases hr

/-- A record that may be missing is looked up without a failure. -/
theorem yields_find? {id : RecordId} {r : Except Halt (Option ρ)} :
    Yields (find? shelf id) s r s' ↔ r = .ok ((shelf.get s).find? id) ∧ s' = s := yields_read

/-- **A change of a shelf** is made at some time that the clock shows, to the records that the step finds. The
other shelves stay, and a refused change leaves what the repository left. -/
theorem yields_write {f : Time.Instant → Repository ρ → Except Failure α × Repository ρ}
    {r : Except Halt α} : Yields (write shelf f) s r s' ↔
      ∃ now, r = (f now (shelf.get s)).1.mapError .failed ∧
        s' = shelf.set (f now (shelf.get s)).2 s := by
  rw [write, yields_tryAct]
  constructor
  · rintro ⟨fl, rfl, hr, hs⟩
    exact ⟨fl.now, hr, hs⟩
  · rintro ⟨now, hr, hs⟩
    exact ⟨{ (default : Fleet) with store := s, now := now }, rfl, hr, hs⟩

/-- **A live record is changed where it stands**: the patch is applied, the time of the change is stamped, and the
record keeps its place among the others. -/
theorem yields_update {id : RecordId} {p : P} {a : ρ} {r : Except Halt ρ}
    (h : (shelf.get s).find? id = some a) : Yields (update shelf id p) s r s' ↔
      ∃ now, r = .ok (Record.touch now (Record.patch p a)) ∧
        s' = shelf.set ((shelf.get s).put (Record.touch now (Record.patch p a))) s := by
  rw [update, yields_write]
  simp only [Repository.update_of_find? h]
  rfl

/-- A live record is overwritten where it stands, by a record with the same identifier and the time of the change. -/
theorem yields_replace {a b : ρ} {r : Except Halt ρ}
    (h : (shelf.get s).find? (Record.id b) = some a) : Yields (replace shelf b) s r s' ↔
      ∃ now, r = .ok (Record.touch now b) ∧
        s' = shelf.set ((shelf.get s).put (Record.touch now b)) s := by
  rw [replace, yields_write]
  simp only [Repository.replace_of_find? h]
  rfl

/-- Where no live record has the identifier, nothing is changed, and the job fails for want of the record. -/
theorem yields_update_none {id : RecordId} {p : P} {r : Except Halt ρ}
    (h : (shelf.get s).find? id = none) (hy : Yields (update shelf id p) s r s') :
    r = .error (.failed (.notFound (Record.label ρ id))) ∧ s' = shelf.set (shelf.get s) s := by
  obtain ⟨now, hr, hs⟩ := yields_write.mp hy
  rw [Repository.update_of_none h] at hr hs
  exact ⟨hr, hs⟩

end Records

/-! ## What holds along every course -/

section Preserves

variable {R : Store → Store → Prop}

/-- **The records found and the records left are related**, on every course. -/
def Preserves (R : Store → Store → Prop) (t : Job α) : Prop := ∀ s r s', t.Yields s r s' → R s s'

/-- **The records are left as they are**, on every course. -/
def Keeps (t : Job α) : Prop := t.Preserves Eq

/-- What leaves the records alone keeps every reflexive relation between what was found and what is left. -/
theorem Keeps.preserves [Std.Refl R] (h : Keeps t) : t.Preserves R := fun s r s' hy =>
  h s r s' hy ▸ Std.Refl.refl s

theorem preserves_pure [Std.Refl R] (a : α) : Preserves R (pure a : Job α) := fun _ _ _ h =>
  (yields_pure.mp h).2 ▸ Std.Refl.refl _

theorem preserves_fail [Std.Refl R] (f : Failure) : Preserves R (fail f : Job α) := fun _ _ _ h =>
  (yields_fail.mp h).2 ▸ Std.Refl.refl _

theorem preserves_ofExcept [Std.Refl R] (e : Except Failure α) : Preserves R (ofExcept e) :=
  fun _ _ _ h => (yields_ofExcept.mp h).2 ▸ Std.Refl.refl _

theorem preserves_fitting [Std.Refl R] (o : Option α) : Preserves R (fitting o) := fun _ _ _ h =>
  (yields_fitting.mp h).2 ▸ Std.Refl.refl _

/-- **A relation that can be chained holds across two jobs in a row** once it holds across each. With the laws for
single steps this takes a whole job apart. -/
theorem preserves_bind [IsTrans Store R] {t : Job β} {f : β → Job α} (ht : t.Preserves R)
    (hf : ∀ b, (f b).Preserves R) : Preserves R (t >>= f) := by
  intro s r s' h
  rcases yields_bind.mp h with ⟨b, z, h₁, h₂⟩ | ⟨e, h, _⟩
  · exact IsTrans.trans s z s' (ht s _ z h₁) (hf b z r s' h₂)
  · exact ht s _ s' h

/-- Whether failures are heard or end the job makes no difference to the records. -/
theorem preserves_attempt (h : t.Preserves R) : (attempt t).Preserves R := by
  intro s r s' hy
  obtain ⟨r', hy, _⟩ := yields_attempt.mp hy
  exact h s r' s' hy

/-- A job that is given up has changed the records by some of its courses, as one that was waited for. -/
theorem preserves_within {seconds : UInt64} (h : t.Preserves R) : (within seconds t).Preserves R := by
  intro s r s' hy
  obtain ⟨r', hy, _⟩ := yields_within.mp hy
  exact h s r' s' hy

/-- What is done at the end, whatever the job came to, must not touch the records; the rest is the job's own. -/
theorem preserves_ensuring {last : Fleet → Fleet} (hlast : ∀ fl, (last fl).store = fl.store)
    (h : t.Preserves R) : (ensuring last t).Preserves R := by
  intro s r s' hy
  unfold Yields ensuring at hy
  rw [ExceptT.run_mk, Routine.course_bind] at hy
  obtain ⟨r', z, h₁, hy⟩ := hy
  obtain ⟨_, _, hact, hy⟩ := (Routine.course_bind _ _).mp hy
  obtain ⟨fl, rfl, hdone⟩ := Routine.course_step.mp hact
  obtain ⟨_, rfl⟩ := Routine.course_done.mp hdone
  obtain ⟨_, rfl⟩ := Routine.course_done.mp hy
  exact hlast fl ▸ h s r' _ h₁

theorem keeps_look (f : Fleet → α) : Keeps (look f) := fun _ _ _ h => by
  obtain ⟨_, _, _, rfl⟩ := yields_look.mp h
  rfl

/-- A step keeps the records as long as the fleet that it makes has the records that it found. -/
theorem keeps_act {f : Fleet → α × Fleet} (hf : ∀ fl, (f fl).2.store = fl.store) : Keeps (act f) :=
  fun _ _ _ h => by
    obtain ⟨fl, rfl, _, rfl⟩ := yields_act.mp h
    exact (hf fl).symm

/-- A job after one that leaves the records as they are: either it starts from the records that the first found,
or the first has failed and nothing has changed. -/
theorem yields_bind_keeps {t : Job β} {f : β → Job α} {r : Except Halt α} (ht : t.Keeps)
    (h : Yields (t >>= f) s r s') :
    (∃ b, t.Yields s (.ok b) s ∧ Yields (f b) s r s') ∨
      ∃ e, t.Yields s (.error e) s ∧ r = .error e ∧ s' = s := by
  rcases yields_bind.mp h with ⟨b, z, h₁, h₂⟩ | ⟨e, h₁, hr⟩
  · obtain rfl := ht _ _ _ h₁
    exact .inl ⟨b, h₁, h₂⟩
  · obtain rfl := ht _ _ _ h₁
    exact .inr ⟨e, h₁, hr, rfl⟩

theorem keeps_pace : Keeps pace := fun _ _ _ h => (yields_pace.mp h).2.symm

/-- To look a record up changes none, whether it is there or not. -/
theorem keeps_get {ρ F P : Type} [Record ρ F P] (shelf : Shelf ρ) (id : RecordId) :
    Keeps (get shelf id) :=
  preserves_bind (keeps_look _) preserves_ofExcept

theorem keeps_list {ρ F P : Type} [Record ρ F P] (shelf : Shelf ρ) (f : F) : Keeps (list shelf f) :=
  keeps_look _

end Preserves

/-! ## Engines -/

/-- An engine's answer changes the engine and never the records, for the two are separate parts of the fleet. -/
theorem keeps_call {address : String} {c : Engine.Call α} : Keeps (call address c) :=
  preserves_bind (keeps_act fun _ => rfl) preserves_ofExcept

/-- A dialog is one call after another, and so it leaves the records as each call does; the induction is on the
calls that it makes. -/
theorem keeps_dialog (address : String) : ∀ d : Engine.Dialog α, Keeps (dialog address d)
  | .done a => preserves_pure a
  | .ask _ next => preserves_bind (keeps_act fun _ => rfl) fun r => keeps_dialog address (next r)

/-- To open a node's engine is to look at the node's credentials only. -/
theorem keeps_openEngine (n : Node) : Keeps (openEngine n) := by
  unfold openEngine
  split
  · exact preserves_fail _
  · refine preserves_bind (keeps_look _) fun isSilent => ?_
    split
    · exact fun _ _ _ h => (Routine.course_done.mp h).2.symm
    · exact preserves_pure _

theorem keeps_testEngine (n : Node) : Keeps (testEngine n) := by
  refine preserves_bind (preserves_attempt (preserves_bind (keeps_openEngine n) fun _ => keeps_call))
    fun r => ?_
  split
  · exact preserves_pure _
  · exact preserves_pure _

/-- A call to the engine of a node, opened for it, changes no record. -/
theorem keeps_onNode (n : Node) (c : Engine.Call α) : Keeps (onNode n c) :=
  preserves_bind (keeps_openEngine n) fun _ => keeps_call

/-- **Making a unit touches no record**, whatever its engine answers, and also where there is no plan for it. -/
theorem keeps_provision (c : EngineSettings) (n : Node) (spec : Spec) (i : Image) (name : String) :
    Keeps (provision c n spec i name) :=
  preserves_bind (keeps_openEngine n) fun _ => preserves_bind (preserves_fitting _) fun _ =>
    preserves_bind (keeps_dialog _ _) preserves_ofExcept

/-- **Taking a unit down touches no record**, whatever its engine answers to the single calls. -/
theorem keeps_teardown (c : EngineSettings) (n : Node) (unit : String) (name : Option String) :
    Keeps (teardown c n unit name) :=
  preserves_bind (keeps_openEngine n) fun _ => keeps_dialog _ _

/-- To ask for the state of a unit changes no record. -/
theorem keeps_unitState (n : Node) (unit : String) : Keeps (unitState n unit) :=
  preserves_bind (keeps_openEngine n) fun _ => preserves_bind (keeps_dialog _ _) preserves_ofExcept

/-- **What comes of a dialog**, whatever its engine goes through meanwhile: an answer that the dialog can come to,
for a dialog by itself neither fails nor overflows. -/
theorem yields_dialog {address : String} {r : Except Halt α} : ∀ {d : Engine.Dialog α} {s : Store},
    Yields (dialog address d) s r s' → ∃ a, r = .ok a ∧ d.Comes a
  | .done a, _, h => ⟨a, (yields_pure.mp h).1, .done a⟩
  | .ask c next, _, h => by
    rcases yields_bind.mp h with ⟨answer, z, hact, hrest⟩ | ⟨e, hact, _⟩
    · obtain ⟨fl, _, hanswer, _⟩ := yields_act.mp hact
      obtain ⟨a, hr, hcomes⟩ := yields_dialog hrest
      cases hanswer
      exact ⟨a, hr, .ask (fl.engineAt address) hcomes⟩
    · obtain ⟨_, _, he, _⟩ := yields_act.mp hact
      cases he

/-- **A unit that is made has an identifier**: an empty one in an engine's answer counts as a failure. -/
theorem provision_ok {c : EngineSettings} {n : Node} {spec : Spec} {i : Image} {name unit : String}
    (h : Yields (provision c n spec i name) s (.ok unit) s') : unit ≠ "" := by
  rcases yields_bind.mp h with ⟨address, z, _, h⟩ | ⟨_, _, hr⟩
  · rcases yields_bind.mp h with ⟨plan, z₁, _, h⟩ | ⟨_, _, hr⟩
    · rcases yields_bind.mp h with ⟨made, z₂, hdialog, h⟩ | ⟨_, _, hr⟩
      · obtain ⟨_, hmade, hcomes⟩ := yields_dialog hdialog
        cases hmade
        cases made with
        | ok id =>
          cases (yields_ofExcept.mp h).1
          exact Engine.Unit.provision_ok hcomes
        | error e => cases (yields_ofExcept.mp h).1
      · cases hr
    · cases hr
  · cases hr

end Job

end FleetControl
