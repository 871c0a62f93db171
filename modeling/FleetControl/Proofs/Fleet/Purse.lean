import FleetControl.Proofs.Engine.Log
import FleetControl.Proofs.Fleet.Inquiry

/-!
# What a job asks of an engine

`Job.Spends` counts the calls of one kind that a job makes, as credits: the job is given a purse, pays for
each call out of it, and leaves the rest to what comes after it. The laws below take a job apart; a call is
the one thing that costs (`Job.spends_call`). A job that spends makes its calls to one engine, and leaves
the other engines, the steady clock and the cache of statistics alone (`Fleet.Noted`).
-/

namespace FleetControl

open Engine (times toll)

/-- **Lines were added to what one engine has written down**, and the other engines, the steady clock and
the cache are as they were. -/
structure Fleet.Noted (address : String) (lines : List String) (fl fl' : Fleet) : Prop where
  calls : (fl'.engineAt address).calls = (fl.engineAt address).calls ++ lines
  others : ∀ a, a ≠ address → fl'.engineAt a = fl.engineAt a
  ticks : fl'.ticks = fl.ticks
  cache : fl'.cache = fl.cache

variable {address : String}

/-- Nothing was written down, and nothing has changed. -/
theorem Fleet.Noted.refl (fl : Fleet) : Fleet.Noted address [] fl fl :=
  ⟨(List.append_nil _).symm, fun _ _ => rfl, rfl, rfl⟩

/-- What was written down first stands before what was written down later. -/
theorem Fleet.Noted.trans {lines more : List String} {fl fl' fl'' : Fleet}
    (h : Fleet.Noted address lines fl fl') (h' : Fleet.Noted address more fl' fl'') :
    Fleet.Noted address (lines ++ more) fl fl'' where
  calls := by rw [h'.calls, h.calls, List.append_assoc]
  others a ha := (h'.others a ha).trans (h.others a ha)
  ticks := h'.ticks.trans h.ticks
  cache := h'.cache.trans h.cache

/-- The host, on which programs are started, is no engine, so what becomes of it costs nothing. -/
theorem Fleet.noted_host (fl : Fleet) (host : Host) : Fleet.Noted address [] fl { fl with host } :=
  ⟨(List.append_nil _).symm, fun _ _ => rfl, rfl, rfl⟩

instance : IsPreorder Fleet (Fleet.Noted address []) where
  refl := .refl
  trans _ _ _ h h' := h.trans h'

namespace Job

variable {α β : Type} {t : Job α} {a : α} {word : String} {purse : Nat} {holds : α → Nat → Prop}

/-- **A job stays within a purse**, from any fleet: it makes at most so many calls of one kind, to one
engine alone, and `holds` of its result and what is left of the purse. -/
def Spends (address word : String) (purse : Nat) (holds : α → Nat → Prop) (t : Job α) : Prop :=
  ∀ fl, ∃ lines, Fleet.Noted address lines fl (t.run.run fl).2 ∧ times word lines ≤ purse ∧
    ∀ a, (t.run.run fl).1 = .ok a → holds a (purse - times word lines)

/-- A job that only gives a value leaves its purse as it was. -/
theorem spends_pure (h : holds a purse) : (pure a : Job α).Spends address word purse holds := by
  intro fl
  refine ⟨[], .refl fl, Nat.zero_le _, ?_⟩
  rintro _ ⟨⟩
  exact h

/-- A job that fails need not say what is left. -/
theorem spends_fail (f : Failure) : (fail f : Job α).Spends address word purse holds :=
  fun fl => ⟨[], .refl fl, Nat.zero_le _, nofun⟩

/-- **The second job pays out of what the first left**, so the purse of both is that of the first. -/
theorem spends_bind {left : β → Nat → Prop} {t : Job β} {f : β → Job α}
    (ht : t.Spends address word purse left)
    (hf : ∀ b rest, left b rest → (f b).Spends address word rest holds) :
    (t >>= f).Spends address word purse holds := by
  intro fl
  obtain ⟨lines, hnoted, hpaid, hleft⟩ := ht fl
  rw [run_bind]
  rcases hrun : t.run.run fl with ⟨e | b, fl'⟩
  · rw [hrun] at hnoted
    exact ⟨lines, hnoted, hpaid, nofun⟩
  · rw [hrun] at hnoted hleft
    obtain ⟨more, hmore, hpaid', hholds⟩ := hf b _ (hleft b rfl) fl'
    refine ⟨lines ++ more, hnoted.trans hmore, ?_, fun a ha => ?_⟩
    · rw [Engine.times_append]
      omega
    · rw [Engine.times_append, ← Nat.sub_sub]
      exact hholds a ha

/-- **A job that asks nothing leaves the purse to the second.** -/
theorem spends_bind_of_leads {P : β → Prop} {t : Job β} {f : β → Job α}
    (ht : t.Leads (Fleet.Noted address [])) (hP : ∀ fl b, (t.run.run fl).1 = .ok b → P b)
    (hf : ∀ b, P b → (f b).Spends address word purse holds) :
    (t >>= f).Spends address word purse holds := by
  have hidle : t.Spends address word purse fun b rest => P b ∧ rest = purse :=
    fun fl => ⟨[], ht fl, Nat.zero_le _, fun b hb => ⟨hP fl b hb, rfl⟩⟩
  refine spends_bind hidle ?_
  rintro b _ ⟨hb, rfl⟩
  exact hf b hb

/-- A call is written down where it is made, whatever comes of it. -/
theorem call_noted (address : String) (c : Engine.Call β) (fl : Fleet) : ∃ line,
    Engine.firstWord line = c.word ∧
      Fleet.Noted address [line] fl ((call address c).run.run fl).2 := by
  obtain ⟨line, hcalls, hword⟩ := Engine.answer_log c (fl.engineAt address)
  have hengines := (fl.became_setEngine address ((fl.engineAt address).answer c).2).engineAt
  rw [run_call]
  refine ⟨line, hword, ?_, fun a ha => ?_, rfl, rfl⟩
  · rw [hengines, Function.update_self, hcalls]
  · rw [hengines, Function.update_of_ne ha]

/-- **A call costs what calls of its kind cost.** -/
theorem spends_call {c : Engine.Call β} (h : toll word c.word ≤ purse) :
    (call address c).Spends address word purse fun _ rest => rest = purse - toll word c.word := by
  intro fl
  obtain ⟨line, hword, hnoted⟩ := call_noted address c fl
  refine ⟨[line], hnoted, ?_, fun _ _ => ?_⟩
  · rwa [Engine.times_singleton, hword]
  · rw [Engine.times_singleton, hword]

/-- A call that fails has cost as much. -/
theorem spends_attempt_call {c : Engine.Call β} (h : toll word c.word ≤ purse) :
    (attempt (call address c)).Spends address word purse fun _ rest => rest = purse - toll word c.word := by
  intro fl
  obtain ⟨line, hword, hnoted⟩ := call_noted address c fl
  rw [run_attempt]
  refine ⟨[line], hnoted, ?_, fun _ _ => ?_⟩
  · rwa [Engine.times_singleton, hword]
  · rw [Engine.times_singleton, hword]

/-- An engine that opens gives its address. -/
theorem openEngine_ok {n : Node} {fl : Fleet} {a : String} (h : ((openEngine n).run.run fl).1 = .ok a) :
    a = n.engineAddress := by
  rcases run_openEngine_cases n fl with ⟨e, hrun⟩ | ⟨-, hrun⟩
  · rw [hrun] at h
    cases h
  · rw [hrun] at h
    exact (Except.ok.inj h).symm

/-- Opening an engine costs nothing. -/
theorem spends_openEngine {n : Node} {f : String → Job α}
    (hf : (f n.engineAddress).Spends address word purse holds) :
    (openEngine n >>= f).Spends address word purse holds := by
  refine spends_bind_of_leads (leads_openEngine n) (fun fl a => openEngine_ok) ?_
  rintro a rfl
  exact hf

/-- Trying whether an engine opens costs nothing. -/
theorem spends_attempt_openEngine {n : Node} {f : Except Failure String → Job α}
    (hok : (f (.ok n.engineAddress)).Spends address word purse holds)
    (herror : ∀ e, (f (.error e)).Spends address word purse holds) :
    (attempt (openEngine n) >>= f).Spends address word purse holds := by
  have hopened : ∀ (fl : Fleet) r, ((attempt (openEngine n)).run.run fl).1 = .ok r →
      ∀ a, r = .ok a → a = n.engineAddress := by
    rintro fl r h a rfl
    rw [run_attempt] at h
    exact openEngine_ok (ok_of_heard h)
  refine spends_bind_of_leads (leads_attempt (leads_openEngine n)) hopened ?_
  rintro (e | a) h
  · exact herror e
  · obtain rfl := h a rfl
    exact hok

end Job

end FleetControl
