import FleetControl.Proofs.Engine.Exchange
import FleetControl.Proofs.Terminal.Settling
import FleetControl.Terminal.Session

/-!
# Sessions pump faithfully

Where the pumps settle after everything that happens to a session, they have gone one of the ways that
terminals may go (`Settles`). So a session that was opened loses, repeats and reorders nothing, and the
engine is asked for each new size in turn (`serves_faithfully`).
-/

namespace FleetControl.Terminal

open Engine (Call Dialog)

namespace Pumps

/-- What was issued stays so: a step adds an errand behind all others, or none. -/
theorem InputStep.issued_isPrefix {m : Move} {p q : Pumps} (h : InputStep m p q) :
    p.issued <+: q.issued := by
  cases h with
  | issue e answer hinput hanswer => exact List.prefix_append _ _
  | rest | take | write | ignore | fail | close | stop => exact List.prefix_rfl

/-- The output's pump issues nothing. -/
theorem OutputStep.issued_eq {m : Move} {p q : Pumps} (h : OutputStep m p q) : q.issued = p.issued := by
  cases h <;> rfl

theorem issued_isPrefix_move (p : Pumps) (m : Move) : p.issued <+: (p.move m).issued := by
  cases m with
  | stepInput => exact (inputStep_stepInput .stepInput p).issued_isPrefix
  | write n => exact (inputStep_write (.write n) p n).issued_isPrefix
  | failInput => exact (inputStep_failInput p).issued_isPrefix
  | stopInput => exact (inputStep_stopInput .stopInput p).issued_isPrefix
  | stepOutput => exact (outputStep_stepOutput .stepOutput p).issued_eq ▸ List.prefix_rfl
  | failOutput => exact (outputStep_failOutput p).issued_eq ▸ List.prefix_rfl
  | stopOutput => exact (outputStep_stopOutput .stopOutput p).issued_eq ▸ List.prefix_rfl
  | endCaller | deafenCaller | endUnit => exact List.prefix_rfl
  | frame f | chunk bytes =>
    rw [move]
    split <;> exact List.prefix_rfl

/-- Moves add errands behind all others, so those that are new are the rest after what was there. -/
theorem issued_isPrefix_moves (ms : List Move) : ∀ p : Pumps, p.issued <+: (p.moves ms).issued := by
  induction ms with
  | nil => exact fun _ => List.prefix_rfl
  | cons m ms ih => exact fun p => (p.issued_isPrefix_move m).trans (ih (p.move m))

end Pumps

/-! ## Moves with the pumps settling in between -/

/-- **The moves `run` are the moves `ms` with the pumps settling in between.** -/
structure Settles (ms run : List Move) : Prop where
  offered : offered run = offered ms
  emitted : emitted run = emitted ms
  mem : ∀ m, m ∉ settling → (m ∈ run ↔ m ∈ ms)

/-- Settling brings no frame and no output and ends neither side, so it gives no pump a reason to stop. -/
theorem inner_of_mem_settling {m : Move} (hm : m ∈ settling) : Pumps.Inner m := by
  simp only [settling, List.mem_cons, List.not_mem_nil, or_false] at hm
  rcases hm with rfl | rfl | rfl | rfl <;> exact ⟨rfl, rfl, by decide, by decide⟩

/-- Nothing has happened yet. -/
theorem Settles.nil : Settles [] [] := ⟨rfl, rfl, fun _ _ => Iff.rfl⟩

/-- Settling brings nothing, so the same things have happened after it. -/
theorem Settles.settle {ms run inner : List Move} (h : Settles ms run)
    (hinner : ∀ m ∈ inner, m ∈ settling) : Settles ms (run ++ inner) := by
  induction inner using List.reverseRecOn with
  | nil => rwa [List.append_nil]
  | append_singleton inner m ih =>
    have hm := hinner m (by simp)
    have hbefore := ih fun i hi => hinner i (by simp [hi])
    have hquiet := inner_of_mem_settling hm
    rw [← List.append_assoc]
    refine ⟨?_, ?_, fun i hi => ?_⟩
    · rw [offered_snoc_of_none hquiet.frame, hbefore.offered]
    · rw [emitted_snoc_of_nil hquiet.output, hbefore.emitted]
    · have hne : i ≠ m := fun heq => hi (heq ▸ hm)
      simpa [hne] using hbefore.mem i hi

/-- Something happens, with no settling in between. -/
theorem Settles.move {ms run : List Move} (h : Settles ms run) (m : Move) :
    Settles (ms ++ [m]) (run ++ [m]) where
  offered := by
    have hend : .endCaller ∈ run ↔ .endCaller ∈ ms := h.mem .endCaller (by decide)
    simp only [offered_snoc, h.offered, hend]
  emitted := by
    have hend : .endUnit ∈ run ↔ .endUnit ∈ ms := h.mem .endUnit (by decide)
    simp only [emitted_snoc, h.emitted, hend]
  mem i hi := by simp [h.mem i hi]

/-- What is a reason after the moves with the settling is one after the moves alone: no reason is made by
settling. -/
theorem Pumps.InputDone.of_settles {ms run : List Move} {taken : List ClientFrame} {p : Pumps}
    (hsettles : Settles ms run) (h : InputDone run taken p) : InputDone ms taken p := by
  have hmem : ∀ m, m ∉ settling → m ∈ run → m ∈ ms := fun m hm => (hsettles.mem m hm).mp
  cases h with
  | closed hclose => exact .closed hclose
  | refused hlost hcause => exact .refused hlost (hcause.imp (hmem _ (by decide)) (hmem _ (by decide)))
  | drained hend hframes => exact .drained (hmem _ (by decide) hend) hframes

/-- The same of the output's pump. -/
theorem Pumps.OutputDone.of_settles {ms run : List Move} {p : Pumps} (hsettles : Settles ms run)
    (h : OutputDone run p) : OutputDone ms p := by
  have hmem : ∀ m, m ∉ settling → m ∈ run → m ∈ ms := fun m hm => (hsettles.mem m hm).mp
  cases h with
  | refused hcause => exact .refused (hcause.imp (hmem _ (by decide)) (hmem _ (by decide)))
  | drained hend hchunks => exact .drained (hmem _ (by decide) hend) hchunks

/-- Settling in between loses, repeats and reorders nothing: frames, output and ends are those of the moves alone. -/
theorem Pumps.Faithful.of_settles {notices : List String} {ms run : List Move}
    {taken : List ClientFrame} {p : Pumps} (hsettles : Settles ms run)
    (h : Faithful notices run taken p) : Faithful notices ms taken p where
  order := hsettles.offered ▸ h.order
  received := hsettles.offered ▸ h.received
  unwritten := h.unwritten
  closed := hsettles.offered ▸ h.closed
  issued := h.issued
  answers := by
    have hdeaf : .deafenCaller ∈ run ↔ .deafenCaller ∈ ms := hsettles.mem _ (by decide)
    have hfail : .failInput ∈ run ↔ .failInput ∈ ms := hsettles.mem _ (by decide)
    simpa only [hdeaf, hfail] using h.answers
  shown := hsettles.emitted ▸ h.shown
  unsent := hsettles.emitted ▸ h.unsent
  inputEnded hended := (h.inputEnded hended).imp (·.of_settles hsettles) (.imp_right (·.of_settles hsettles))
  outputEnded hended := (h.outputEnded hended).imp (·.of_settles hsettles) (.imp_right (·.of_settles hsettles))

/-! ## Sessions -/

namespace Session

/-- The engine's line for an errand: only new sizes are for the engine. -/
def line? (shell : String) : Errand → Option String
  | .resize rows cols => some (Call.resize shell rows cols).line
  | .pong => none

/-- **The engine is asked for the sizes that are new**, each once and in their order; answers to pings are not for
it. -/
theorem calls_askResizes (shell : String) (p old : Pumps) (e : Engine) :
    (askResizes shell (p.resizesSince old) e).calls =
      e.calls ++ (p.issued.drop old.issued.length).filterMap (line? shell) := by
  rw [askResizes, Engine.calls_each, Pumps.resizesSince, List.map_map, List.map_filterMap]
  congr 2
  funext errand
  cases errand <;> rfl

/-- **What a session has come to** after moves, from where it began. -/
structure Served (first : Session) (shell : String) (ms : List Move) (s : Session) : Prop where
  shell_eq : s.shell = .ok shell
  pumps : ∃ run, Settles ms run ∧ s.pumps = first.pumps.moves run
  calls : ∃ later, s.pumps.issued = first.pumps.issued ++ later ∧
    s.engine.calls = first.engine.calls ++ later.filterMap (line? shell)

/-- **One more thing happens to a session**: the pumps move and settle, and the engine is asked for what they
issued meanwhile. -/
theorem Served.feed {first s : Session} {shell : String} {ms : List Move}
    (h : Served first shell ms s) (m : Move) : Served first shell (ms ++ [m]) (s.feed m) := by
  obtain ⟨run, hsettles, hpumps⟩ := h.pumps
  obtain ⟨later, hissued, hcalls⟩ := h.calls
  obtain ⟨inner, hsettle, hinner⟩ := (s.pumps.move m).settle_eq_moves
  have hmoves : (s.pumps.move m).settle = s.pumps.moves (m :: inner) := hsettle
  obtain ⟨more, hmore⟩ := s.pumps.issued_isPrefix_moves (m :: inner)
  rw [Session.feed, h.shell_eq]
  dsimp only
  refine ⟨rfl, ⟨run ++ [m] ++ inner, (hsettles.move m).settle hinner, ?_⟩, ⟨later ++ more, ?_, ?_⟩⟩
  · rw [hmoves, hpumps, ← Pumps.moves_append, List.append_assoc]
    rfl
  · rw [hmoves, ← hmore, hissued, List.append_assoc]
  · rw [calls_askResizes, hcalls, hmoves, ← hmore, List.drop_left, List.filterMap_append,
      List.append_assoc]

/-- What a session has come to after all that happened, one thing after another. -/
theorem served_foldl (first : Session) {shell : String} (hshell : first.shell = .ok shell)
    (ms : List Move) : Served first shell ms (ms.foldl feed first) := by
  induction ms using List.reverseRecOn with
  | nil => exact ⟨hshell, ⟨[], .nil, rfl⟩, ⟨[], by simp, by simp⟩⟩
  | append_singleton ms m ih =>
    rw [List.foldl_append]
    exact ih.feed m

/-- Between the moves the pumps of a session rest: a session settles after every one of them. -/
theorem atRest_foldl {first : Session} {shell : String} {notices : List String} (hshell : first.shell = .ok shell)
    (hpumps : first.pumps = { sent := notices.map .text }) (ms : List Move) :
    (ms.foldl feed first).pumps.AtRest := by
  rcases List.eq_nil_or_concat ms with rfl | ⟨before, m, rfl⟩
  · show first.pumps.AtRest
    rw [hpumps]
    exact .inr ⟨⟨rfl, rfl, rfl⟩, rfl, rfl, rfl⟩
  · have hserved := served_foldl first hshell before
    obtain ⟨run, _, hrun⟩ := hserved.pumps
    rw [List.concat_eq_append, List.foldl_append]
    show (feed (before.foldl feed first) m).pumps.AtRest
    rw [feed, hserved.shell_eq]
    dsimp only
    rw [hrun, hpumps]
    exact ((Pumps.balanced_moves notices run).move m).atRest

/-- **A session that was opened loses, repeats and reorders nothing**: its pumps have been faithful and rest, and the
engine is asked for each new size in turn. -/
theorem serves_faithfully (container : String) (requested : Option String) (e : Engine)
    {shell : String} (hshell : (start container requested e).shell = .ok shell) (ms : List Move) :
    let first := start container requested e
    let s := ms.foldl feed first
    s.engine.calls = first.engine.calls ++ s.pumps.issued.filterMap (line? shell) ∧ s.pumps.AtRest ∧
      ∃ taken, s.pumps.Faithful (e.run (Opening.dialog container requested)).1.notices ms taken := by
  have hserved := served_foldl _ hshell ms
  obtain ⟨run, hsettles, hpumps⟩ := hserved.pumps
  obtain ⟨later, hissued, hcalls⟩ := hserved.calls
  have hlater : ((ms.foldl feed (start container requested e)).pumps).issued = later := hissued
  refine ⟨hlater ▸ hcalls, atRest_foldl hshell rfl ms, ?_⟩
  obtain ⟨taken, hfaithful⟩ :=
    (Pumps.balanced_moves (e.run (Opening.dialog container requested)).1.notices run).faithful
  refine ⟨taken, .of_settles hsettles ?_⟩
  rw [hpumps]
  exact hfaithful

end Session

end FleetControl.Terminal
