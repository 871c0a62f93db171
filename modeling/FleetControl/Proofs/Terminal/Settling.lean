import FleetControl.Proofs.Terminal.Pumps

/-!
# Pumps come to rest

Balances say where bytes are, not that they move: a pump that never took a frame would keep them all. So it is
counted how much work a pump has left (`inputWork`, `outputWork`). A step of a pump that does not rest leaves
less of it, and the steps that `Pumps.settle` allows are enough for both.

A terminal that has settled is over, or both its pumps have taken all there is and wait for sides that may
still say something (`AtRest`). With what the balances say of every way there, this is the law of the pumps
(`faithful_moves`).
-/

namespace FleetControl.Terminal

/-- What the pumps do when they settle. -/
def settling : List Move := [.stepInput, .stepOutput, .stopInput, .stopOutput]

namespace Pumps

variable {p : Pumps} {notices : List String} {ms : List Move}

theorem moves_append (p : Pumps) (ms more : List Move) :
    p.moves (ms ++ more) = (p.moves ms).moves more := List.foldl_append

/-- **Settling is one way to go on.** -/
theorem settle_eq_moves (p : Pumps) :
    ∃ inner, p.settle = p.moves inner ∧ ∀ m ∈ inner, m ∈ settling := by
  unfold settle
  dsimp only
  rw [← moves_append, ← moves_append]
  refine ⟨_, rfl, fun m hm => ?_⟩
  rw [List.mem_append, List.mem_append, List.mem_replicate, List.mem_replicate] at hm
  rcases hm with ⟨-, rfl⟩ | ⟨-, rfl⟩ | hm
  · simp [settling]
  · simp [settling]
  · simp only [List.mem_cons, List.not_mem_nil, or_false] at hm
    rcases hm with rfl | rfl <;> simp [settling]

/-! ## Work that is left -/

/-- The steps that a pump has left by its phase: to do what it does, and to find the end. -/
def phaseWork {α : Type} : Phase α → Nat
  | .waiting => 1
  | .doing _ => 2
  | .ended => 0

/-- Whatever a pump is at, two steps are enough to do it and to find the end. -/
theorem phaseWork_le {α : Type} (x : Phase α) : phaseWork x ≤ 2 := by
  cases x <;> simp [phaseWork]

/-- The steps that the input's pump has left: two for a frame, to take it and to do what it asks for. -/
def inputWork (p : Pumps) : Nat := 2 * p.frames.length + phaseWork p.input

/-- The steps that the output's pump has left, at most: two for each byte, which may come in a piece of its own. -/
def outputWork (p : Pumps) : Nat := 2 * p.chunks.flatten.length + phaseWork p.output

/-- **The input's pump rests**: it has ended, or it has taken all frames of a caller who may send more. -/
def InputRests (p : Pumps) : Prop :=
  p.input = .ended ∨ p.input = .waiting ∧ p.frames = [] ∧ p.callerEnded = false

/-- **The output's pump rests**: it has ended, or it has read all output of a unit that may say more. -/
def OutputRests (p : Pumps) : Prop :=
  p.output = .ended ∨ p.output = .waiting ∧ p.chunks = [] ∧ p.unitEnded = false

/-- A pump at rest stays there. -/
theorem InputRests.stepInput (h : p.InputRests) : p.stepInput = p := by
  unfold Pumps.stepInput
  rcases h with hended | ⟨hwaits, hframes, hopen⟩
  · rw [hended]
  · rw [hwaits, hframes, hopen]
    rfl

/-- The output's pump at rest stays there too. -/
theorem OutputRests.stepOutput (h : p.OutputRests) : p.stepOutput = p := by
  unfold Pumps.stepOutput
  rcases h with hended | ⟨hwaits, hchunks, hopen⟩
  · rw [hended]
  · rw [hwaits, hchunks, hopen]
    rfl

/-- **A step of the input's pump leaves less to do**, unless the pump rests. -/
theorem inputWork_stepInput (h : ¬ p.InputRests) : p.stepInput.inputWork < p.inputWork := by
  unfold stepInput inputWork
  cases hinput : p.input with
  | ended => exact absurd (.inl hinput) h
  | waiting =>
    cases hframes : p.frames with
    | cons f behind =>
      simp only [List.length_cons, phaseWork]
      omega
    | nil =>
      have hended : p.callerEnded = true :=
        Bool.of_not_eq_false fun hopen => h (.inr ⟨hinput, hframes, hopen⟩)
      simp [hended, endInput, hframes, phaseWork]
  | doing a =>
    cases a with
    | keys bytes =>
      dsimp only
      split
      · simp [phaseWork]
      · split <;> simp [endInput, phaseWork]
    | errand e =>
      cases e with
      | resize rows cols => simp [perform, issue, phaseWork]
      | pong =>
        dsimp only [perform, send]
        split <;> simp [issue, phaseWork]
    | ignore => simp [phaseWork]
    | stop => simp [endInput, phaseWork]

/-- **A step of the output's pump leaves less to do**, unless the pump rests. A piece that is read has at least a
byte. -/
theorem outputWork_stepOutput (hpieces : ∀ c ∈ p.chunks, c ≠ []) (h : ¬ p.OutputRests) :
    p.stepOutput.outputWork < p.outputWork := by
  unfold stepOutput outputWork
  cases houtput : p.output with
  | ended => exact absurd (.inl houtput) h
  | waiting =>
    cases hchunks : p.chunks with
    | cons c behind =>
      have hpiece : 0 < c.length := List.length_pos_iff.mpr (hpieces c (hchunks ▸ List.mem_cons_self))
      dsimp only
      split
      · simp only [List.flatten_cons, List.length_append, phaseWork]
        omega
      · simp only [List.flatten_cons, List.length_append, List.length_drop, phaseWork, bufferSize]
        omega
    | nil =>
      have hended : p.unitEnded = true :=
        Bool.of_not_eq_false fun hopen => h (.inr ⟨houtput, hchunks, hopen⟩)
      simp [hended, endOutput, hchunks, phaseWork]
  | doing piece =>
    dsimp only
    split
    · simp [endOutput, phaseWork]
    · simp [send, ‹¬ p.callerDeaf = true›, phaseWork]

/-! ## As many steps as there is work -/

/-- A move that changes nothing changes nothing when it is made again. -/
theorem moves_replicate_of_fixed {m : Move} (h : p.move m = p) : ∀ n, p.moves (List.replicate n m) = p
  | 0 => rfl
  | n + 1 => by
    show (p.move m).moves (List.replicate n m) = p
    rw [h]
    exact moves_replicate_of_fixed h n

/-- **A pump that has no more work left than steps comes to rest.** The induction is on the steps; while the pump does
not rest, each of them leaves less work. -/
theorem rests_moves {m : Move} {Rests : Pumps → Prop} {work : Pumps → Nat}
    (hstays : ∀ p, Rests p → p.move m = p)
    (hkeeps : ∀ p : Pumps, (∀ c ∈ p.chunks, c ≠ []) → ∀ c ∈ (p.move m).chunks, c ≠ [])
    (hless : ∀ p : Pumps, (∀ c ∈ p.chunks, c ≠ []) → ¬ Rests p → work (p.move m) < work p) :
    ∀ (n : Nat) (p : Pumps), (∀ c ∈ p.chunks, c ≠ []) → work p ≤ n → Rests (p.moves (List.replicate n m))
  | 0, p, hpieces, hwork => by
    by_contra hworks
    have hdone := hless p hpieces hworks
    omega
  | n + 1, p, hpieces, hwork => by
    by_cases hrests : Rests p
    · rw [moves_replicate_of_fixed (hstays p hrests)]
      exact hrests
    · have hdone := hless p hpieces hrests
      exact rests_moves hstays hkeeps hless n (p.move m) (hkeeps p hpieces) (by omega)

/-- The output's pump does not wake that of the input. -/
theorem InputRests.moves_stepOutput : ∀ (n : Nat) {p : Pumps}, p.InputRests →
    (p.moves (List.replicate n .stepOutput)).InputRests
  | 0, _, h => h
  | n + 1, p, h => by
    obtain ⟨hcaller, _, _, _, hframes, hinput, _⟩ := (outputStep_stepOutput .stepOutput p).spares
    have hnext : p.stepOutput.InputRests := by
      unfold InputRests
      rw [hcaller, hframes, hinput]
      exact h
    exact moves_stepOutput n hnext

/-- **Nothing is left to do**: the terminal is over, or both pumps have taken all there is and wait for sides that
may still say something. -/
def AtRest (p : Pumps) : Prop :=
  p.isOver = true ∨
    (p.input = .waiting ∧ p.frames = [] ∧ p.callerEnded = false) ∧
      p.output = .waiting ∧ p.chunks = [] ∧ p.unitEnded = false

/-- **Where both pumps rest and look for the sign to stop, they end together or not at all.** -/
theorem atRest_stop (hsign : p.isCancelled = true ↔ p.input = .ended ∨ p.output = .ended)
    (hinput : p.InputRests) (houtput : p.OutputRests) : p.stopInput.stopOutput.AtRest := by
  by_cases hcancelled : p.isCancelled = true
  -- one pump has ended; if the other waits it sees the sign
  · have hstopped : p.stopInput.input = .ended ∧ p.stopInput.isCancelled = true ∧ p.stopInput.output = p.output := by
      unfold stopInput
      rcases hinput with hended | ⟨hwaits, _⟩
      · rw [hended]
        exact ⟨hended, hcancelled, rfl⟩
      · rw [hwaits]
        dsimp only
        rw [if_pos hcancelled]
        exact ⟨rfl, rfl, rfl⟩
    obtain ⟨hended, hcancelled', hsame⟩ := hstopped
    have hover : p.stopInput.stopOutput.input = .ended ∧ p.stopInput.stopOutput.output = .ended := by
      unfold stopOutput
      rw [hsame]
      rcases houtput with houtput | ⟨hwaits, _⟩
      · rw [houtput]
        exact ⟨hended, hsame.trans houtput⟩
      · rw [hwaits]
        dsimp only
        rw [if_pos hcancelled']
        exact ⟨hended, rfl⟩
    refine .inl ?_
    rw [isOver, inputEnded, hover.1, hover.2]
    rfl
  -- none has ended, so both wait, and there is no sign to see
  · have hworks := not_or.mp fun hended => hcancelled (hsign.mpr hended)
    have hin := hinput.resolve_left hworks.1
    have hout := houtput.resolve_left hworks.2
    have hfirst : p.stopInput = p := by
      unfold stopInput
      rw [hin.1]
      exact if_neg hcancelled
    have hsecond : p.stopOutput = p := by
      unfold stopOutput
      rw [hout.1]
      exact if_neg hcancelled
    rw [hfirst, hsecond]
    exact .inr ⟨hin, hout⟩

/-- **A terminal comes to rest when it settles.** -/
theorem Balanced.atRest (h : Balanced notices ms p) : p.settle.AtRest := by
  -- settling gives each pump more steps than it has work left; the output's pump comes second and wakes nobody
  have hin : (p.moves (List.replicate (2 * (p.frames.length + 1)) .stepInput)).InputRests := by
    refine rests_moves (fun _ => InputRests.stepInput) ?_ (fun _ _ => inputWork_stepInput) _ p h.pieces ?_
    · intro p hpieces
      obtain ⟨_, _, _, _, _, hchunks⟩ := (inputStep_stepInput .stepInput p).spares
      exact hchunks ▸ hpieces
    · have hmost := phaseWork_le p.input
      unfold inputWork
      omega
  have hfirst := h.moves (List.replicate (2 * (p.frames.length + 1)) .stepInput)
  unfold settle
  generalize p.moves (List.replicate (2 * (p.frames.length + 1)) .stepInput) = q at hin hfirst
  dsimp only
  have hout : (q.moves (List.replicate (2 * (q.chunks.flatten.length + 1)) .stepOutput)).OutputRests := by
    refine rests_moves (m := .stepOutput) (fun _ => OutputRests.stepOutput)
      (fun p => (outputStep_stepOutput .stepOutput p).pieces) (fun _ => outputWork_stepOutput) _ q hfirst.pieces ?_
    have hmost := phaseWork_le q.output
    unfold outputWork
    omega
  obtain ⟨_, _, hexcused⟩ := (hfirst.moves (List.replicate (2 * (q.chunks.flatten.length + 1)) .stepOutput)).input
  exact atRest_stop hexcused.sign (InputRests.moves_stepOutput _ hin) hout

/-- **The pumps lose, repeat and reorder nothing**, whatever the caller and the unit say and however the steps of the
pumps, the ends of both sides and failures follow each other. Neither pump stops without a reason, and given
their steps both come to rest: the terminal is over, or all that was said is taken. -/
theorem faithful_moves (notices : List String) (ms : List Move) :
    let p := ({ sent := notices.map .text } : Pumps).moves ms
    (∃ taken, Faithful notices ms taken p) ∧ p.settle.AtRest :=
  ⟨(balanced_moves notices ms).faithful, (balanced_moves notices ms).atRest⟩

/-- A write that fails half-way: what was written before stays written, what follows is not. -/
example : (({} : Pumps).moves [.frame (.binary [108, 115]), .frame (.binary [13]), .stepInput,
    .write 1, .failInput, .stepInput]).received = [108] := by decide

end Pumps

end FleetControl.Terminal
