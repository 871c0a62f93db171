import FleetControl.Terminal.Pumps
import Mathlib.Data.List.Induction
import Mathlib.Data.List.TakeWhile
import Mathlib.Tactic.ByContra

/-!
# What the pumps account for

The caller's frames and the unit's output are read off the moves that bring them (`offered`,
`emitted`). What a pump does is one of a few steps (`InputStep`, `OutputStep`), whichever move it
makes; each step says what it needed, and a step that ends the pump says why.

From these steps come the balances of the two pumps: the frames taken are accounted for in keystrokes and
errands (`Carried`), the output read in what the caller was shown (`Shown`), and the texts in between in the
pings that they answer (`Answered`). Beside them goes the reason for which a pump has ended (`Excused`). All of
them hold along every list of moves (`balanced_moves`), and with them a terminal is `Faithful`.
-/

namespace FleetControl.Terminal

/-! ## What both sides say -/

/-- **The keystrokes in a frame**: all of it, unless it is text that is a control message. -/
def ClientFrame.keystrokes : ClientFrame → List UInt8
  | binary bytes => bytes
  | text s =>
    match Control.ofText? s with
    | none => Text.Utf8.encode s
    | some c => if c.kind = "input" then Text.Utf8.encode c.data else []
  | close => []

/-- **The errand that a frame asks for**, a resize or the answer to a ping. -/
def ClientFrame.errand? : ClientFrame → Option Errand
  | text s => (Control.ofText? s).bind fun c =>
    if c.kind = "resize" then some (.resize c.rows c.cols)
    else if c.kind = "ping" then some .pong
    else none
  | _ => none

/-- What is typed in frames, up to the first that closes. -/
def typed (fs : List ClientFrame) : List UInt8 :=
  (fs.takeWhile (· != .close)).flatMap ClientFrame.keystrokes

/-- The frame that a move brings. -/
def Move.frame? : Move → Option ClientFrame
  | frame f => some f
  | _ => none

/-- The output that a move brings. -/
def Move.output : Move → List UInt8
  | chunk bytes => bytes
  | _ => []

/-- **What the caller sends**, up to its end. -/
def offered (ms : List Move) : List ClientFrame :=
  (ms.takeWhile (· != .endCaller)).filterMap Move.frame?

/-- **The output of the unit**, up to its end. -/
def emitted (ms : List Move) : List UInt8 :=
  (ms.takeWhile (· != .endUnit)).flatMap Move.output

theorem bne_of_not_mem {α : Type} [DecidableEq α] {last : α} {as : List α} (h : last ∉ as) :
    ∀ a ∈ as, (a != last) = true :=
  fun _ ha => bne_iff_ne.mpr fun heq => h (heq ▸ ha)

theorem takeWhile_ne_snoc {α : Type} [DecidableEq α] (last a : α) (as : List α) :
    (as ++ [a]).takeWhile (· != last) =
      as.takeWhile (· != last) ++ if last ∈ as ∨ a = last then [] else [a] := by
  by_cases hlast : last ∈ as
  · obtain ⟨before, behind, rfl, hbefore⟩ := List.eq_append_cons_of_mem hlast
    simp [List.takeWhile_append_of_pos (bne_of_not_mem hbefore)]
  · have hall : as.takeWhile (· != last) = as := List.takeWhile_eq_self_iff.mpr (bne_of_not_mem hlast)
    rw [List.takeWhile_append_of_pos (bne_of_not_mem hlast), hall]
    by_cases ha : a = last <;> simp [hlast, ha]

/-- One more move offers its frame, unless the caller has ended before: what comes after the end is never taken
in. -/
theorem offered_snoc (ms : List Move) (m : Move) :
    offered (ms ++ [m]) = offered ms ++ if .endCaller ∈ ms then [] else m.frame?.toList := by
  rw [offered, takeWhile_ne_snoc, List.filterMap_append, offered]
  by_cases hend : .endCaller ∈ ms <;> cases m <;> simp [hend, Move.frame?]

/-- One more move emits its output, unless the unit has ended before. -/
theorem emitted_snoc (ms : List Move) (m : Move) :
    emitted (ms ++ [m]) = emitted ms ++ if .endUnit ∈ ms then [] else m.output := by
  rw [emitted, takeWhile_ne_snoc, List.flatMap_append, emitted]
  by_cases hend : .endUnit ∈ ms <;> cases m <;> simp [hend, Move.output]

theorem offered_snoc_of_none {m : Move} (hm : m.frame? = none) (ms : List Move) :
    offered (ms ++ [m]) = offered ms := by simp [offered_snoc, hm]

theorem emitted_snoc_of_nil {m : Move} (hm : m.output = []) (ms : List Move) :
    emitted (ms ++ [m]) = emitted ms := by simp [emitted_snoc, hm]

/-- One more frame adds its keystrokes, as long as no frame before it closes the terminal. -/
theorem typed_snoc {fs : List ClientFrame} (hopen : .close ∉ fs) (f : ClientFrame) :
    typed (fs ++ [f]) = typed fs ++ f.keystrokes := by
  rw [typed, takeWhile_ne_snoc, List.flatMap_append, typed]
  by_cases hf : f = .close
  · simp [hf, ClientFrame.keystrokes]
  · simp [hopen, hf]

/-- More frames only add to what is typed, so what was received of some frames is the beginning of what is typed
in all that were offered. -/
theorem typed_isPrefix_append (fs more : List ClientFrame) : typed fs <+: typed (fs ++ more) := by
  induction more using List.reverseRecOn with
  | nil => simp
  | append_singleton more f ih =>
    rw [← List.append_assoc]
    refine ih.trans ?_
    rw [typed, typed, takeWhile_ne_snoc, List.flatMap_append]
    exact List.prefix_append _ _

/-- What comes after a close is not typed. -/
theorem typed_append_of_close {fs : List ClientFrame} (hclose : .close ∈ fs)
    (more : List ClientFrame) : typed (fs ++ more) = typed fs := by
  obtain ⟨before, behind, rfl, hbefore⟩ := List.eq_append_cons_of_mem hclose
  simp [typed, List.takeWhile_append_of_pos (bne_of_not_mem hbefore)]

/-! ## What is under way -/

/-- The keystrokes that an action writes. -/
def Action.keystrokes : Action → List UInt8
  | keys bytes => bytes
  | _ => []

@[simp] theorem Action.keystrokes_keys (bytes : List UInt8) : (keys bytes).keystrokes = bytes := rfl
@[simp] theorem Action.keystrokes_errand (e : Errand) : (errand e).keystrokes = [] := rfl
@[simp] theorem Action.keystrokes_ignore : ignore.keystrokes = [] := rfl
@[simp] theorem Action.keystrokes_stop : stop.keystrokes = [] := rfl

/-- The errand of an action. -/
def Action.errand? : Action → Option Errand
  | errand e => some e
  | _ => none

@[simp] theorem Action.errand?_keys (bytes : List UInt8) : (keys bytes).errand? = none := rfl
@[simp] theorem Action.errand?_errand (e : Errand) : (errand e).errand? = some e := rfl
@[simp] theorem Action.errand?_ignore : ignore.errand? = none := rfl
@[simp] theorem Action.errand?_stop : stop.errand? = none := rfl

/-- **An action writes the keystrokes in its frame**, so nothing is added or dropped between taking a frame and
acting on it. -/
theorem keystrokes_action (f : ClientFrame) : f.action.keystrokes = f.keystrokes := by
  cases f with
  | binary | close => rfl
  | text s =>
    unfold ClientFrame.action ClientFrame.keystrokes
    dsimp only
    cases Control.ofText? s with
    | none => rfl
    | some c =>
      dsimp only [Control.action]
      split <;> simp_all

/-- **An action goes on the errand that its frame asks for**: a resize, or the answer to a ping. -/
theorem errand?_action (f : ClientFrame) : f.action.errand? = f.errand? := by
  cases f with
  | binary | close => rfl
  | text s =>
    unfold ClientFrame.action ClientFrame.errand?
    dsimp only
    cases Control.ofText? s with
    | none => rfl
    | some c =>
      dsimp only [Control.action, Option.bind_some]
      split <;> simp_all

/-- Only a close stops: a text is a control message, of which none stops, or it is typed. -/
theorem action_eq_stop {f : ClientFrame} : f.action = .stop ↔ f = .close := by
  cases f with
  | binary | close => simp [ClientFrame.action]
  | text s =>
    unfold ClientFrame.action
    dsimp only
    cases Control.ofText? s with
    | none => simp
    | some c =>
      dsimp only [Control.action]
      split <;> simp

/-- The output in a frame. -/
def ServerFrame.output : ServerFrame → List UInt8
  | binary bytes => bytes
  | text _ => []

/-- The text in a frame. -/
def ServerFrame.text? : ServerFrame → Option String
  | text s => some s
  | binary _ => none

namespace Pumps

/-- Keystrokes that are being written. -/
def unwritten (p : Pumps) : List UInt8 :=
  match p.input with
  | .doing a => a.keystrokes
  | _ => []

/-- The errand that the input's pump is on. -/
def underway (p : Pumps) : List Errand :=
  match p.input with
  | .doing a => a.errand?.toList
  | _ => []

/-- Output that is being sent. -/
def unsent (p : Pumps) : List UInt8 :=
  match p.output with
  | .doing c => c
  | _ => []

/-- The output that the caller was shown. -/
def shown (p : Pumps) : List UInt8 := p.sent.flatMap ServerFrame.output

/-- The texts that the caller was sent. -/
def texts (p : Pumps) : List String := p.sent.filterMap ServerFrame.text?

/-! ## The steps of the pumps -/

/-- What the caller is sent for an errand. -/
def reply : Errand → List ServerFrame
  | .pong => [.text Control.pong.json.text]
  | .resize .. => []

/-- **What the input's pump does in a move.** -/
inductive InputStep (m : Move) (p : Pumps) : Pumps → Prop where
  | rest : InputStep m p p
  | take (f : ClientFrame) (behind : List ClientFrame) (hframes : p.frames = f :: behind)
      (hinput : p.input = .waiting) :
      InputStep m p { p with frames := behind, input := .doing f.action }
  | write (bytes left : List UInt8) (next : Phase Action)
      (hinput : p.input = .doing (.keys (bytes ++ left)))
      (hnext : next = .doing (.keys left) ∨ left = [] ∧ next = .waiting) :
      InputStep m p { p with received := p.received ++ bytes, input := next }
  /-- An answer does not reach a caller who is deaf, or where sending fails. -/
  | issue (e : Errand) (answer : List ServerFrame) (hinput : p.input = .doing (.errand e))
      (hanswer : answer = reply e ∨ answer = [] ∧ (p.callerDeaf = true ∨ m = .failInput)) :
      InputStep m p { p.issue e with sent := p.sent ++ answer }
  | ignore (hinput : p.input = .doing .ignore) : InputStep m p { p with input := .waiting }
  /-- Keystrokes that are left to write are refused. -/
  | fail (bytes : List UInt8) (hinput : p.input = .doing (.keys bytes)) (hbytes : bytes ≠ [])
      (hcause : p.unitDeaf = true ∨ m = .failInput) : InputStep m p p.endInput
  /-- A close was taken. -/
  | close (hinput : p.input = .doing .stop) : InputStep m p p.endInput
  /-- The pump waits, and there is the sign to stop or nothing more to wait for. -/
  | stop (hinput : p.input = .waiting)
      (hcause : p.isCancelled = true ∨ p.frames = [] ∧ p.callerEnded = true) : InputStep m p p.endInput

/-- **What the output's pump does in a move.** -/
inductive OutputStep (m : Move) (p : Pumps) : Pumps → Prop where
  | rest : OutputStep m p p
  | read (piece : List UInt8) (left : List (List UInt8)) (houtput : p.output = .waiting)
      (hpiece : p.chunks.flatten = piece ++ left.flatten) (hleft : ∀ c ∈ left, c ∈ p.chunks ∨ c ≠ []) :
      OutputStep m p { p with chunks := left, output := .doing piece }
  | send (piece : List UInt8) (houtput : p.output = .doing piece) :
      OutputStep m p { p with sent := p.sent ++ [.binary piece], output := .waiting }
  /-- A read fails, or the caller does not take what is sent. -/
  | fail (houtput : p.output ≠ .ended) (hcause : p.callerDeaf = true ∨ m = .failOutput) : OutputStep m p p.endOutput
  /-- The pump waits, and there is the sign to stop or nothing more to wait for. -/
  | stop (houtput : p.output = .waiting)
      (hcause : p.isCancelled = true ∨ p.chunks = [] ∧ p.unitEnded = true) : OutputStep m p p.endOutput

variable {m : Move} {p q : Pumps}

theorem inputStep_perform {e : Errand} (hinput : p.input = .doing (.errand e)) :
    InputStep m p (p.perform e) := by
  cases e with
  | resize rows cols =>
    have hstep := InputStep.issue (m := m) _ [] hinput (.inl rfl)
    rwa [List.append_nil] at hstep
  | pong =>
    rw [perform, send]
    split
    · have hstep := InputStep.issue (m := m) _ [] hinput (.inr ⟨rfl, .inl ‹_›⟩)
      rwa [List.append_nil] at hstep
    · exact .issue _ (reply .pong) hinput (.inl rfl)

/-- **A step of the input's pump** is one of the few, by what the pump was at: while it waits it takes a frame or
finds the end, while it acts it finishes the action, and once it has ended it does nothing. -/
theorem inputStep_stepInput (m : Move) (p : Pumps) : InputStep m p p.stepInput := by
  unfold stepInput
  split
  · split
    · exact .take _ _ ‹_› ‹_›
    · split
      · exact .stop ‹_› (.inr ⟨‹_›, ‹_›⟩)
      · exact .rest
  · rename_i bytes hinput
    split
    · have hnone : bytes = [] := List.isEmpty_iff.mp ‹_›
      have hstep := InputStep.write (m := m) [] [] .waiting (by simpa [hnone] using hinput) (.inr ⟨rfl, rfl⟩)
      rwa [List.append_nil] at hstep
    · rename_i hbytes
      split
      · exact .fail bytes hinput (fun hnone => hbytes (List.isEmpty_iff.mpr hnone)) (.inl ‹_›)
      · exact .write bytes [] .waiting (by simpa using hinput) (.inr ⟨rfl, rfl⟩)
  · exact inputStep_perform ‹_›
  · exact .ignore ‹_›
  · exact .close ‹_›
  · exact .rest

/-- A write in parts is a step too: the unit has received some of the keystrokes, and the rest is still to be
written. -/
theorem inputStep_write (m : Move) (p : Pumps) (n : Nat) : InputStep m p (p.write n) := by
  unfold write
  split
  · rename_i bytes hinput
    split
    · exact .rest
    · exact .write (bytes.take n) (bytes.drop n) _ (by rwa [List.take_append_drop]) (.inl rfl)
  · exact .rest

/-- **A failure ends the pump where it writes**, and what was left to write is lost. An errand that fails is done
with all the same, without its answer. -/
theorem inputStep_failInput (p : Pumps) : InputStep .failInput p p.failInput := by
  unfold failInput
  split
  · exact .fail _ ‹_› (List.cons_ne_nil _ _) (.inr rfl)
  · rename_i e hinput
    have hstep := InputStep.issue (m := .failInput) _ [] hinput (.inr ⟨rfl, .inr rfl⟩)
    rwa [List.append_nil] at hstep
  · exact .rest

/-- The sign to stop is looked at while the pump waits, so a frame that was taken is done with first. -/
theorem inputStep_stopInput (m : Move) (p : Pumps) : InputStep m p p.stopInput := by
  unfold stopInput
  split
  · split
    · exact .stop ‹_› (.inl ‹_›)
    · exact .rest
  · exact .rest

/-- **A step of the output's pump** is one of the few: it reads a piece, sends what it has read, or finds the end. -/
theorem outputStep_stepOutput (m : Move) (p : Pumps) : OutputStep m p p.stepOutput := by
  unfold stepOutput
  split
  · split
    · rename_i c behind hchunks
      have hrest : ∀ c' ∈ behind, c' ∈ p.chunks := fun c' hc' => hchunks ▸ List.mem_cons_of_mem c hc'
      refine .read _ _ ‹_› ?_ ?_
      · rw [hchunks, List.flatten_cons]
        split
        · have hall : c.take bufferSize = c := by
            have hleft : c.drop bufferSize = [] := List.isEmpty_iff.mp ‹_›
            have hcut := List.take_append_drop bufferSize c
            rwa [hleft, List.append_nil] at hcut
          rw [hall]
        · rw [List.flatten_cons, ← List.append_assoc, List.take_append_drop]
      · split
        · exact fun c' hc' => .inl (hrest c' hc')
        · rename_i hleft
          refine List.forall_mem_cons.mpr ⟨.inr fun hnone => hleft (List.isEmpty_iff.mpr hnone), ?_⟩
          exact fun c' hc' => .inl (hrest c' hc')
    · split
      · exact .stop ‹_› (.inr ⟨‹_›, ‹_›⟩)
      · exact .rest
  · rename_i piece houtput
    split
    · exact .fail (by simp [houtput]) (.inl ‹_›)
    · rw [send, if_neg ‹_›]
      exact .send piece houtput
  · exact .rest

/-- A read or a send that fails ends the pump, and what was being sent is lost. -/
theorem outputStep_failOutput (p : Pumps) : OutputStep .failOutput p p.failOutput := by
  unfold failOutput
  split
  · exact .rest
  · rename_i houtput
    exact .fail houtput (.inr rfl)

theorem outputStep_stopOutput (m : Move) (p : Pumps) : OutputStep m p p.stopOutput := by
  unfold stopOutput
  split
  · split
    · exact .stop ‹_› (.inl ‹_›)
    · exact .rest
  · exact .rest

/-! ## The balance of the input -/

/-- **The frames taken are accounted for**: in errands done or under way, and in keystrokes that the
unit has received, that are being written, or that were lost when a write failed. -/
structure Carried (sent taken : List ClientFrame) (p : Pumps) : Prop where
  order : sent = taken ++ p.frames
  issued : p.issued ++ p.underway = taken.filterMap ClientFrame.errand?
  written : ∃ lost, p.received ++ p.unwritten ++ lost = typed taken ∧
    (lost ≠ [] → p.input = .ended ∧ .close ∉ taken)
  /-- Nothing is taken after a close. -/
  closed : .close ∈ taken → p.input = .doing .stop ∨ p.input = .ended
  stopping : p.input = .doing .stop → .close ∈ taken

/-- The balance only depends on the input's side: on the frames that wait, the phase of its pump, and what the
unit received and was asked for. -/
theorem Carried.congr {sent taken : List ClientFrame} (h : Carried sent taken p)
    (hframes : q.frames = p.frames) (hinput : q.input = p.input)
    (hreceived : q.received = p.received) (hissued : q.issued = p.issued) :
    Carried sent taken q where
  order := hframes ▸ h.order
  issued := by rw [hissued, underway, hinput]; exact h.issued
  written := by rw [hreceived, unwritten, hinput]; exact h.written
  closed := hinput ▸ h.closed
  stopping := hinput ▸ h.stopping

/-- A frame comes in: it was sent, and waits to be taken behind all others. -/
theorem Carried.frame {sent taken : List ClientFrame} (h : Carried sent taken p) (f : ClientFrame) :
    Carried (sent ++ [f]) taken { p with frames := p.frames ++ [f] } where
  order := by rw [h.order, List.append_assoc]
  issued := h.issued
  written := h.written
  closed := h.closed
  stopping := h.stopping

/-- The balance before a close is taken and while no keystrokes are lost. What is received and what is being
written are then all that is typed, not only the beginning of it. -/
theorem Carried.intact {sent taken : List ClientFrame} (order : sent = taken ++ p.frames)
    (issued : p.issued ++ p.underway = taken.filterMap ClientFrame.errand?)
    (received : p.received ++ p.unwritten = typed taken) (hopen : .close ∉ taken)
    (hworks : p.input ≠ .doing .stop) : Carried sent taken p :=
  ⟨order, issued, ⟨[], by rw [received, List.append_nil], by simp⟩, fun hclose => absurd hclose hopen,
    fun hstop => absurd hstop hworks⟩

/-- No keystrokes are lost unless the pump has ended: up to then what was received and what is being written make
up all that was typed. -/
theorem Carried.received_unwritten {sent taken : List ClientFrame} (h : Carried sent taken p)
    (hended : p.input ≠ .ended) : p.received ++ p.unwritten = typed taken := by
  obtain ⟨lost, hwritten, hlost⟩ := h.written
  have hnone : lost = [] := by_contra fun hne => hended (hlost hne).1
  rwa [hnone, List.append_nil] at hwritten

/-- The balance while the pump waits: all that was typed is received, and every errand is done. -/
theorem Carried.waiting {sent taken : List ClientFrame} (h : Carried sent taken p)
    (hinput : p.input = .waiting) : .close ∉ taken ∧ p.received = typed taken ∧
      p.issued = taken.filterMap ClientFrame.errand? := by
  have hreceived := h.received_unwritten (by simp [hinput])
  have hissued := h.issued
  simp only [unwritten, underway, hinput, List.append_nil] at hreceived hissued
  exact ⟨fun hclose => by simpa [hinput] using h.closed hclose, hreceived, hissued⟩

/-- The balance while the pump does something else than stop: with what the action still brings, all that was
typed is received and every errand is done. -/
theorem Carried.doing {sent taken : List ClientFrame} {a : Action} (h : Carried sent taken p)
    (hinput : p.input = .doing a) (hstop : a ≠ .stop) : .close ∉ taken ∧
      p.received ++ a.keystrokes = typed taken ∧
      p.issued ++ a.errand?.toList = taken.filterMap ClientFrame.errand? := by
  have hreceived := h.received_unwritten (by simp [hinput])
  have hissued := h.issued
  simp only [unwritten, underway, hinput] at hreceived hissued
  exact ⟨fun hclose => hstop (by simpa [hinput] using h.closed hclose), hreceived, hissued⟩

/-- The pump ends where it neither writes nor is on an errand, so nothing is lost: the balance is settled already. -/
theorem Carried.ends {sent taken : List ClientFrame} (h : Carried sent taken p) (hworks : p.input ≠ .ended)
    (hunwritten : p.unwritten = []) (hunderway : p.underway = []) : Carried sent taken p.endInput where
  order := h.order
  issued := by
    rw [← h.issued, hunderway]
    rfl
  written := by
    refine ⟨[], ?_, by simp⟩
    rw [← h.received_unwritten hworks, hunwritten]
    simp [Pumps.endInput, unwritten]
  closed _ := .inr rfl
  stopping := nofun

/-- **A step of the input's pump keeps the balance**, one case for each of the steps. The frames taken grow where
the pump takes one, and only there. -/
theorem Carried.step {sent taken : List ClientFrame} (h : Carried sent taken p)
    (hstep : InputStep m p q) : ∃ taken', Carried sent taken' q := by
  cases hstep with
  | rest => exact ⟨taken, h⟩
  | take f behind hframes hinput =>
    -- no close was taken before, so what is in this frame is typed
    obtain ⟨hopen, hreceived, hissued⟩ := h.waiting hinput
    refine ⟨taken ++ [f], ?_, ?_, ⟨[], ?_, by simp⟩, ?_, ?_⟩
    · simp [h.order, hframes]
    · simp only [underway, errand?_action, hissued, List.filterMap_append]
      cases hf : f.errand? <;> simp [hf]
    · simp [unwritten, keystrokes_action, typed_snoc hopen, hreceived]
    · intro hclose
      have hf : f = .close := by simpa [hopen, eq_comm] using hclose
      exact .inl (by simp [action_eq_stop.mpr hf])
    · intro hstop
      have hf : f = .close := action_eq_stop.mp (Phase.doing.inj hstop)
      simp [hf]
  | write bytes left next hinput hnext =>
    obtain ⟨hopen, hreceived, hissued⟩ := h.doing hinput nofun
    refine ⟨taken, .intact h.order ?_ ?_ hopen ?_⟩
    · obtain rfl | ⟨rfl, rfl⟩ := hnext <;> simpa [underway] using hissued
    · obtain rfl | ⟨rfl, rfl⟩ := hnext <;> simpa [unwritten] using hreceived
    · obtain rfl | ⟨rfl, rfl⟩ := hnext <;> exact nofun
  | issue e answer hinput hanswer =>
    obtain ⟨hopen, hreceived, hissued⟩ := h.doing hinput nofun
    exact ⟨taken, .intact h.order (by simpa [issue, underway] using hissued)
      (by simpa [issue, unwritten] using hreceived) hopen nofun⟩
  | ignore hinput =>
    obtain ⟨hopen, hreceived, hissued⟩ := h.doing hinput nofun
    exact ⟨taken, .intact h.order (by simpa [underway] using hissued)
      (by simpa [unwritten] using hreceived) hopen nofun⟩
  | fail bytes hinput _ _ =>
    -- what was left to write is lost, and nothing is taken any more
    obtain ⟨hopen, hreceived, hissued⟩ := h.doing hinput nofun
    refine ⟨taken, h.order, ?_, ⟨bytes, ?_, fun _ => ⟨rfl, hopen⟩⟩, fun _ => .inr rfl, nofun⟩
    · simpa [endInput, underway] using hissued
    · simpa [endInput, unwritten] using hreceived
  | close hinput => exact ⟨taken, h.ends (by simp [hinput]) (by simp [unwritten, hinput]) (by simp [underway, hinput])⟩
  | stop hinput _ => exact ⟨taken, h.ends (by simp [hinput]) (by simp [unwritten, hinput]) (by simp [underway, hinput])⟩

/-! ## The balance of the output -/

/-- **The output read is accounted for**: the caller was shown it, or it is being sent, or it was
lost when the pump ended. -/
structure Shown (output : List UInt8) (p : Pumps) : Prop where
  balance : ∃ lost, p.shown ++ p.unsent ++ lost ++ p.chunks.flatten = output ∧
    (lost ≠ [] → p.output = .ended)

/-- The balance while no output is lost: shown, being sent and not yet read, one after the other. -/
theorem Shown.intact {output : List UInt8} (h : p.shown ++ p.unsent ++ p.chunks.flatten = output) :
    Shown output p :=
  ⟨[], by rwa [List.append_nil], by simp⟩

/-- No output is lost unless the pump has ended: up to then all of it was shown, is being sent or is not yet read. -/
theorem Shown.shown_unsent {output : List UInt8} (h : Shown output p) (hended : p.output ≠ .ended) :
    p.shown ++ p.unsent ++ p.chunks.flatten = output := by
  obtain ⟨lost, hbalance, hlost⟩ := h.balance
  have hnone : lost = [] := by_contra fun hne => hended (hlost hne)
  rwa [hnone, List.append_nil] at hbalance

/-- Texts show nothing, so the balance only depends on the output's side. -/
theorem Shown.congr {output : List UInt8} (h : Shown output p) (hshown : q.shown = p.shown)
    (houtput : q.output = p.output) (hchunks : q.chunks = p.chunks) : Shown output q where
  balance := by rw [hshown, unsent, houtput, hchunks]; exact h.balance

/-- A piece of output comes in, and is read after all that came before it. -/
theorem Shown.chunk {output : List UInt8} (h : Shown output p) (bytes : List UInt8) :
    Shown (output ++ bytes) { p with chunks := p.chunks ++ [bytes] } := by
  obtain ⟨lost, hbalance, hlost⟩ := h.balance
  exact ⟨lost, by simp [← hbalance, shown, unsent], hlost⟩

/-- **A step of the output's pump keeps the balance.** Bytes move from not read to being sent, and from there to
shown, in their order; a failure loses what was being sent and nothing that was shown. -/
theorem Shown.step {output : List UInt8} (h : Shown output p) (hstep : OutputStep m p q) :
    Shown output q := by
  cases hstep with
  | rest => exact h
  | read piece left houtput hpiece _ =>
    have hshown := h.shown_unsent (by simp [houtput])
    refine .intact ?_
    simpa [unsent, shown, houtput, hpiece] using hshown
  | send piece houtput =>
    have hshown := h.shown_unsent (by simp [houtput])
    refine .intact ?_
    simpa [unsent, shown, houtput, ServerFrame.output] using hshown
  | fail | stop =>
    -- what was read and not sent is lost
    obtain ⟨lost, hbalance, -⟩ := h.balance
    refine ⟨p.unsent ++ lost, ?_, fun _ => rfl⟩
    simpa [endOutput, unsent, shown] using hbalance

/-! ## The answers -/

/-- **Texts are accounted for**: after the notices they are answers to pings, and answers are missing
only where the caller is deaf or an errand failed. -/
structure Answered (notices : List String) (ms : List Move) (p : Pumps) : Prop where
  deaf : p.callerDeaf = true → .deafenCaller ∈ ms
  answers : ∃ n ≤ p.issued.count .pong,
    p.texts = notices ++ List.replicate n Control.pong.json.text ∧
    (.deafenCaller ∉ ms → .failInput ∉ ms → n = p.issued.count .pong)

/-- What else happens sends no text and goes on no errand, so no answer is added and none is missed. -/
theorem Answered.congr {notices : List String} {ms : List Move} (h : Answered notices ms p)
    (hdeaf : q.callerDeaf = true → p.callerDeaf = true ∨ m = .deafenCaller)
    (htexts : q.texts = p.texts) (hissued : q.issued = p.issued) :
    Answered notices (ms ++ [m]) q := by
  obtain ⟨n, hn, htexts', hall⟩ := h.answers
  refine ⟨fun hq => ?_, n, by rwa [hissued], by rwa [htexts], fun hd hf => ?_⟩
  · rcases hdeaf hq with hp | rfl
    · exact List.mem_append_left _ (h.deaf hp)
    · simp
  · rw [hissued]
    exact hall (fun hm => hd (List.mem_append_left _ hm)) fun hm => hf (List.mem_append_left _ hm)

/-- Notices are texts, and they are all that a terminal has sent before its first move. -/
theorem texts_notices (notices : List String) :
    ({ sent := notices.map .text } : Pumps).texts = notices := by
  have htext : ServerFrame.text? ∘ ServerFrame.text = some := rfl
  rw [texts, List.filterMap_map, htext, List.filterMap_some]

/-- **A step of the input's pump answers a ping at most once**, and it misses an answer only where the caller is
deaf or the errand failed. -/
theorem Answered.step {notices : List String} {ms : List Move} (h : Answered notices ms p)
    (hstep : InputStep m p q) : Answered notices (ms ++ [m]) q := by
  cases hstep with
  | rest | take | write | ignore | fail | close | stop => exact h.congr .inl rfl rfl
  | issue e answer hinput hanswer =>
    obtain ⟨n, hn, htexts, hall⟩ := h.answers
    refine ⟨fun hq => List.mem_append_left _ (h.deaf hq), ?_⟩
    have hbefore : .deafenCaller ∉ ms ++ [m] → .failInput ∉ ms ++ [m] → n = p.issued.count .pong :=
      fun hd hf => hall (fun hm => hd (List.mem_append_left _ hm))
        fun hm => hf (List.mem_append_left _ hm)
    simp only [texts, issue, List.filterMap_append, List.count_append] at htexts ⊢
    rcases hanswer with rfl | ⟨rfl, hmissing⟩
    · cases e with
      | resize rows cols => exact ⟨n, by simpa using hn, by simpa [reply] using htexts, by simpa using hbefore⟩
      | pong =>
        refine ⟨n + 1, by simpa using hn, ?_, by simpa using hbefore⟩
        rw [htexts, List.append_assoc, List.replicate_succ']
        rfl
    · refine ⟨n, hn.trans (Nat.le_add_right _ _), by simpa using htexts, fun hd hf => ?_⟩
      rcases hmissing with hdeaf | rfl
      · exact absurd (List.mem_append_left _ (h.deaf hdeaf)) hd
      · simp at hf

/-! ## Why a pump ends -/

/-- **A reason of its own for the input's pump to end.** -/
inductive InputDone (ms : List Move) (taken : List ClientFrame) (p : Pumps) : Prop where
  | closed (hclose : .close ∈ taken)
  /-- A write failed, or the unit hung up, and what was left to write is missing. -/
  | refused (hlost : p.received ≠ typed taken) (hcause : .failInput ∈ ms ∨ .endUnit ∈ ms)
  /-- The caller sends nothing more, and all that it sent is taken. -/
  | drained (hend : .endCaller ∈ ms) (hframes : p.frames = [])

/-- **A reason of its own for the output's pump to end.** -/
inductive OutputDone (ms : List Move) (p : Pumps) : Prop where
  /-- A read or a send failed, or the caller takes nothing more. -/
  | refused (hcause : .deafenCaller ∈ ms ∨ .failOutput ∈ ms)
  /-- The unit sends nothing more, and all that it sent is read. -/
  | drained (hend : .endUnit ∈ ms) (hchunks : p.chunks = [])

/-- **No pump ends without a reason**: its own, or the sign of the other, which had one of its own. Were a pump
excused by any end of the other, the two could excuse each other. -/
structure Excused (ms : List Move) (taken : List ClientFrame) (p : Pumps) : Prop where
  sign : p.isCancelled = true ↔ p.input = .ended ∨ p.output = .ended
  input : p.input = .ended → InputDone ms taken p ∨ p.output = .ended ∧ OutputDone ms p
  output : p.output = .ended → OutputDone ms p ∨ p.input = .ended ∧ InputDone ms taken p

section Reasons

variable {ms : List Move} {taken taken' sent : List ClientFrame}

/-- A reason stays one, as long as what had come to its end brings nothing more. A frame that came in after the
end of the caller would make that end no reason to stop any more. -/
theorem InputDone.snoc (h : InputDone ms taken p) (m : Move) (hreceived : q.received = p.received)
    (hframes : .endCaller ∈ ms → q.frames = p.frames) : InputDone (ms ++ [m]) taken q := by
  cases h with
  | closed hclose => exact .closed hclose
  | refused hlost hcause =>
    exact .refused (hreceived ▸ hlost) (hcause.imp (List.mem_append_left _) (List.mem_append_left _))
  | drained hend hnone => exact .drained (List.mem_append_left _ hend) ((hframes hend).trans hnone)

/-- The same of the output's pump: its reason stays one, as long as a unit that has ended brings no more output. -/
theorem OutputDone.snoc (h : OutputDone ms p) (m : Move) (hchunks : .endUnit ∈ ms → q.chunks = p.chunks) :
    OutputDone (ms ++ [m]) q := by
  cases h with
  | refused hcause => exact .refused (hcause.imp (List.mem_append_left _) (List.mem_append_left _))
  | drained hend hnone => exact .drained (List.mem_append_left _ hend) ((hchunks hend).trans hnone)

/-- What does not reach the pumps excuses as before: the sign, both phases, and what is still to be taken are as
they were. -/
theorem Excused.congr (h : Excused ms taken p) (m : Move) (hsign : q.isCancelled = p.isCancelled)
    (hinput : q.input = p.input) (houtput : q.output = p.output) (hreceived : q.received = p.received)
    (hframes : .endCaller ∈ ms → q.frames = p.frames) (hchunks : .endUnit ∈ ms → q.chunks = p.chunks) :
    Excused (ms ++ [m]) taken q where
  sign := by rw [hsign, hinput, houtput]; exact h.sign
  input hended := by
    rw [houtput]
    exact (h.input (hinput ▸ hended)).imp (·.snoc m hreceived hframes) (.imp_right (·.snoc m hchunks))
  output hended := by
    rw [hinput]
    exact (h.output (houtput ▸ hended)).imp (·.snoc m hchunks) (.imp_right (·.snoc m hreceived hframes))

/-- A move that changes nothing excuses nothing and needs no excuse. -/
theorem Excused.idle (h : Excused ms taken p) (m : Move) : Excused (ms ++ [m]) taken p :=
  h.congr m rfl rfl rfl rfl (fun _ => rfl) fun _ => rfl

/-- While the input's pump works, the sign is the other's, and the other had a reason of its own: it cannot have
been stopped by a pump that never ended. -/
theorem Excused.outputDone (h : Excused ms taken p) (hworks : p.input ≠ .ended) (hended : p.output = .ended) :
    OutputDone ms p :=
  (h.output hended).resolve_right fun ⟨hdone, _⟩ => hworks hdone

/-- The same the other way: while the output's pump works, the input's pump ended for a reason of its own. -/
theorem Excused.inputDone (h : Excused ms taken p) (hworks : p.output ≠ .ended) (hended : p.input = .ended) :
    InputDone ms taken p :=
  (h.input hended).resolve_right fun ⟨hdone, _⟩ => hworks hdone

/-- A step of a pump that goes on working. It gives no sign, so whatever the other pump had for a reason it still
has. -/
theorem Excused.inputWorks (h : Excused ms taken p) (m : Move) (hp : p.input ≠ .ended) (hq : q.input ≠ .ended)
    (hsign : q.isCancelled = p.isCancelled) (houtput : q.output = p.output) (hchunks : q.chunks = p.chunks) :
    Excused (ms ++ [m]) taken' q where
  sign := by
    rw [hsign, houtput, h.sign]
    exact or_congr_left (iff_of_false hp hq)
  input hended := absurd hended hq
  output hended := .inl ((h.outputDone hp (houtput ▸ hended)).snoc m fun _ => hchunks)

theorem Excused.outputWorks (h : Excused ms taken p) (m : Move) (hp : p.output ≠ .ended) (hq : q.output ≠ .ended)
    (hsign : q.isCancelled = p.isCancelled) (hinput : q.input = p.input) (hreceived : q.received = p.received)
    (hframes : q.frames = p.frames) : Excused (ms ++ [m]) taken q where
  sign := by
    rw [hsign, hinput, h.sign]
    exact or_congr_right (iff_of_false hp hq)
  input hended := .inl ((h.inputDone hp (hinput ▸ hended)).snoc m hreceived fun _ => hframes)
  output hended := absurd hended hq

/-- The input's pump ends, and has a reason: its own, or that the other had ended before, which then had one of
its own. -/
theorem Excused.endInput (h : Excused ms taken p) (m : Move) (hworks : p.input ≠ .ended)
    (hreason : InputDone (ms ++ [m]) taken p.endInput ∨ p.output = .ended) :
    Excused (ms ++ [m]) taken p.endInput where
  sign := iff_of_true rfl (.inl rfl)
  input _ := hreason.imp_right fun hended => ⟨hended, (h.outputDone hworks hended).snoc m fun _ => rfl⟩
  output hended := .inl ((h.outputDone hworks hended).snoc m fun _ => rfl)

/-- The output's pump ends, and has a reason: its own, or that the other had ended before. -/
theorem Excused.endOutput (h : Excused ms taken p) (m : Move) (hworks : p.output ≠ .ended)
    (hreason : OutputDone (ms ++ [m]) p.endOutput ∨ p.input = .ended) :
    Excused (ms ++ [m]) taken p.endOutput where
  sign := iff_of_true rfl (.inr rfl)
  input hended := .inl ((h.inputDone hworks hended).snoc m rfl fun _ => rfl)
  output _ := hreason.imp_right fun hended => ⟨hended, (h.inputDone hworks hended).snoc m rfl fun _ => rfl⟩

/-- **A step of the input's pump gives no end without a reason.** A step that ends the pump takes no frame, so the
frames that the balance speaks of afterwards are those of before. -/
theorem Excused.inputStep (h : Excused ms taken p) (hp : Carried sent taken p) (hq : Carried sent taken' q)
    (hcaller : p.callerEnded = true → .endCaller ∈ ms) (hdeaf : p.unitDeaf = true → .endUnit ∈ ms)
    (hstep : InputStep m p q) : Excused (ms ++ [m]) taken' q := by
  have hsame : q.frames = p.frames → taken' = taken := by
    intro hframes
    have horder := hq.order.symm.trans hp.order
    rw [hframes] at horder
    exact List.append_cancel_right horder
  cases hstep with
  | rest =>
    rw [hsame rfl]
    exact h.idle m
  | take f behind hframes hinput => exact h.inputWorks m (by simp [hinput]) nofun rfl rfl rfl
  | write bytes left next hinput hnext =>
    refine h.inputWorks m (by simp [hinput]) ?_ rfl rfl rfl
    obtain rfl | ⟨_, rfl⟩ := hnext <;> exact nofun
  | issue e answer hinput hanswer => exact h.inputWorks m (by simp [hinput]) nofun rfl rfl rfl
  | ignore hinput => exact h.inputWorks m (by simp [hinput]) nofun rfl rfl rfl
  | fail bytes hinput hbytes hcause =>
    rw [hsame rfl]
    have hworks : p.input ≠ .ended := by simp [hinput]
    refine h.endInput m hworks (.inl (.refused ?_ ?_))
    -- what is left to write is not empty, so not all that was typed is received
    · intro hall
      have hreceived := (hp.doing hinput nofun).2.1
      rw [← show p.received = typed taken from hall] at hreceived
      exact hbytes (List.append_right_eq_self.mp hreceived)
    · rcases hcause with hcause | rfl
      · exact .inr (List.mem_append_left _ (hdeaf hcause))
      · exact .inl (List.mem_append_right _ (List.mem_singleton_self _))
  | close hinput =>
    rw [hsame rfl]
    exact h.endInput m (by simp [hinput]) (.inl (.closed (hp.stopping hinput)))
  | stop hinput hcause =>
    rw [hsame rfl]
    have hworks : p.input ≠ .ended := by simp [hinput]
    refine h.endInput m hworks ?_
    rcases hcause with hsign | ⟨hframes, hended⟩
    · exact .inr ((h.sign.mp hsign).resolve_left hworks)
    · exact .inl (.drained (List.mem_append_left _ (hcaller hended)) hframes)

/-- **A step of the output's pump gives no end without a reason**: it could not read or send, it found the end of
a unit whose output is all read, or it saw the sign. -/
theorem Excused.outputStep (h : Excused ms taken p) (hunit : p.unitEnded = true → .endUnit ∈ ms)
    (hdeaf : p.callerDeaf = true → .deafenCaller ∈ ms) (hstep : OutputStep m p q) :
    Excused (ms ++ [m]) taken q := by
  cases hstep with
  | rest => exact h.idle m
  | read piece left houtput _ _ => exact h.outputWorks m (by simp [houtput]) nofun rfl rfl rfl rfl
  | send piece houtput => exact h.outputWorks m (by simp [houtput]) nofun rfl rfl rfl rfl
  | fail hworks hcause =>
    refine h.endOutput m hworks (.inl (.refused ?_))
    rcases hcause with hcause | rfl
    · exact .inl (List.mem_append_left _ (hdeaf hcause))
    · exact .inr (List.mem_append_right _ (List.mem_singleton_self _))
  | stop houtput hcause =>
    have hworks : p.output ≠ .ended := by simp [houtput]
    refine h.endOutput m hworks ?_
    rcases hcause with hsign | ⟨hchunks, hended⟩
    · exact .inr ((h.sign.mp hsign).resolve_right hworks)
    · exact .inl (.drained (List.mem_append_left _ (hunit hended)) hchunks)

end Reasons

/-! ## Whole runs -/

/-- The input's pump leaves the output alone: what was shown, what is to be read, and how the output's pump
stands. -/
theorem InputStep.spares (h : InputStep m p q) : q.callerEnded = p.callerEnded ∧ q.unitEnded = p.unitEnded ∧
    q.unitDeaf = p.unitDeaf ∧ q.shown = p.shown ∧ q.output = p.output ∧ q.chunks = p.chunks := by
  cases h with
  | rest | take | write | ignore | fail | close | stop => exact ⟨rfl, rfl, rfl, rfl, rfl, rfl⟩
  | issue e answer hinput hanswer =>
    refine ⟨rfl, rfl, rfl, ?_, rfl, rfl⟩
    have htext : answer.flatMap ServerFrame.output = [] := by
      rcases hanswer with rfl | ⟨rfl, -⟩
      · cases e <;> rfl
      · rfl
    simp [shown, htext]

/-- The output's pump leaves the input alone, and it sends no text, so no answer is its. -/
theorem OutputStep.spares (h : OutputStep m p q) : q.callerEnded = p.callerEnded ∧ q.unitEnded = p.unitEnded ∧
    q.unitDeaf = p.unitDeaf ∧ q.callerDeaf = p.callerDeaf ∧ q.frames = p.frames ∧
    q.input = p.input ∧ q.received = p.received ∧ q.issued = p.issued ∧ q.texts = p.texts := by
  cases h with
  | rest | read | fail | stop => exact ⟨rfl, rfl, rfl, rfl, rfl, rfl, rfl, rfl, rfl⟩
  | send piece houtput =>
    refine ⟨rfl, rfl, rfl, rfl, rfl, rfl, rfl, rfl, ?_⟩
    simp [texts, ServerFrame.text?]

/-- What is left of a piece that was read in part is not empty. Without this a pump could read nothing for ever. -/
theorem OutputStep.pieces (h : OutputStep m p q) (hp : ∀ c ∈ p.chunks, c ≠ []) : ∀ c ∈ q.chunks, c ≠ [] := by
  cases h with
  | rest | send | fail | stop => exact hp
  | read piece left houtput hpiece hleft => exact fun c hc => (hleft c hc).elim (hp c) id

/-- **All balances** of a terminal after moves. -/
structure Balanced (notices : List String) (ms : List Move) (p : Pumps) : Prop where
  caller : p.callerEnded = true ↔ .endCaller ∈ ms
  unit : p.unitEnded = true ↔ .endUnit ∈ ms
  deaf : p.unitDeaf = true → .endUnit ∈ ms
  /-- No piece of output is empty: to read nothing would be the end of it. -/
  pieces : ∀ c ∈ p.chunks, c ≠ []
  input : ∃ taken, Carried (offered ms) taken p ∧ Excused ms taken p
  output : Shown (emitted ms) p
  texts : Answered notices ms p

variable {notices : List String} {ms : List Move}

/-- A move of a pump: it brings nothing, and neither side ends. -/
structure Inner (m : Move) : Prop where
  frame : m.frame? = none
  output : m.output = []
  caller : Move.endCaller ≠ m
  unit : Move.endUnit ≠ m

/-- **All balances are kept by a step of the input's pump**, whichever move makes it. -/
theorem Balanced.inputStep (h : Balanced notices ms p) (hm : Inner m) (hstep : InputStep m p q) :
    Balanced notices (ms ++ [m]) q := by
  obtain ⟨hcaller, hunit, hdeaf, hshown, houtput, hchunks⟩ := hstep.spares
  obtain ⟨taken, hcarried, hexcused⟩ := h.input
  obtain ⟨taken', hcarried'⟩ := hcarried.step hstep
  exact {
    caller := by simp [hcaller, h.caller, hm.caller]
    unit := by simp [hunit, h.unit, hm.unit]
    deaf := fun hq => List.mem_append_left _ (h.deaf (hdeaf ▸ hq))
    pieces := hchunks ▸ h.pieces
    input := by
      rw [offered_snoc_of_none hm.frame]
      exact ⟨taken', hcarried', hexcused.inputStep hcarried hcarried' h.caller.mp h.deaf hstep⟩
    output := by rw [emitted_snoc_of_nil hm.output]; exact h.output.congr hshown houtput hchunks
    texts := h.texts.step hstep }

/-- **All balances are kept by a step of the output's pump**, whichever move makes it. -/
theorem Balanced.outputStep (h : Balanced notices ms p) (hm : Inner m) (hstep : OutputStep m p q) :
    Balanced notices (ms ++ [m]) q := by
  obtain ⟨hcaller, hunit, hdeaf, hcallerDeaf, hframes, hinput, hreceived, hissued, htexts⟩ := hstep.spares
  obtain ⟨taken, hcarried, hexcused⟩ := h.input
  exact {
    caller := by simp [hcaller, h.caller, hm.caller]
    unit := by simp [hunit, h.unit, hm.unit]
    deaf := fun hq => List.mem_append_left _ (h.deaf (hdeaf ▸ hq))
    pieces := hstep.pieces h.pieces
    input := by
      rw [offered_snoc_of_none hm.frame]
      exact ⟨taken, hcarried.congr hframes hinput hreceived hissued,
        hexcused.outputStep h.unit.mp h.texts.deaf hstep⟩
    output := by rw [emitted_snoc_of_nil hm.output]; exact h.output.step hstep
    texts := h.texts.congr (fun hq => .inl (hcallerDeaf ▸ hq)) htexts hissued }

/-- **What becomes of the two sides** leaves the pumps as they are: nothing comes in with it, and at most a side
has ended or turned deaf. A frame or output that comes too late is of this kind too. -/
theorem Balanced.sides (h : Balanced notices ms p) {callerEnded callerDeaf unitEnded unitDeaf : Bool}
    (hoffered : offered (ms ++ [m]) = offered ms) (hemitted : emitted (ms ++ [m]) = emitted ms)
    (hcaller : callerEnded = true ↔ p.callerEnded = true ∨ m = .endCaller)
    (hcallerDeaf : callerDeaf = true → p.callerDeaf = true ∨ m = .deafenCaller)
    (hunit : unitEnded = true ↔ p.unitEnded = true ∨ m = .endUnit)
    (hunitDeaf : unitDeaf = true → p.unitDeaf = true ∨ m = .endUnit) :
    Balanced notices (ms ++ [m]) { p with callerEnded, callerDeaf, unitEnded, unitDeaf } := by
  obtain ⟨taken, hcarried, hexcused⟩ := h.input
  exact {
    caller := by rw [List.mem_append, List.mem_singleton, eq_comm (b := m), ← h.caller]; exact hcaller
    unit := by rw [List.mem_append, List.mem_singleton, eq_comm (b := m), ← h.unit]; exact hunit
    deaf := fun hq => List.mem_append.mpr ((hunitDeaf hq).imp h.deaf fun hm => List.mem_singleton.mpr hm.symm)
    pieces := h.pieces
    input := by
      rw [hoffered]
      exact ⟨taken, hcarried.congr rfl rfl rfl rfl,
        hexcused.congr _ rfl rfl rfl rfl (fun _ => rfl) fun _ => rfl⟩
    output := by rw [hemitted]; exact h.output.congr rfl rfl rfl
    texts := h.texts.congr hcallerDeaf rfl rfl }

/-- **A frame comes in**, or is nothing any more once the caller has ended. -/
theorem Balanced.frame (h : Balanced notices ms p) (f : ClientFrame) :
    Balanced notices (ms ++ [.frame f]) (p.move (.frame f)) := by
  obtain ⟨taken, hcarried, hexcused⟩ := h.input
  rw [Pumps.move]
  split
  · have hsame : offered (ms ++ [.frame f]) = offered ms := by
      rw [offered_snoc, if_pos (h.caller.mp ‹_›), List.append_nil]
    exact h.sides hsame (emitted_snoc_of_nil rfl ms) (by simp) .inl (by simp) .inl
  · have hopen : .endCaller ∉ ms := fun hend => ‹¬_› (h.caller.mpr hend)
    have hmore : offered (ms ++ [.frame f]) = offered ms ++ [f] := by
      rw [offered_snoc, if_neg hopen]
      rfl
    exact {
      caller := by simp [h.caller]
      unit := by simp [h.unit]
      deaf := fun hq => List.mem_append_left _ (h.deaf hq)
      pieces := h.pieces
      input := by
        rw [hmore]
        exact ⟨taken, hcarried.frame f,
          hexcused.congr _ rfl rfl rfl rfl (fun hend => absurd hend hopen) fun _ => rfl⟩
      output := by rw [emitted_snoc_of_nil rfl]; exact h.output.congr rfl rfl rfl
      texts := h.texts.congr .inl rfl rfl }

/-- **A piece of output comes in**, or is nothing any more once the unit has ended. -/
theorem Balanced.chunk (h : Balanced notices ms p) (bytes : List UInt8) :
    Balanced notices (ms ++ [.chunk bytes]) (p.move (.chunk bytes)) := by
  obtain ⟨taken, hcarried, hexcused⟩ := h.input
  rw [Pumps.move]
  split
  · have hsame : emitted (ms ++ [.chunk bytes]) = emitted ms := by
      rcases Bool.or_eq_true_iff.mp ‹_› with hended | hempty
      · rw [emitted_snoc, if_pos (h.unit.mp hended), List.append_nil]
      · have hpiece : (Move.chunk bytes).output = [] := List.isEmpty_iff.mp hempty
        exact emitted_snoc_of_nil hpiece ms
    exact h.sides (offered_snoc_of_none rfl ms) hsame (by simp) .inl (by simp) .inl
  · rename_i hcomes
    have hopen : .endUnit ∉ ms := fun hend => hcomes (by simp [h.unit.mpr hend])
    have hmore : emitted (ms ++ [.chunk bytes]) = emitted ms ++ bytes := by
      rw [emitted_snoc, if_neg hopen]
      rfl
    exact {
      caller := by simp [h.caller]
      unit := by simp [h.unit]
      deaf := fun hq => List.mem_append_left _ (h.deaf hq)
      pieces := List.forall_mem_append.mpr ⟨h.pieces, List.forall_mem_singleton.mpr fun hnone =>
        hcomes (by simp [hnone])⟩
      input := by
        rw [offered_snoc_of_none rfl]
        exact ⟨taken, hcarried.congr rfl rfl rfl rfl,
          hexcused.congr _ rfl rfl rfl rfl (fun _ => rfl) fun hend => absurd hend hopen⟩
      output := by rw [hmore]; exact h.output.chunk bytes
      texts := h.texts.congr .inl rfl rfl }

/-- **A move keeps the balances**: it brings a frame or output, ends a side, or is one of the steps of a pump. -/
theorem Balanced.move (h : Balanced notices ms p) (m : Move) :
    Balanced notices (ms ++ [m]) (p.move m) := by
  cases m with
  | stepInput => exact h.inputStep ⟨rfl, rfl, nofun, nofun⟩ (inputStep_stepInput _ p)
  | write n => exact h.inputStep ⟨rfl, rfl, nofun, nofun⟩ (inputStep_write _ p n)
  | failInput => exact h.inputStep ⟨rfl, rfl, nofun, nofun⟩ (inputStep_failInput p)
  | stopInput => exact h.inputStep ⟨rfl, rfl, nofun, nofun⟩ (inputStep_stopInput _ p)
  | stepOutput => exact h.outputStep ⟨rfl, rfl, nofun, nofun⟩ (outputStep_stepOutput _ p)
  | failOutput => exact h.outputStep ⟨rfl, rfl, nofun, nofun⟩ (outputStep_failOutput p)
  | stopOutput => exact h.outputStep ⟨rfl, rfl, nofun, nofun⟩ (outputStep_stopOutput _ p)
  | frame f => exact h.frame f
  | chunk bytes => exact h.chunk bytes
  | endCaller =>
    exact h.sides (offered_snoc_of_none rfl ms) (emitted_snoc_of_nil rfl ms) (by simp) .inl (by simp) .inl
  | deafenCaller =>
    exact h.sides (offered_snoc_of_none rfl ms) (emitted_snoc_of_nil rfl ms) (by simp) (fun _ => .inr rfl)
      (by simp) .inl
  | endUnit =>
    exact h.sides (offered_snoc_of_none rfl ms) (emitted_snoc_of_nil rfl ms) (by simp) .inl (by simp)
      fun _ => .inr rfl

/-- So do moves, one after another. -/
theorem Balanced.moves (h : Balanced notices ms p) (more : List Move) :
    Balanced notices (ms ++ more) (p.moves more) := by
  induction more using List.reverseRecOn with
  | nil =>
    rw [List.append_nil]
    exact h
  | append_singleton more m ih =>
    rw [Pumps.moves, List.foldl_append, ← List.append_assoc]
    exact ih.move m

/-- **The balances hold along every list of moves** from a terminal that has sent its notices, whatever comes in
and in whichever order the pumps are given their steps. -/
theorem balanced_moves (notices : List String) (ms : List Move) :
    Balanced notices ms (({ sent := notices.map .text } : Pumps).moves ms) :=
  have hfirst : Balanced notices [] { sent := notices.map .text } :=
    { caller := iff_of_false nofun (List.not_mem_nil)
      unit := iff_of_false nofun (List.not_mem_nil)
      deaf := nofun
      pieces := nofun
      input := ⟨[], .intact rfl rfl rfl (by simp) nofun, ⟨by simp, nofun, nofun⟩⟩
      output := .intact (by simp [shown, unsent, emitted, ServerFrame.output])
      texts := ⟨nofun, 0, Nat.zero_le _, by simp [texts_notices], fun _ _ => rfl⟩ }
  hfirst.moves ms

/-- **A terminal that loses, repeats and reorders nothing**: what has come of moves in which the
frames `taken` were taken, where the caller was sent notices before. -/
structure Faithful (notices : List String) (ms : List Move) (taken : List ClientFrame) (p : Pumps) :
    Prop where
  /-- Frames are taken in the order in which they come. -/
  order : offered ms = taken ++ p.frames
  /-- The unit receives only what is typed, and in order. -/
  received : p.received <+: typed (offered ms)
  /-- No keystrokes are missing while the input's pump works. -/
  unwritten : p.input ≠ .ended → p.received ++ p.unwritten = typed taken
  /-- None are missing once the pump has taken a close, which it does only if no write failed. -/
  closed : .close ∈ taken → p.received = typed (offered ms)
  /-- Errands are done in order, one for each frame that asks for one. -/
  issued : p.issued ++ p.underway = taken.filterMap ClientFrame.errand?
  /-- The texts after the notices are answers to pings, one for each unless sending may fail. -/
  answers : ∃ n ≤ p.issued.count .pong,
    p.texts = notices ++ List.replicate n Control.pong.json.text ∧
    (.deafenCaller ∉ ms → .failInput ∉ ms → n = p.issued.count .pong)
  /-- The caller is shown only what the unit says, and in order. -/
  shown : p.shown <+: emitted ms
  /-- No output is missing while the output's pump works. -/
  unsent : p.output ≠ .ended → p.shown ++ p.unsent ++ p.chunks.flatten = emitted ms
  /-- The input's pump does not end without a reason, its own or the other's: unless a write failed or a side came
  to its end, it took a close. -/
  inputEnded : p.input = .ended → InputDone ms taken p ∨ p.output = .ended ∧ OutputDone ms p
  /-- Nor does the output's. -/
  outputEnded : p.output = .ended → OutputDone ms p ∨ p.input = .ended ∧ InputDone ms taken p

/-- **Where the balances hold, nothing is lost, repeated or reordered**: the frames taken are those that the
balance of the input speaks of, and each clause is one of the balances. -/
theorem Balanced.faithful (h : Balanced notices ms p) : ∃ taken, Faithful notices ms taken p := by
  obtain ⟨taken, hinput, hexcused⟩ := h.input
  obtain ⟨lost, hwritten, hlost⟩ := hinput.written
  obtain ⟨missed, hbalance, -⟩ := h.output.balance
  have hreceived : p.received <+: typed taken := by
    rw [← hwritten, List.append_assoc]
    exact List.prefix_append _ _
  refine ⟨taken, {
    order := hinput.order
    received := hinput.order ▸ hreceived.trans (typed_isPrefix_append taken p.frames)
    unwritten := hinput.received_unwritten
    closed := fun hclose => ?_
    issued := hinput.issued
    answers := h.texts.answers
    shown := ?_
    unsent := h.output.shown_unsent
    inputEnded := hexcused.input
    outputEnded := hexcused.output }⟩
  · have hnothing : lost = [] := by_contra fun hne => (hlost hne).2 hclose
    have hnone : p.unwritten = [] := by
      rcases hinput.closed hclose with h | h <;> simp [Pumps.unwritten, h]
    rw [hinput.order, typed_append_of_close hclose, ← hwritten, hnothing, hnone]
    simp
  · rw [← hbalance, List.append_assoc, List.append_assoc]
    exact List.prefix_append _ _

end Pumps

end FleetControl.Terminal
