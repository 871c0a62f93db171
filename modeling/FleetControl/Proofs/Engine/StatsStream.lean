import FleetControl.Engine.Client

/-!
# Frames of statistics, however they arrive

A stream of statistics arrives in chunks that may end anywhere, and its frames are taken out line by line,
until there are as many as were asked for. `framesOf` says which frames bytes hold, without chunks and
without a buffer: those of their complete lines. Taking lines out of a buffer loses none and makes up none,
whatever arrives after it (`drain_frames`), and so the frames of a stream are the first ones of all its bytes
(`framesFrom_frames`), whatever the chunks are (`stats_frames`).
-/

namespace FleetControl.Engine.Client

open Web (Reply Transport)

/-- The byte that ends a line. -/
def lineFeed : UInt8 := 10

/-- **The complete lines of bytes**, each with its line feed; what stands behind the last one is no line. -/
def lines (bs : List UInt8) : List (List UInt8) := (bs.splitOn lineFeed).dropLast.map (· ++ [lineFeed])

/-- **The frames that bytes hold**: blank lines, and lines that are no frame, are passed over. -/
def framesOf (bs : List UInt8) : List Frame :=
  ((lines bs).filter fun l => !l.all isLineBlank).filterMap fun l => (Frame.ofJson.whole l).toOption

variable {σ : Type} {most : Nat} {found : List Frame} {bs line rest : List UInt8}

/-! ## Lines -/

/-- **A line ends at the first line feed.** -/
theorem line?_eq_some : ∀ {bs line rest : List UInt8}, line? bs = some (line, rest) →
    ∃ body, lineFeed ∉ body ∧ line = body ++ [lineFeed] ∧ bs = body ++ lineFeed :: rest
  | [], _, _, h => by cases h
  | b :: bs, line, rest, h => by
    unfold line? at h
    split at h
    · rename_i hb
      obtain ⟨rfl, rfl⟩ := Prod.mk.inj (Option.some.inj h)
      obtain rfl : b = lineFeed := eq_of_beq hb
      exact ⟨[], List.not_mem_nil, rfl, rfl⟩
    · rename_i hb
      obtain ⟨⟨l, r⟩, hline, heq⟩ := Option.map_eq_some_iff.mp h
      obtain ⟨rfl, rfl⟩ := Prod.mk.inj heq
      obtain ⟨body, hbody, rfl, rfl⟩ := line?_eq_some hline
      refine ⟨b :: body, ?_, rfl, rfl⟩
      have hne : lineFeed ≠ b := fun he => hb (beq_iff_eq.mpr he.symm)
      exact List.not_mem_cons_of_ne_of_not_mem hne hbody

/-- Where there is no line feed no line has ended yet. -/
theorem line?_eq_none : ∀ {bs : List UInt8}, line? bs = none → lineFeed ∉ bs
  | [], _ => List.not_mem_nil
  | b :: bs, h => by
    unfold line? at h
    split at h
    · cases h
    · rename_i hb
      have hne : lineFeed ≠ b := fun he => hb (beq_iff_eq.mpr he.symm)
      exact List.not_mem_cons_of_ne_of_not_mem hne (line?_eq_none (Option.map_eq_none_iff.mp h))

/-- Bytes without a line feed hold no frame yet. -/
theorem framesOf_of_notMem (h : lineFeed ∉ bs) : framesOf bs = [] := by
  unfold framesOf lines
  rw [List.splitOn_eq_singleton h]
  rfl

/-- **The first line holds a frame or none**, and the others hold theirs. -/
theorem framesOf_line (hbody : lineFeed ∉ bs) (rest : List UInt8) :
    framesOf (bs ++ lineFeed :: rest) = (frame? (bs ++ [lineFeed])).toList ++ framesOf rest := by
  have hsplit : (bs ++ lineFeed :: rest).splitOn lineFeed = bs :: rest.splitOn lineFeed := by
    rw [List.splitOn_append_cons_of_beq _ _ (beq_self_eq_true _), List.splitOn_eq_singleton hbody]
    rfl
  have hlines : lines (bs ++ lineFeed :: rest) = (bs ++ [lineFeed]) :: lines rest := by
    unfold lines
    rw [hsplit, List.dropLast_cons_of_ne_nil (List.splitOn_ne_nil _ _), List.map_cons]
  unfold framesOf frame?
  rw [hlines, List.filter_cons]
  cases hblank : (bs ++ [lineFeed]).all isLineBlank with
  | true => rfl
  | false =>
    have hheld : (!false) = true := rfl
    rw [if_pos hheld, if_neg Bool.false_ne_true, List.filterMap_cons]
    cases (Frame.ofJson.whole (bs ++ [lineFeed])).toOption <;> rfl

/-- A line holds one frame at the most. -/
theorem length_frame?_le (line : List UInt8) : (frame? line).toList.length ≤ 1 := by
  cases frame? line <;> simp

/-! ## The buffer -/

/-- **Taking lines out of a buffer changes nothing about the frames to come**, whatever arrives after it; it
ends with as many frames as were asked for, or with no complete line left. -/
theorem drain_frames : ∀ {fuel : Nat} {found : List Frame} {buffer : List UInt8}, found.length < most →
    buffer.length ≤ fuel →
    ((drain most fuel found buffer).1.length = most ∨ (drain most fuel found buffer).1.length < most ∧
      lineFeed ∉ (drain most fuel found buffer).2) ∧
    ∀ more, (found ++ framesOf (buffer ++ more)).take most =
      ((drain most fuel found buffer).1 ++ framesOf ((drain most fuel found buffer).2 ++ more)).take most
  | 0, found, buffer, hfound, hfuel => by
    obtain rfl := List.eq_nil_of_length_eq_zero (Nat.le_zero.mp hfuel)
    exact ⟨.inr ⟨hfound, List.not_mem_nil⟩, fun _ => rfl⟩
  | fuel + 1, found, buffer, hfound, hfuel => by
    unfold drain
    split
    · rename_i hnone
      exact ⟨.inr ⟨hfound, line?_eq_none hnone⟩, fun _ => rfl⟩
    · rename_i line rest hline
      obtain ⟨body, hbody, rfl, rfl⟩ := line?_eq_some hline
      have hone := length_frame?_le (body ++ [lineFeed])
      have hnext : ∀ more, found ++ framesOf (body ++ lineFeed :: rest ++ more) =
          found ++ (frame? (body ++ [lineFeed])).toList ++ framesOf (rest ++ more) := by
        intro more
        rw [List.append_assoc body, List.cons_append, framesOf_line hbody, List.append_assoc found]
      simp only [hnext]
      split
      · rename_i hfull
        refine ⟨.inl ?_, fun _ => rfl⟩
        rw [List.length_append] at hfull ⊢
        omega
      · rename_i hless
        refine drain_frames (Nat.not_le.mp hless) ?_
        rw [List.length_append, List.length_cons] at hfuel
        omega

/-- **The frames of a stream are the first ones of all its bytes**, those in the buffer included. -/
theorem framesFrom_frames : ∀ {chunks : List (List UInt8)} {found : List Frame} {buffer : List UInt8},
    found.length = most ∨ found.length < most ∧ lineFeed ∉ buffer →
    framesFrom most found buffer chunks = (found ++ framesOf (buffer ++ chunks.flatten)).take most
  | [], found, buffer, h => by
    rw [framesFrom, List.flatten_nil, List.append_nil]
    rcases h with rfl | ⟨hless, hbuffer⟩
    · exact (List.take_left).symm
    · rw [framesOf_of_notMem hbuffer, List.append_nil, List.take_of_length_le (Nat.le_of_lt hless)]
  | chunk :: rest, found, buffer, h => by
    rw [framesFrom]
    split
    · rename_i hfull
      obtain rfl : found.length = most := h.resolve_right fun hless => absurd hless.1 (Nat.not_lt.mpr hfull)
      exact (List.take_left).symm
    · rename_i hless
      obtain ⟨hstate, hframes⟩ := drain_frames (Nat.not_le.mp hless) (Nat.le_refl (buffer ++ chunk).length)
      rw [List.flatten_cons, ← List.append_assoc, hframes rest.flatten]
      exact framesFrom_frames hstate

/-- **Frames of statistics are the first ones that the delivered bytes hold**, however the stream ends, and
every other way to cut these bytes into chunks gives the same. -/
theorem stats_frames {c : Client} {send : Transport σ} {id : String} {most : Nat} {window : UInt64} {s s' : σ}
    {r : Reply} (sent : send (c.request (.stats id most window)) s = (.reply r, s'))
    (accepted : r.isSuccess = true ∨ r.status = 101) :
    c.answer send (.stats id most window) s = (.ok ((framesOf r.bytes).take most), s') ∧
    ∀ chunks, chunks.flatten = r.bytes → framesFrom most [] [] chunks = (framesOf r.bytes).take most := by
  have hstart : ([] : List Frame).length = most ∨
      ([] : List Frame).length < most ∧ lineFeed ∉ ([] : List UInt8) :=
    most.eq_zero_or_pos.imp Eq.symm fun h => ⟨h, List.not_mem_nil⟩
  have hframes : ∀ chunks, chunks.flatten = r.bytes →
      framesFrom most [] [] chunks = (framesOf r.bytes).take most := by
    intro chunks hchunks
    rw [framesFrom_frames hstart, hchunks]
    rfl
  refine ⟨?_, hframes⟩
  have hok : (r.isSuccess || r.status == 101) = true := by simpa using accepted
  have hreply : replyOf "stats stream did not open in time" (.reply r) = .ok r := if_pos hok
  have hanswer : c.answer send (.stats id most window) s =
      ((replyOf "stats stream did not open in time" (send (c.request (.stats id most window)) s).1).map
        fun r => framesFrom most [] [] r.chunks, (send (c.request (.stats id most window)) s).2) := rfl
  rw [hanswer, sent, hreply, Except.map, hframes r.chunks rfl]

/-- A stream that stalls: a frame whose text is cut inside a letter, a blank line, one that is no frame, an
empty frame, and one that does not end. -/
def scattered : Reply where
  status := 200
  chunks := [[123, 34, 114, 101, 97, 100, 34, 58, 34, 195], [169, 34, 125, 10, 13, 10, 120],
    [10, 123, 125, 10, 123, 125]]
  ending := .stalled

/-- The frames of a scattered stream are found. -/
theorem stats_frames_scattered :
    let c : Client := ⟨"tcp://host", "http://host", 5⟩
    let send : Transport Unit := fun _ s => (.reply scattered, s)
    send (c.request (.stats "c1" 3 1000)) () = (.reply scattered, ()) ∧
    (scattered.isSuccess = true ∨ scattered.status = 101) ∧
    c.answer send (.stats "c1" 3 1000) () = (.ok [{ read := "é" }, {}], ()) := by
  intro c send
  have sent : send (c.request (.stats "c1" 3 1000)) () = (.reply scattered, ()) := rfl
  have accepted : scattered.isSuccess = true ∨ scattered.status = 101 := .inl (by decide)
  have hframes : (framesOf scattered.bytes).take 3 = [{ read := "é" }, {}] := by decide +kernel
  refine ⟨sent, accepted, ?_⟩
  rw [(stats_frames sent accepted).1, hframes]

end FleetControl.Engine.Client
