import FleetControl.Engine.Multiplex
import Mathlib.Data.List.Infix

/-!
# What framing hides and demultiplexing finds

An engine sends output frame by frame (`encode`). Where a frame stands in front, its header is recognised
and its length read back, whatever follows (`payloads_header`), so no byte of a payload is ever looked at as
a header, and the payloads of whole frames come out as they went in (`demultiplex_encode`).

A stream that is cut keeps the payload that arrived. What else comes out of it is what arrived of a header
that the cut falls into (`demultiplex_take`): with fewer than eight bytes there is nothing to demultiplex,
and they are left as they are (`demultiplex_cut`, `cut_header_stays`).
-/

namespace FleetControl.Engine.Multiplex

/-! ## Frames as they are sent -/

/-- **A frame of output.** -/
structure Frame where
  /-- 0 for input, 1 for output, 2 for errors. -/
  stream : UInt8
  payload : List UInt8
  isStream : stream ≤ 2
  isCounted : payload.length < UInt32.size

/-- A number in four bytes, the highest first. -/
def bigEndian (n : Nat) : List UInt8 :=
  [UInt8.ofNat (n / 0x1000000), UInt8.ofNat (n / 0x10000), UInt8.ofNat (n / 0x100), UInt8.ofNat n]

namespace Frame

/-- The eight bytes in front of the payload. -/
def header (f : Frame) : List UInt8 := f.stream :: 0 :: 0 :: 0 :: bigEndian f.payload.length

/-- A frame as it is sent. -/
def bytes (f : Frame) : List UInt8 := f.header ++ f.payload

/-- A header has its eight bytes: a kind, three of nothing, and four for the length. -/
theorem length_header (f : Frame) : f.header.length = headerLength := rfl

/-- A frame is as long as its header and its payload. -/
theorem length_bytes (f : Frame) : f.bytes.length = headerLength + f.payload.length := by
  rw [bytes, List.length_append, length_header]

end Frame

/-- **Frames as they are sent**, one after another. -/
def encode (fs : List Frame) : List UInt8 := fs.flatMap Frame.bytes

variable {bs : List UInt8}

/-! ## Headers are found -/

/-- A header is recognised in front of whatever follows it. -/
theorem isHeader_header (f : Frame) (bs : List UInt8) : isHeader (f.header ++ bs) = true := by
  have hstream : decide (f.stream ≤ 2) = true := decide_eq_true f.isStream
  show (decide (f.stream ≤ 2) && true && true && true) = true
  rw [hstream]
  rfl

/-- **The length in a header is that of the payload.** -/
theorem payloadLength_header (f : Frame) (bs : List UInt8) :
    payloadLength (f.header ++ bs) = f.payload.length := by
  have hcounted : f.payload.length < 0x100000000 := f.isCounted
  show ((_ * 256 + _) * 256 + _) * 256 + _ = _
  simp only [UInt8.toNat_ofNat']
  omega

/-- What is too short for a header is taken as it is. -/
theorem payloads_of_short (h : bs.length < headerLength) : payloads bs = bs := by
  rw [payloads, dif_neg (Nat.not_le.mpr h)]

/-- Bytes that do not begin with a header are taken as they are by the recursion, too. -/
theorem demultiplex_eq_payloads (bs : List UInt8) : demultiplex bs = payloads bs := by
  unfold demultiplex
  split
  · rfl
  · rename_i h
    rw [payloads, if_neg h]
    split <;> rfl

/-- **Behind a header stand so many bytes of payload, and then the next frame.** -/
theorem payloads_header (f : Frame) (bs : List UInt8) : payloads (f.header ++ bs) =
    bs.take f.payload.length ++ payloads (bs.drop f.payload.length) := by
  have hlength : headerLength ≤ (f.header ++ bs).length := by
    rw [List.length_append, f.length_header]
    exact Nat.le_add_right _ _
  have hrest : (f.header ++ bs).drop headerLength = bs := List.drop_left' f.length_header
  rw [payloads, dif_pos hlength, if_pos (isHeader_header f bs)]
  dsimp only
  rw [payloadLength_header, hrest]

/-- **A whole frame gives its payload**, whatever comes after it. -/
theorem payloads_bytes (f : Frame) (bs : List UInt8) :
    payloads (f.bytes ++ bs) = f.payload ++ payloads bs := by
  rw [Frame.bytes, List.append_assoc, payloads_header, List.take_left, List.drop_left]

/-- The payloads of whole frames come out one after another, by induction on the frames. -/
theorem payloads_encode : ∀ fs : List Frame, payloads (encode fs) = fs.flatMap Frame.payload
  | [] => payloads_of_short (Nat.zero_lt_succ _)
  | f :: rest => by
    rw [encode, List.flatMap_cons, payloads_bytes, List.flatMap_cons, ← payloads_encode rest]
    rfl

/-- **Demultiplexing undoes framing.** -/
theorem demultiplex_encode (fs : List Frame) : demultiplex (encode fs) = fs.flatMap Frame.payload := by
  rw [demultiplex_eq_payloads, payloads_encode]

/-! ## Streams that are cut -/

/-- **The payload that arrived** with the first so many bytes. -/
def arrived : List Frame → Nat → List UInt8
  | [], _ => []
  | f :: rest, n =>
    f.payload.take (n - headerLength) ++ arrived rest (n - headerLength - f.payload.length)

/-- What arrived of the header that the first so many bytes end in. -/
def torn : List Frame → Nat → List UInt8
  | [], _ => []
  | f :: rest, n =>
    if n < headerLength then f.header.take n else torn rest (n - headerLength - f.payload.length)

/-- **A cut falls into a header**: some of its bytes are there, and some are not. -/
def CutsHeader (fs : List Frame) (n : Nat) : Prop :=
  ∃ before f after, fs = before ++ f :: after ∧
    (encode before).length < n ∧ n < (encode before).length + headerLength

/-- Before the first byte nothing has arrived. -/
theorem arrived_zero : ∀ fs : List Frame, arrived fs 0 = []
  | [] => rfl
  | f :: rest => by
    rw [arrived, Nat.zero_sub, Nat.zero_sub, List.take_zero, arrived_zero rest]
    rfl

/-- What arrived is the beginning of all payload. -/
theorem arrived_isPrefix : ∀ (fs : List Frame) (n : Nat), arrived fs n <+: fs.flatMap Frame.payload
  | [], _ => List.prefix_refl []
  | f :: rest, n => by
    rw [arrived, List.flatMap_cons]
    by_cases h : n - headerLength < f.payload.length
    · have hnone : n - headerLength - f.payload.length = 0 := by omega
      rw [hnone, arrived_zero, List.append_nil]
      exact (List.take_prefix _ _).trans (List.prefix_append _ _)
    · rw [List.take_of_length_le (Nat.not_lt.mp h)]
      exact (List.prefix_append_right_inj _).mpr (arrived_isPrefix rest _)

/-- Only a cut that falls into a header leaves something of one. -/
theorem torn_eq_nil : ∀ {fs : List Frame} {n : Nat}, ¬ CutsHeader fs n → torn fs n = []
  | [], _, _ => rfl
  | f :: rest, n, h => by
    unfold torn
    split
    · rename_i hshort
      rcases Nat.eq_zero_or_pos n with rfl | hpos
      · exact List.take_zero
      · refine absurd ⟨[], f, rest, rfl, hpos, ?_⟩ h
        simpa [encode] using hshort
    · refine torn_eq_nil ?_
      rintro ⟨before, g, after, rfl, hbehind, hbefore⟩
      refine h ⟨f :: before, g, after, rfl, ?_⟩
      have hlength : (encode (f :: before)).length =
          headerLength + f.payload.length + (encode before).length := by
        rw [encode, List.flatMap_cons, List.length_append, f.length_bytes]
        rfl
      omega

/-- **A stream that is cut gives the payload that arrived**, and then what arrived of a header. -/
theorem demultiplex_take : ∀ (fs : List Frame) (n : Nat),
    demultiplex ((encode fs).take n) = arrived fs n ++ torn fs n
  | [], n => by
    rw [encode, List.flatMap_nil, List.take_nil]
    rfl
  | f :: rest, n => by
    have hbytes : encode (f :: rest) = f.header ++ (f.payload ++ encode rest) := List.append_assoc _ _ _
    rw [demultiplex_eq_payloads, hbytes, arrived, torn]
    split
    · rename_i hshort
      -- nothing behind the header has arrived
      have hnone : n - headerLength = 0 := by omega
      rw [List.take_append_of_le_length hshort.le,
        payloads_of_short (List.length_take_le n _ |>.trans_lt hshort), hnone, Nat.zero_sub, List.take_zero,
        arrived_zero]
      rfl
    · rename_i hlong
      have htake : (f.header ++ (f.payload ++ encode rest)).take n =
          f.header ++ (f.payload ++ encode rest).take (n - headerLength) := by
        rw [List.take_append, List.take_of_length_le (Nat.not_lt.mp hlong), f.length_header]
      have hpayload : ((f.payload ++ encode rest).take (n - headerLength)).take f.payload.length =
          f.payload.take (n - headerLength) := by
        rw [List.take_take, Nat.min_comm, ← List.take_take, List.take_left]
      have hrest : ((f.payload ++ encode rest).take (n - headerLength)).drop f.payload.length =
          (encode rest).take (n - headerLength - f.payload.length) := by
        rw [List.drop_take, List.drop_left]
      rw [htake, payloads_header, hpayload, hrest, ← demultiplex_eq_payloads, demultiplex_take rest,
        List.append_assoc]

/-- **A stream that is cut gives the payload that arrived**, and no other byte unless the cut falls into a
header; fewer bytes than a header has are left as they are. -/
theorem demultiplex_cut (fs : List Frame) (n : Nat) :
    arrived fs n <+: demultiplex ((encode fs).take n) ∧ arrived fs n <+: demultiplex (encode fs) ∧
    (CutsHeader fs n ∨ demultiplex ((encode fs).take n) = arrived fs n) ∧
    (headerLength ≤ n ∨ demultiplex ((encode fs).take n) = (encode fs).take n) := by
  have hcut := demultiplex_take fs n
  refine ⟨?_, ?_, ?_, ?_⟩
  · rw [hcut]
    exact List.prefix_append _ _
  · rw [demultiplex_eq_payloads, payloads_encode]
    exact arrived_isPrefix fs n
  · by_cases h : CutsHeader fs n
    · exact .inl h
    · rw [hcut, torn_eq_nil h, List.append_nil]
      exact .inr rfl
  · rcases Nat.lt_or_ge n headerLength with h | h
    · rw [demultiplex_eq_payloads]
      exact .inr (payloads_of_short (List.length_take_le _ _ |>.trans_lt h))
    · exact .inl h

/-- The letter A on the output. -/
def letter : Frame := ⟨1, [65], by decide, by decide⟩

/-- **A header that is cut stays**: what arrived of it comes out, and is no beginning of the payload. -/
theorem cut_header_stays : [letter, letter] ≠ [] ∧
    ¬ demultiplex ((encode [letter, letter]).take 1) <+: demultiplex (encode [letter, letter]) ∧
    ¬ demultiplex ((encode [letter, letter]).take 11) <+: demultiplex (encode [letter, letter]) := by
  refine ⟨List.cons_ne_nil _ _, ?_, ?_⟩
  · rw [demultiplex_take, demultiplex_eq_payloads, payloads_encode]
    decide
  · rw [demultiplex_take, demultiplex_eq_payloads, payloads_encode]
    decide

end FleetControl.Engine.Multiplex
