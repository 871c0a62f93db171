/-!
# UTF-8 with replacement

Bytes as text. A well-formed sequence is its character; of an ill-formed one the longest part that
could still have begun a character is replaced by one replacement character, and decoding goes on
after that part. `decode` is total: every byte sequence is some text.
-/

namespace FleetControl.Text.Utf8

/-- The character put in place of an ill-formed sequence. -/
def replacement : Char := Char.ofNat 0xFFFD

/-- A continuation byte. -/
def isTail (b : UInt8) : Bool := 0x80 ≤ b && b ≤ 0xBF

/-- How many bytes follow a first byte, and the range of the first of them; `none` where no
character starts so. -/
def lead (b : UInt8) : Option (Nat × UInt8 × UInt8) :=
  if 0xC2 ≤ b && b ≤ 0xDF then some (1, 0x80, 0xBF)
  else if b == 0xE0 then some (2, 0xA0, 0xBF)
  else if b == 0xED then some (2, 0x80, 0x9F)
  else if 0xE1 ≤ b && b ≤ 0xEF then some (2, 0x80, 0xBF)
  else if b == 0xF0 then some (3, 0x90, 0xBF)
  else if 0xF1 ≤ b && b ≤ 0xF3 then some (3, 0x80, 0xBF)
  else if b == 0xF4 then some (3, 0x80, 0x8F)
  else none

/-- The continuation bytes at the head of `bs`, at most `n` of them. -/
def tails (n : Nat) (bs : List UInt8) : List UInt8 := (bs.take n).takeWhile isTail

/-- Bits of the first byte of a sequence with `n` continuation bytes. -/
def leadBits (n : Nat) (b : UInt8) : Nat :=
  match n with
  | 1 => b.toNat % 32
  | 2 => b.toNat % 16
  | _ => b.toNat % 8

/-- **The first character** of a byte sequence and how many bytes after the first belong to it. -/
def first (b : UInt8) (bs : List UInt8) : Char × Nat :=
  if b < 0x80 then (Char.ofNat b.toNat, 0)
  else match lead b with
    | none => (replacement, 0)
    | some (n, lo, hi) =>
      match bs with
      | [] => (replacement, 0)
      | c :: _ =>
        if c < lo || hi < c then (replacement, 0)
        else
          let ts := tails n bs
          if ts.length == n then
            (Char.ofNat (ts.foldl (fun v t => v * 64 + t.toNat % 64) (leadBits n b)), n)
          else (replacement, ts.length)

/-- Decode bytes, replacing ill-formed sequences. -/
def decodeChars : List UInt8 → List Char
  | [] => []
  | b :: bs =>
    let (c, n) := first b bs
    c :: decodeChars (bs.drop n)
termination_by bs => bs.length
decreasing_by simp only [List.length_cons, List.length_drop]; omega

/-- **Bytes as text.** -/
def decode (bs : List UInt8) : String := String.ofList (decodeChars bs)

/-- The bytes of a text. -/
def encode (s : String) : List UInt8 := s.toUTF8.toList

/-- Whether bytes are well-formed, so that nothing is replaced. -/
def isWellFormed (bs : List UInt8) : Bool := (String.fromUTF8? ⟨bs.toArray⟩).isSome

end FleetControl.Text.Utf8
