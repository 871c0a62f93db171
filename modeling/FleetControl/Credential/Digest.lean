/-!
# A digest of 512 bits

The digest of the second family with words of 64 bits: a message is filled up to whole blocks, and each
block is mixed into eight words. `seeds` and `constants` are the first bits of the fractions of the
square roots of eight primes and of the cube roots of eighty.
-/

namespace FleetControl.Credential.Digest

/-- **Eight words** that are mixed. -/
structure Words where
  a : UInt64
  b : UInt64
  c : UInt64
  d : UInt64
  e : UInt64
  f : UInt64
  g : UInt64
  h : UInt64
deriving Repr, DecidableEq, Inhabited

/-- The words before the first block. -/
def seeds : Words :=
  ⟨0x6a09e667f3bcc908, 0xbb67ae8584caa73b, 0x3c6ef372fe94f82b, 0xa54ff53a5f1d36f1,
   0x510e527fade682d1, 0x9b05688c2b3e6c1f, 0x1f83d9abfb41bd6b, 0x5be0cd19137e2179⟩

/-- A constant for each step of a block. -/
def constants : List UInt64 := [
   0x428a2f98d728ae22, 0x7137449123ef65cd, 0xb5c0fbcfec4d3b2f, 0xe9b5dba58189dbbc,
   0x3956c25bf348b538, 0x59f111f1b605d019, 0x923f82a4af194f9b, 0xab1c5ed5da6d8118,
   0xd807aa98a3030242, 0x12835b0145706fbe, 0x243185be4ee4b28c, 0x550c7dc3d5ffb4e2,
   0x72be5d74f27b896f, 0x80deb1fe3b1696b1, 0x9bdc06a725c71235, 0xc19bf174cf692694,
   0xe49b69c19ef14ad2, 0xefbe4786384f25e3, 0x0fc19dc68b8cd5b5, 0x240ca1cc77ac9c65,
   0x2de92c6f592b0275, 0x4a7484aa6ea6e483, 0x5cb0a9dcbd41fbd4, 0x76f988da831153b5,
   0x983e5152ee66dfab, 0xa831c66d2db43210, 0xb00327c898fb213f, 0xbf597fc7beef0ee4,
   0xc6e00bf33da88fc2, 0xd5a79147930aa725, 0x06ca6351e003826f, 0x142929670a0e6e70,
   0x27b70a8546d22ffc, 0x2e1b21385c26c926, 0x4d2c6dfc5ac42aed, 0x53380d139d95b3df,
   0x650a73548baf63de, 0x766a0abb3c77b2a8, 0x81c2c92e47edaee6, 0x92722c851482353b,
   0xa2bfe8a14cf10364, 0xa81a664bbc423001, 0xc24b8b70d0f89791, 0xc76c51a30654be30,
   0xd192e819d6ef5218, 0xd69906245565a910, 0xf40e35855771202a, 0x106aa07032bbd1b8,
   0x19a4c116b8d2d0c8, 0x1e376c085141ab53, 0x2748774cdf8eeb99, 0x34b0bcb5e19b48a8,
   0x391c0cb3c5c95a63, 0x4ed8aa4ae3418acb, 0x5b9cca4f7763e373, 0x682e6ff3d6b2b8a3,
   0x748f82ee5defb2fc, 0x78a5636f43172f60, 0x84c87814a1f0ab72, 0x8cc702081a6439ec,
   0x90befffa23631e28, 0xa4506cebde82bde9, 0xbef9a3f7b2c67915, 0xc67178f2e372532b,
   0xca273eceea26619c, 0xd186b8c721c0c207, 0xeada7dd6cde0eb1e, 0xf57d4f7fee6ed178,
   0x06f067aa72176fba, 0x0a637dc5a2c898a6, 0x113f9804bef90dae, 0x1b710b35131c471b,
   0x28db77f523047d84, 0x32caab7b40c72493, 0x3c9ebe0a15c9bebc, 0x431d67c49c100d4c,
   0x4cc5d4becb3e42b6, 0x597f299cfc657e2a, 0x5fcb6fab3ad6faec, 0x6c44198c4a475817]

/-- A word with its bits turned to the right. -/
def turn (n : UInt64) (w : UInt64) : UInt64 := (w >>> n) ||| (w <<< (64 - n))

/-- One step, with the constant and the word of the message for it. -/
def step (s : Words) (k w : UInt64) : Words :=
  let turned := turn 14 s.e ^^^ turn 18 s.e ^^^ turn 41 s.e
  let chosen := (s.e &&& s.f) ^^^ (s.e.complement &&& s.g)
  let t := s.h + turned + chosen + k + w
  let turned' := turn 28 s.a ^^^ turn 34 s.a ^^^ turn 39 s.a
  let most := (s.a &&& s.b) ^^^ (s.a &&& s.c) ^^^ (s.b &&& s.c)
  ⟨t + turned' + most, s.a, s.b, s.c, s.d + t, s.e, s.f, s.g⟩

/-- The next word for the steps of a block, given those before it, last first. -/
def nextWord (ws : List UInt64) : UInt64 :=
  let at_ (n : Nat) : UInt64 := ws.getD (n - 1) 0
  let low := turn 1 (at_ 15) ^^^ turn 8 (at_ 15) ^^^ (at_ 15 >>> 7)
  let high := turn 19 (at_ 2) ^^^ turn 61 (at_ 2) ^^^ (at_ 2 >>> 6)
  at_ 16 + low + at_ 7 + high

/-- The words for the steps of a block, given its own sixteen. -/
def schedule (block : List UInt64) : List UInt64 :=
  ((List.range 64).foldl (fun ws _ => nextWord ws :: ws) block.reverse).reverse

/-- The words after a block. -/
def mix (s : Words) (block : List UInt64) : Words :=
  let t := (constants.zip (schedule block)).foldl (fun t (k, w) => step t k w) s
  ⟨s.a + t.a, s.b + t.b, s.c + t.c, s.d + t.d, s.e + t.e, s.f + t.f, s.g + t.g, s.h + t.h⟩

/-- A word of eight bytes, the greatest first. -/
def word (bytes : List UInt8) : UInt64 := bytes.foldl (fun w b => (w <<< 8) ||| b.toUInt64) 0

/-- The bytes of a word, the greatest first. -/
def wordBytes (w : UInt64) : List UInt8 :=
  (List.range 8).map fun i => (w >>> UInt64.ofNat (56 - 8 * i)).toUInt8

/-- Parts of one length, `fuel` at most. -/
def parts {α : Type} (size : Nat) : Nat → List α → List (List α)
  | 0, _ => []
  | fuel + 1, xs => if xs.isEmpty then [] else xs.take size :: parts size fuel (xs.drop size)

/-- A message filled up to whole blocks: a bit, zeros, and its length in bits. -/
def filled (message : List UInt8) : List UInt8 :=
  let zeros := (239 - message.length % 128) % 128
  message ++ 0x80 :: List.replicate (zeros + 8) 0 ++ wordBytes (UInt64.ofNat (8 * message.length))

/-- **The digest of a message.** -/
def digest (message : List UInt8) : List UInt8 :=
  let bytes := filled message
  let words := (parts 8 bytes.length bytes).map word
  let s := (parts 16 words.length words).foldl mix seeds
  [s.a, s.b, s.c, s.d, s.e, s.f, s.g, s.h].flatMap wordBytes

end FleetControl.Credential.Digest
