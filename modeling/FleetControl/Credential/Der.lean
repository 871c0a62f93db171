/-!
# Distinguished encoding

Elements of a tag, a length and a content, each written in one way only. A `Der` reader takes what it
wants off the front of some bytes; what an element holds is read by a reader of its own, which has to
take all of it.
-/

namespace FleetControl.Credential

/-- **What is read off the front of some bytes.** -/
abbrev Der := StateT (List UInt8) Option

namespace Der

variable {α : Type}

/-! ## Tags -/

/-- A truth value. -/
def boolean : UInt8 := 0x01

/-- A whole number. -/
def integer : UInt8 := 0x02

/-- A string of bits. -/
def bitString : UInt8 := 0x03

/-- A string of bytes. -/
def octets : UInt8 := 0x04

/-- The name of a thing, as a path of numbers. -/
def identifier : UInt8 := 0x06

/-- Several elements in order. -/
def sequence : UInt8 := 0x30

/-- An element that is marked by a number. -/
def marked (n : UInt8) : UInt8 := 0xA0 + n

/-! ## Reading -/

/-- A length in its shortest form, and what follows it. -/
def length? : List UInt8 → Option (Nat × List UInt8)
  | [] => none
  | n :: rest =>
    if n < 0x80 then some (n.toNat, rest)
    else match n, rest with
      | 0x81, a :: rest => if a < 0x80 then none else some (a.toNat, rest)
      | 0x82, a :: b :: rest => if a == 0 then none else some (a.toNat * 256 + b.toNat, rest)
      | _, _ => none

/-- The longest content that is taken. -/
def longest : Nat := 65534

/-- The content of an element of a tag. -/
def element (tag : UInt8) : Der (List UInt8)
  | [] => none
  | t :: rest => do
    let (n, rest) ← length? rest
    if t == tag && n ≤ longest && n ≤ rest.length then some (rest.take n, rest.drop n) else none

/-- Whether an element of a tag comes next. -/
def isNext (tag : UInt8) : Der Bool := fun bs => some (bs.head? == some tag, bs)

/-- Whether nothing is left. -/
def atEnd : Der Bool := fun bs => some (bs.isEmpty, bs)

/-- All that is left. -/
def remaining : Der (List UInt8) := fun bs => some (bs, [])

/-- One byte. -/
def byte : Der UInt8
  | [] => none
  | b :: bs => some (b, bs)

/-- **Read all of some bytes.** -/
def whole (r : Der α) (bs : List UInt8) : Option α :=
  match r bs with
  | some (a, []) => some a
  | _ => none

/-- Read the content of an element. -/
def inside (tag : UInt8) (r : Der α) : Der α := do
  let content ← element tag
  StateT.lift (whole r content)

/-- Elements as long as there are any; `fuel` bounds their number. -/
def all (r : Der α) : Nat → Der (List α)
  | 0 => fun bs => if bs.isEmpty then some ([], []) else none
  | fuel + 1 => do
    if ← atEnd then pure []
    else
      let a ← r
      let as ← all r fuel
      pure (a :: as)

/-- As many elements as there are. -/
def many (r : Der α) : Der (List α) := fun bs => all r bs.length bs

/-- The bytes of a number that is not negative; a zero that only keeps it from being so is left out. -/
def natural : Der (List UInt8) := do
  match ← element integer with
  | [] => failure
  | [b] => if b < 0x80 then pure [b] else failure
  | a :: b :: rest =>
    if a == 0 then (if b < 0x80 then failure else pure (b :: rest))
    else if a < 0x80 then pure (a :: b :: rest)
    else failure

/-- A number of one byte. -/
def small : Der UInt8 := do
  match ← natural with
  | [b] => pure b
  | _ => failure

/-- A string of bits that fills its bytes. -/
def bits : Der (List UInt8) := inside bitString do
  let spare ← byte
  if spare == 0 then remaining else failure

/-- A truth value that is false where it is left out. -/
def flag : Der Bool := do
  if ← isNext boolean then
    inside boolean do
      match ← byte with
      | 0xFF => pure true
      | 0x00 => pure false
      | _ => failure
  else pure false

/-! ## Writing -/

/-- A length below 65536. -/
def lengthBytes (n : Nat) : List UInt8 :=
  if n < 0x80 then [UInt8.ofNat n]
  else if n < 0x100 then [0x81, UInt8.ofNat n]
  else [0x82, UInt8.ofNat (n / 256), UInt8.ofNat n]

/-- **An element.** -/
def encode (tag : UInt8) (content : List UInt8) : List UInt8 :=
  tag :: (lengthBytes content.length ++ content)

/-- A string of bits that fills its bytes. -/
def encodeBits (bytes : List UInt8) : List UInt8 := encode bitString (0 :: bytes)

/-- A number that is not negative, by its bytes without leading zeros. -/
def encodeNatural (bytes : List UInt8) : List UInt8 :=
  encode integer (if bytes.head?.any (0x80 ≤ ·) then 0 :: bytes else bytes)

/-! ## Numbers -/

/-- The number of bytes, the greatest first. -/
def toNat (bytes : List UInt8) : Nat := bytes.foldl (fun n b => n * 256 + b.toNat) 0

/-- The `size` lowest bytes of a number, the greatest first. -/
def ofNat (size n : Nat) : List UInt8 :=
  (List.range size).reverse.map fun i => UInt8.ofNat (n >>> (8 * i))

end Der

end FleetControl.Credential
