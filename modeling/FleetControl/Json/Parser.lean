import FleetControl.Json.Draft
import FleetControl.Number.Scaled
import FleetControl.Text.Utf8

/-!
# Reading JSON text

A text is given as bytes. `Draft.parse` takes the value at its head, as far as the text goes, and what
follows it; `Json.read?` takes a whole text as one value. Both refuse control characters in strings,
leading zeros and bare points in numbers. A string is unfit if its bytes are no text or an escape in
it is an unpaired surrogate.
-/

namespace FleetControl.Json

/-- A byte as the character of its number. -/
def byteChar (b : UInt8) : Char := Char.ofNat b.toNat

/-- The first byte of a text as a character. -/
def headChar? (bs : List UInt8) : Option Char := bs.head?.map byteChar

/-- Blanks between tokens. -/
def isSpace (b : UInt8) : Bool := b == 32 || b == 10 || b == 9 || b == 13

/-- The value of a hexadecimal digit. -/
def hexDigit? (c : Char) : Option Nat :=
  if c.isDigit then some (c.toNat - '0'.toNat)
  else if 'a' ≤ c ∧ c ≤ 'f' then some (c.toNat - 'a'.toNat + 10)
  else if 'A' ≤ c ∧ c ≤ 'F' then some (c.toNat - 'A'.toNat + 10)
  else none

/-- Four hexadecimal digits and what follows them. -/
def hex4? : List UInt8 → Option (Nat × List UInt8)
  | a :: b :: c :: d :: rest => do
    let a ← hexDigit? (byteChar a)
    let b ← hexDigit? (byteChar b)
    let c ← hexDigit? (byteChar c)
    let d ← hexDigit? (byteChar d)
    some (((a * 16 + b) * 16 + c) * 16 + d, rest)
  | _ => none

/-- The second half of a pair of surrogates, written as an escape. -/
def lowSurrogate? (bs : List UInt8) : Option (Nat × List UInt8) :=
  if (Text.Utf8.encode "\\u").isPrefixOf bs then
    (hex4? (bs.drop 2)).filter fun (n, _) => 0xDC00 ≤ n && n ≤ 0xDFFF
  else none

/-- The character of a numbered escape, its `u` already taken: one unit, or a pair of surrogates. An
unpaired surrogate is no character. -/
def escaped? (bs : List UInt8) : Option (Option Char × List UInt8) := do
  let (n, rest) ← hex4? bs
  if 0xDC00 ≤ n ∧ n ≤ 0xDFFF then some (none, rest)
  else if 0xD800 ≤ n ∧ n ≤ 0xDBFF then
    match lowSurrogate? rest with
    | some (l, rest) =>
      some (some (Char.ofNat ((n - 0xD800) * 0x400 + (l - 0xDC00) + 0x10000)), rest)
    | none => some (none, rest)
  else some (some (Char.ofNat n), rest)

/-- The characters that follow a backslash as themselves, and what they stand for. -/
def shortEscape? : Char → Option Char
  | '"' => some '"'
  | '\\' => some '\\'
  | '/' => some '/'
  | 'b' => some (Char.ofNat 8)
  | 'f' => some (Char.ofNat 12)
  | 'n' => some '\n'
  | 'r' => some '\r'
  | 't' => some '\t'
  | _ => none

/-- The character of an escape, its backslash already taken. -/
def escape? : List UInt8 → Option (Option Char × List UInt8)
  | [] => none
  | b :: rest =>
    if byteChar b == 'u' then escaped? rest
    else (shortEscape? (byteChar b)).map fun c => (some c, rest)

/-- The bytes of a string, last first, or nothing once it is unfit. -/
abbrev Spelled := Option (List UInt8)

/-- One more character of a string. -/
def extend (acc : Spelled) (c : Option Char) : Spelled := do
  let bs ← acc
  let c ← c
  some ((Text.Utf8.encode c.toString).reverse ++ bs)

/-- The text of a string. -/
def spelling? (acc : Spelled) : Option String := do
  let bs ← acc
  String.fromUTF8? ⟨bs.reverse.toArray⟩

/-- The rest of a string whose opening quote is taken, after the bytes in `acc`; `fuel` bounds its
length. There is no string where the text breaks off; an unfit one has no text. -/
def stringBody? : Nat → Spelled → List UInt8 → Option (Option String × List UInt8)
  | 0, _, _ => none
  | _ + 1, _, [] => none
  | fuel + 1, acc, b :: bs =>
    if byteChar b == '"' then some (spelling? acc, bs)
    else if b < 0x20 then none
    else if byteChar b == '\\' then do
      let (c, rest) ← escape? bs
      stringBody? fuel (extend acc c) rest
    else stringBody? fuel (acc.map (b :: ·)) bs

/-- A string whose opening quote is taken, and what follows it. -/
def string? (fuel : Nat) (bs : List UInt8) : Option (Option String × List UInt8) :=
  stringBody? fuel (some []) bs

/-- Decimal digits at the head of a text, and what follows them. -/
def digits (bs : List UInt8) : List Char × List UInt8 :=
  let (ds, rest) := bs.span fun b => (byteChar b).isDigit
  (ds.map byteChar, rest)

/-- The power of ten of a number, its letter already taken. -/
def power? (bs : List UInt8) : Option (Int × List UInt8) :=
  let (sign, bs) : Int × List UInt8 := match headChar? bs with
    | some '-' => (-1, bs.tail)
    | some '+' => (1, bs.tail)
    | _ => (1, bs)
  let (ds, rest) := digits bs
  (Number.digits? ds).map fun n => (sign * n, rest)

/-- The value of a number from its parts. -/
def numeral (negative : Bool) (whole part : List Char) (power : Option Int) : Draft :=
  let value := (Number.digitsFrom 0 whole).getD 0
  if part.isEmpty && power.isNone && !negative && value < UInt64.size then .int value
  else if part.isEmpty && power.isNone && negative && 0 < value &&
      Int64.minValue.toInt ≤ -(value : Int) then
    .int (-value)
  else match Number.scaledNumeral? negative whole part (power.getD 0) with
    | some x => .real x
    | none => .unfit

/-- A number at the head of a text. -/
def number? (bs : List UInt8) : Option (Draft × List UInt8) := do
  let (negative, bs) := match headChar? bs with
    | some '-' => (true, bs.tail)
    | _ => (false, bs)
  let (whole, rest) := digits bs
  if whole.isEmpty || (whole.head? == some '0' && whole.length > 1) then none
  let (part, rest) ← match headChar? rest with
    | some '.' =>
      let (part, r) := digits rest.tail
      if part.isEmpty then none else some (part, r)
    | _ => some ([], rest)
  match headChar? rest with
  | some 'e' | some 'E' =>
    let (p, r) ← power? rest.tail
    some (numeral negative whole part (some p), r)
  | _ => some (numeral negative whole part none, rest)

namespace Draft

/-- What stands at the head of a text, and what follows it; nothing follows a fault. -/
abbrev Parsed := Draft × Option (List UInt8)

/-- A value that could be told, or a fault. -/
def told : Option (Draft × List UInt8) → Parsed
  | some (v, rest) => (v, some rest)
  | none => (.fault, none)

/-- A word at the head of a text. -/
def word (w : String) (v : Draft) (bs : List UInt8) : Parsed :=
  let letters := Text.Utf8.encode w
  told (if letters.isPrefixOf bs then some (v, bs.drop letters.length) else none)

/-- How an object ends in which something else stands at the place of its first name. -/
def misnaming : Draft → Ending
  | .fault | .unfit => .broken
  | _ => .misnamed

mutual

/-- A value at the head of a text; `fuel` bounds the number of tokens and the length of strings. -/
def parseValue : Nat → List UInt8 → Parsed
  | 0, _ => (.fault, none)
  | fuel + 1, bs =>
    let bs := bs.dropWhile isSpace
    match headChar? bs with
    | some 'n' => word "null" .null bs
    | some 't' => word "true" (.bool true) bs
    | some 'f' => word "false" (.bool false) bs
    | some '"' => told ((string? fuel bs.tail).map fun (s, rest) => (s.elim .unfit .str, rest))
    | some '[' =>
      let rest := bs.tail.dropWhile isSpace
      if headChar? rest == some ']' then (.arr [] true, some rest.tail)
      else parseItems fuel [] rest
    | some '\x7b' =>
      let rest := bs.tail.dropWhile isSpace
      if headChar? rest == some '\x7d' then (.obj [] .closed, some rest.tail)
      else parseMembers fuel [] rest
    | _ => told (number? bs)

/-- The items of an array after those in `acc`, last first. -/
def parseItems : Nat → List Draft → List UInt8 → Parsed
  | 0, acc, _ => (.arr acc.reverse false, none)
  | fuel + 1, acc, bs =>
    let (v, rest) := parseValue fuel bs
    let acc := v :: acc
    match rest.map (·.dropWhile isSpace) with
    | none => (.arr acc.reverse false, none)
    | some rest =>
      match headChar? rest with
      | some ',' => parseItems fuel acc rest.tail
      | some ']' => (.arr acc.reverse true, some rest.tail)
      | _ => (.arr acc.reverse false, none)

/-- The members of an object after those in `acc`, last first. -/
def parseMembers : Nat → List (Option String × Draft) → List UInt8 → Parsed
  | 0, acc, _ => (.obj acc.reverse .broken, none)
  | fuel + 1, acc, bs =>
    let bs := bs.dropWhile isSpace
    if headChar? bs != some '"' then
      let ending := if acc.isEmpty then misnaming (parseValue fuel bs).1 else .broken
      (.obj acc.reverse ending, none)
    else match string? fuel bs.tail with
      | none => (.obj acc.reverse .broken, none)
      | some (name, rest) =>
        let rest := rest.dropWhile isSpace
        if headChar? rest != some ':' then
          (.obj ((name, .fault) :: acc).reverse .broken, none)
        else
          let (v, rest) := parseValue fuel rest.tail
          let acc := (name, v) :: acc
          match rest.map (·.dropWhile isSpace) with
          | none => (.obj acc.reverse .broken, none)
          | some rest =>
            match headChar? rest with
            | some ',' => parseMembers fuel acc rest.tail
            | some '\x7d' => (.obj acc.reverse .closed, some rest.tail)
            | _ => (.obj acc.reverse .broken, none)

end

/-- **The value at the head of a text**, as far as the text goes, and what follows it. -/
def parse (bs : List UInt8) : Parsed := parseValue (2 * bs.length + 2) bs

end Draft

/-- **A whole text as one value.** -/
def read? (s : String) : Option Json :=
  match Draft.parse (Text.Utf8.encode s) with
  | (v, some rest) => if rest.all isSpace then v.value? else none
  | (_, none) => none

end FleetControl.Json
