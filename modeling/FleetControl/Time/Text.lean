import FleetControl.Text.Blank
import FleetControl.Number.Unsigned
import FleetControl.Time.Instant

/-!
# Times in text

Times are written as a date, the letter T, a time of day, a fraction of 0, 3, 6 or 9 digits, and the
offset. There are two readers. `strict?` wants every field at its full width and one separator;
`lenient?` also takes blanks around the fields, short fields, and a signed year.
-/

namespace FleetControl.Time

/-! ## Writing -/

/-- Decimal digits to a width. -/
def padded (width n : Nat) : String :=
  let ds := (toString n).toList
  String.ofList (List.replicate (width - ds.length) '0' ++ ds)

/-- A year: four digits, signed outside of those. -/
def yearText (y : Int) : String :=
  if 0 ≤ y ∧ y ≤ 9999 then padded 4 y.natAbs
  else (if y < 0 then "-" else "+") ++ padded 4 y.natAbs

/-- The fraction of a second: as few groups of three digits as hold it. -/
def fractionText (nanos : Nat) : String :=
  if nanos == 0 then ""
  else if nanos % 1000000 == 0 then "." ++ padded 3 (nanos / 1000000)
  else if nanos % 1000 == 0 then "." ++ padded 6 (nanos / 1000)
  else "." ++ padded 9 nanos

/-- Date and time of day without an offset. -/
def Instant.wallText (t : Instant) : String :=
  let d := Date.ofDays t.day
  let leap := t.nanos / 1000000000
  yearText d.year ++ "-" ++ padded 2 d.month ++ "-" ++ padded 2 d.day ++ "T" ++
    padded 2 (t.second / 3600) ++ ":" ++ padded 2 (t.second / 60 % 60) ++ ":" ++
    padded 2 (t.second % 60 + leap) ++ fractionText (t.nanos % 1000000000)

/-- **An instant in text**, with the letter Z for universal time. -/
def Instant.text (t : Instant) : String := t.wallText ++ "Z"

/-- An offset in hours and minutes. -/
def offsetText (seconds : Int) : String :=
  let m := seconds.natAbs / 60
  (if seconds < 0 then "-" else "+") ++ padded 2 (m / 60) ++ ":" ++ padded 2 (m % 60)

/-- A moment in text, with its offset in digits. -/
def Moment.text (m : Moment) : String := m.wall.wallText ++ offsetText m.offset

/-! ## Reading -/

/-- A number of `least` to `most` digits at the head of a text. -/
def number? (least most : Nat) (cs : List Char) : Option (Nat × List Char) :=
  let ds := (cs.take most).takeWhile Char.isDigit
  if ds.length < least then none
  else (Number.digits? ds).map fun n => (n, cs.drop ds.length)

/-- One given character at the head of a text. -/
def char? (c : Char) : List Char → Option (List Char)
  | d :: rest => if d == c then some rest else none
  | [] => none

/-- An optional fraction at the head of a text, in nanoseconds; digits past the ninth are dropped. -/
def fraction? (cs : List Char) : Option (Nat × List Char) :=
  match cs with
  | '.' :: rest => do
    let (n, after) ← number? 1 9 rest
    let width := rest.length - after.length
    some (n * Nat.pow 10 (9 - width), after.dropWhile Char.isDigit)
  | _ => some (0, cs)

/-- The two letters that may stand between date and time, and the blank. -/
def separator? : List Char → Option (List Char)
  | c :: rest => if c == 'T' || c == 't' || c == ' ' then some rest else none
  | [] => none

/-- An offset at the head of a text, in seconds; `colon` takes what separates hours and minutes. -/
def offset? (colon : List Char → Option (List Char)) (cs : List Char) : Option (Int × List Char) :=
  match cs with
  | [] => none
  | c :: rest =>
    if c == 'Z' || c == 'z' then some (0, rest)
    else do
      let sign : Int ←
        if c == '+' then some 1
        else if c == '-' || c.toNat == 0x2212 then some (-1)
        else none
      let (h, rest) ← number? 2 2 rest
      let rest ← colon rest
      let (m, rest) ← number? 2 2 rest
      if 59 < m then none else some (sign * (h * 3600 + m * 60), rest)

/-- The years for which there are dates. -/
def hasDates (year : Int) : Bool := -262143 ≤ year && year ≤ 262142

/-- A moment from its fields; `none` if the calendar or the clock has no such time, at the moment's own
place or in universal time. -/
def moment? (year : Int) (month day hour minute second nanos : Nat) (offset : Int) : Option Moment := do
  let d ← date? year month day
  if !hasDates year ∨ 23 < hour ∨ 59 < minute ∨ 60 < second then none
  else if offset ≤ -86400 ∨ 86400 ≤ offset then none
  else
    let (second, nanos) := if second == 60 then (59, nanos + 1000000000) else (second, nanos)
    let wall : Instant := ⟨d.toDays, hour * 3600 + minute * 60 + second, nanos⟩
    let utc := wall.shift (-offset)
    if hasDates (Date.ofDays utc.day).year then some ⟨utc, offset⟩ else none

/-- **Read a time with every field at full width.** -/
def strict? (s : String) : Option Moment := do
  let (y, cs) ← number? 4 4 s.toList
  let cs ← char? '-' cs
  let (mo, cs) ← number? 2 2 cs
  let cs ← char? '-' cs
  let (d, cs) ← number? 2 2 cs
  let cs ← separator? cs
  let (h, cs) ← number? 2 2 cs
  let cs ← char? ':' cs
  let (mi, cs) ← number? 2 2 cs
  let cs ← char? ':' cs
  let (sec, cs) ← number? 2 2 cs
  let (n, cs) ← fraction? cs
  let (off, cs) ← offset? (char? ':') cs
  if cs.isEmpty then moment? y mo d h mi sec n off else none

/-- Blanks off the head of a text. -/
def skip (cs : List Char) : List Char := cs.dropWhile Text.isBlank

/-- A short field after blanks. -/
def field? (cs : List Char) : Option (Nat × List Char) := number? 1 2 (skip cs)

/-- A year: up to four digits, or a sign and any number of them. -/
def year? (cs : List Char) : Option (Int × List Char) :=
  match skip cs with
  | '-' :: rest => (number? 1 rest.length rest).map fun (n, r) => (-(n : Int), r)
  | '+' :: rest => (number? 1 rest.length rest).map fun (n, r) => ((n : Int), r)
  | rest => (number? 1 4 rest).map fun (n, r) => ((n : Int), r)

/-- What may stand between hours and minutes of an offset in the lenient form. -/
def looseColon (cs : List Char) : Option (List Char) :=
  some (cs.dropWhile fun c => c == ':' || Text.isBlank c)

/-- The offset of the lenient form, where the letters UTC also name universal time. -/
def looseOffset? (cs : List Char) : Option (Int × List Char) :=
  if (cs.take 3).map Char.toUpper == ['U', 'T', 'C'] then some (0, cs.drop 3)
  else offset? looseColon cs

/-- **Read a time with blanks and short fields allowed.** -/
def lenient? (s : String) : Option Moment := do
  let (y, cs) ← year? s.toList
  let cs ← char? '-' (skip cs)
  let (mo, cs) ← field? cs
  let cs ← char? '-' (skip cs)
  let (d, cs) ← field? cs
  let cs ← separator? cs
  let (h, cs) ← field? cs
  let cs ← char? ':' (skip cs)
  let (mi, cs) ← field? cs
  let cs ← char? ':' (skip cs)
  let (sec, cs) ← field? cs
  let (n, cs) ← fraction? cs
  let (off, cs) ← looseOffset? (skip cs)
  if (skip cs).isEmpty then moment? y mo d h mi sec n off else none

end FleetControl.Time
