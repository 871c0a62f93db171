import FleetControl.Number.Decimal
import FleetControl.Text.Blank

/-!
# Amounts as command lines print them

Lenient readers of percentages, sizes with units and lists of processors. What cannot be read is
zero.
-/

namespace FleetControl.Telemetry

/-- Characters of the number before a unit. -/
def isNumeral (c : Char) : Bool := c.isDigit || c == '+' || c == '-' || c == '.'

/-- A number and the unit that follows it, in lower case. -/
def splitUnit (cs : List Char) : List Char × String :=
  let (number, unit) := (Text.strip cs).span isNumeral
  (Text.strip number, String.ofList (Text.asciiLower (Text.strip unit)))

/-- A number in text. -/
def double? (cs : List Char) : Option Float := Number.Decimal.read? (String.ofList cs)

/-- **A percentage**, its signs at the end left out. -/
def percent (s : String) : Float :=
  let cs := Text.dropEndWhile (· == '%') (Text.strip s.toList)
  (double? (Text.strip cs)).getD 0

/-- How many bytes a unit stands for. Units of two letters that end in `b` are decimal, all others
binary; an unknown unit is a byte. -/
def bytesPer (unit : String) : Float :=
  match unit with
  | "k" | "kib" => 1024
  | "m" | "mib" => 1024 * 1024
  | "g" | "gib" => 1024 * 1024 * 1024
  | "t" | "tib" => 1024 * 1024 * 1024 * 1024
  | "kb" => 1e3
  | "mb" => 1e6
  | "gb" => 1e9
  | "tb" => 1e12
  | _ => 1

/-- **A size in bytes**, cut to a whole number; a negative one is zero. -/
def bytes (cs : List Char) : UInt64 :=
  let (number, unit) := splitUnit cs
  match double? number with
  | none => 0
  | some x => if x ≤ 0 then 0 else (x * bytesPer unit).toUInt64

/-- **Used and total**, in bytes, with a slash between; a missing part is zero. -/
def usedTotal (s : String) : UInt64 × UInt64 :=
  match Text.splitOnce '/' s.toList with
  | some (used, total) => (bytes used, bytes total)
  | none => (bytes s.toList, 0)

/-- **An amount of GPU memory in megabytes**; gigabytes and kilobytes are converted. -/
def megabytes (cs : List Char) : Float :=
  let (number, unit) := splitUnit cs
  match double? number with
  | none => 0
  | some x =>
    match unit with
    | "gib" | "gb" | "g" => x * 1024
    | "kib" | "kb" | "k" => x / 1024
    | _ => x

/-- Total and used GPU memory in megabytes, over all cards. -/
structure CardLines where
  total : Float
  used : Float
deriving Repr, Inhabited

namespace CardLines

/-- Add the line of one card: its total and used memory. A line without both and a total that is not
positive do not count. -/
def add (sum : CardLines) (line : List Char) : CardLines :=
  match Text.splitAll ',' line with
  | total :: used :: _ =>
    let total := megabytes total
    if 0 < total then ⟨sum.total + total, sum.used + megabytes used⟩ else sum
  | _ => sum

/-- **The cards of an output**; none when no line counts. -/
def read? (output : String) : Option CardLines :=
  let lines := ((Text.lines output.toList).map Text.strip).filter fun l => !l.isEmpty
  let sum := lines.foldl add ⟨0, 0⟩
  if 0 < sum.total then some sum else none

end CardLines

/-- A 32-bit number in text. -/
def processor? (cs : List Char) : Option Nat := Number.unsigned? (UInt32.size - 1) cs

/-- How many processors a part of a list names; a range over all numbers counts for none. -/
def processorsOf (part : List Char) : Nat :=
  match Text.splitOnce '-' part with
  | none => if (processor? part).isSome then 1 else 0
  | some (low, high) =>
    match processor? (Text.strip low), processor? (Text.strip high) with
    | some a, some b => if a ≤ b ∧ b - a < UInt32.size - 1 then b - a + 1 else 0
    | _, _ => 0

/-- **How many processors a list of numbers and ranges names**, part by part, at most all that a
32-bit count can hold. -/
def processors (list : String) : UInt32 :=
  let parts := ((Text.splitAll ',' list.toList).map Text.strip).filter fun p => !p.isEmpty
  UInt32.ofNat (parts.foldl (fun n p => min (n + processorsOf p) (UInt32.size - 1)) 0)

end FleetControl.Telemetry
