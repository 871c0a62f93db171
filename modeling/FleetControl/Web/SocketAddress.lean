import FleetControl.Json.Parser
import FleetControl.Text.Blank

/-!
# Addresses to listen on

The text of an address of the fourth or the sixth version with a port. An address of the sixth
version stands in brackets and may name a scope.
-/

namespace FleetControl.Web

/-- A number without a leading zero, up to a greatest one. -/
def isPlainNumber (top : Nat) (cs : List Char) : Bool :=
  (cs.length ≤ 1 || cs.head? != some '0') &&
    ((Number.digits? cs).any fun n => n ≤ top)

/-- Four numbers with points between. -/
def isFourthVersion (cs : List Char) : Bool :=
  let parts := Text.splitAll '.' cs
  parts.length == 4 && parts.all (isPlainNumber 255)

/-- One to four hexadecimal digits. -/
def isGroup (cs : List Char) : Bool :=
  0 < cs.length && cs.length ≤ 4 && cs.all fun c => (Json.hexDigit? c).isSome

/-- How many groups of two bytes a sequence of groups stands for; the last group may be an address of
the fourth version, which stands for two. Nothing stands for none. -/
def groupCount? (cs : List Char) (mayEndInFourth : Bool) : Option Nat :=
  if cs.isEmpty then some 0
  else
    let parts := Text.splitAll ':' cs
    match parts.getLast? with
    | none => none
    | some last =>
      if !parts.dropLast.all isGroup then none
      else if isGroup last then some parts.length
      else if mayEndInFourth && isFourthVersion last then some (parts.length + 1)
      else none

/-- The text before the first two colons in a row, and the text after them. -/
def splitGap : List Char → Option (List Char × List Char)
  | ':' :: ':' :: rest => some ([], rest)
  | c :: rest => (splitGap rest).map fun (a, b) => (c :: a, b)
  | [] => none

/-- Eight groups, or fewer with a gap. -/
def isSixthVersion (cs : List Char) : Bool :=
  match splitGap cs with
  | none => groupCount? cs true == some 8
  | some (before, after) =>
    match groupCount? before false, groupCount? after true with
    | some a, some b => a + b ≤ 7
    | _, _ => false

/-- The part of a text before its last colon, and the part after it. -/
def splitPort (cs : List Char) : Option (List Char × List Char) :=
  (Text.splitOnce ':' cs.reverse).map fun (a, b) => (b.reverse, a.reverse)

/-- An address in brackets, perhaps with the number of a scope. -/
def isBracketed (cs : List Char) : Bool :=
  match cs with
  | '[' :: rest =>
    rest.getLast? == some ']' &&
      match Text.splitOnce '%' rest.dropLast with
      | none => isSixthVersion rest.dropLast
      | some (address, scope) =>
        isSixthVersion address && ((Number.digits? scope).any fun n => n < UInt32.size)
  | _ => false

/-- **Whether a text is an address with a port.** -/
def isSocketAddress (s : String) : Bool :=
  match splitPort s.toList with
  | none => false
  | some (address, port) =>
    ((Number.digits? port).any fun n => n < UInt16.size) &&
      (isFourthVersion address || isBracketed address)

end FleetControl.Web
