import FleetControl.Json.Parser
import FleetControl.Text.Blank
import FleetControl.Text.Utf8

/-!
# Percent escapes

Bytes of a request target that do not stand for themselves are written as a percent sign and two
hexadecimal digits. In a query a blank is a plus sign.
-/

namespace FleetControl.Web

/-- An upper-case hexadecimal digit. -/
def hexUpper (n : Nat) : Char := if n < 10 then Char.ofNat (n + 48) else Char.ofNat (n + 55)

/-- A byte as an escape. -/
def escape (b : UInt8) : List Char := ['%', hexUpper (b.toNat / 16), hexUpper (b.toNat % 16)]

/-- Escape the bytes of a text that do not stand for themselves. -/
def escapeText (keeps : Char → Bool) (s : String) : String :=
  String.ofList <| (Text.Utf8.encode s).flatMap fun b =>
    let c := Char.ofNat b.toNat
    if b < 0x80 && keeps c then [c] else escape b

/-- Characters that stand for themselves in the path of a target. -/
def keepsInPath (c : Char) : Bool :=
  0x20 < c.toNat && c.toNat < 0x7F && !("\"#<>?`\x7b\x7d".toList.contains c)

/-- Characters that stand for themselves in a query. -/
def keepsInQuery (c : Char) : Bool := c.isAlphanum || "*-._".toList.contains c

/-- A text in a query. -/
def queryText (s : String) : String :=
  "+".intercalate ((Text.splitAll ' ' s.toList).map fun part =>
    escapeText keepsInQuery (String.ofList part))

/-- A query of names and values. -/
def queryOf (pairs : List (String × String)) : String :=
  "&".intercalate (pairs.map fun (k, v) => queryText k ++ "=" ++ queryText v)

/-- The bytes of a text with its escapes resolved; a percent sign without two digits stays. -/
def unescape : List Char → List UInt8
  | '%' :: a :: b :: rest =>
    match Json.hexDigit? a, Json.hexDigit? b with
    | some x, some y => UInt8.ofNat (x * 16 + y) :: unescape rest
    | _, _ => 37 :: unescape (a :: b :: rest)
  | c :: rest => Text.Utf8.encode c.toString ++ unescape rest
  | [] => []

/-- A part of a query: plus signs are blanks, ill-formed bytes are replaced. -/
def queryPart (cs : List Char) : String :=
  Text.Utf8.decode (unescape (cs.map fun c => if c == '+' then ' ' else c))

/-- **The names and values of a query.** Empty parts are skipped; a part without an equals sign is a
name with an empty value. -/
def pairsOf (query : List Char) : List (String × String) :=
  ((Text.splitAll '&' query).filter fun part => !part.isEmpty).map fun part =>
    match Text.splitOnce '=' part with
    | some (k, v) => (queryPart k, queryPart v)
    | none => (queryPart part, "")

end FleetControl.Web
