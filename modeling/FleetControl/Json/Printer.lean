import FleetControl.Json.Basic
import FleetControl.Number.Printed

/-!
# Writing JSON text

`Json.text` writes a value with no blanks. Strings escape the quote, the backslash and the control
characters; all else stands as it is. A double that is not finite is `null`.
-/

namespace FleetControl.Json

/-- A lower-case hexadecimal digit. -/
def hexChar (n : Nat) : Char :=
  if n < 10 then Char.ofNat (n + 48) else Char.ofNat (n + 87)

/-- A character inside a string. -/
def charText (c : Char) : String :=
  if c == '"' then "\\\""
  else if c == '\\' then "\\\\"
  else if c == '\n' then "\\n"
  else if c == '\r' then "\\r"
  else if c == '\t' then "\\t"
  else if c.toNat == 8 then "\\b"
  else if c.toNat == 12 then "\\f"
  else if c.toNat < 0x20 then
    "\\u00" ++ String.ofList [hexChar (c.toNat / 16), hexChar (c.toNat % 16)]
  else c.toString

/-- A quoted string. -/
def quoted (s : String) : String := "\"" ++ String.join (s.toList.map charText) ++ "\""

mutual

/-- **A value in text.** -/
def text : Json → String
  | .null => "null"
  | .bool b => if b then "true" else "false"
  | .int n => toString n
  | .real x => if x.isFinite then Number.wire x else "null"
  | .str s => quoted s
  | .arr xs => "[" ++ ",".intercalate (itemTexts xs) ++ "]"
  | .obj ms => "\x7b" ++ ",".intercalate (memberTexts ms) ++ "\x7d"

/-- The texts of the items of an array. -/
def itemTexts : List Json → List String
  | [] => []
  | x :: xs => x.text :: itemTexts xs

/-- The texts of the members of an object. -/
def memberTexts : List (String × Json) → List String
  | [] => []
  | (k, v) :: ms => (quoted k ++ ":" ++ v.text) :: memberTexts ms

end

end FleetControl.Json
