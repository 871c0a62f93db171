import FleetControl.Text.Blank

/-!
# Sections of PEM text

A section stands between a line that begins it and a line that ends it; what is between is base 64.
Lines outside of sections mean nothing. `Pem.sections?` lists what the sections of known labels hold,
and fails on a line that begins none although it looks so, on a section that is not closed, and on one
that is not base 64.
-/

namespace FleetControl.Credential

/-- The encodings of a private key. -/
inductive KeyForm where
  /-- Any kind of key, wrapped with the name of its kind. -/
  | wrapped
  | rsa
  | curve
deriving Repr, DecidableEq, Inhabited

/-- **A private key as it stands in a section.** -/
structure EncodedKey where
  form : KeyForm
  bytes : List UInt8
deriving Repr, DecidableEq, Inhabited

namespace Pem

/-! ## Base 64 -/

/-- The six bits of a digit. -/
def sextet? (c : Char) : Option Nat :=
  if 'A' ≤ c ∧ c ≤ 'Z' then some (c.toNat - 'A'.toNat)
  else if 'a' ≤ c ∧ c ≤ 'z' then some (c.toNat - 'a'.toNat + 26)
  else if c.isDigit then some (c.toNat - '0'.toNat + 52)
  else if c == '+' then some 62
  else if c == '/' then some 63
  else none

/-- The bytes of digits, three for four digits. Bits that fill no byte are dropped; one digit alone
fills none. -/
def bytesOf? : List Nat → Option (List UInt8)
  | [] => some []
  | [_] => none
  | [a, b] => some [UInt8.ofNat (a * 4 + b / 16)]
  | [a, b, c] => some [UInt8.ofNat (a * 4 + b / 16), UInt8.ofNat (b * 16 + c / 4)]
  | a :: b :: c :: d :: rest => do
    let bytes ← bytesOf? rest
    some (UInt8.ofNat (a * 4 + b / 16) :: UInt8.ofNat (b * 16 + c / 4) ::
      UInt8.ofNat (c * 64 + d) :: bytes)

/-- Blanks, which mean nothing between digits. -/
def isSpace (c : Char) : Bool := c == ' ' || (9 ≤ c.toNat && c.toNat ≤ 13)

/-- **The bytes of a text in base 64.** Equals signs may fill up the last four digits. -/
def decode? (cs : List Char) : Option (List UInt8) := do
  let cs := cs.filter fun c => !isSpace c
  let (digits, fill) := cs.span (· != '=')
  if !fill.isEmpty && (2 < fill.length || fill.any (· != '=') || cs.length % 4 != 0) then none
  bytesOf? (← digits.mapM sextet?)

/-! ## Sections -/

/-- What a section holds. -/
inductive Section where
  | certificate (bytes : List UInt8)
  | key (k : EncodedKey)
  /-- Of a known kind, but neither of these. -/
  | other
deriving Repr, DecidableEq, Inhabited

/-- What the sections of a label hold; those of unknown labels hold nothing. -/
def section? (label : List Char) : Option (List UInt8 → Section) :=
  match String.ofList label with
  | "CERTIFICATE" => some .certificate
  | "PRIVATE KEY" => some fun bytes => .key ⟨.wrapped, bytes⟩
  | "RSA PRIVATE KEY" => some fun bytes => .key ⟨.rsa, bytes⟩
  | "EC PRIVATE KEY" => some fun bytes => .key ⟨.curve, bytes⟩
  | "PUBLIC KEY" | "X509 CRL" | "CERTIFICATE REQUEST" | "ECHCONFIG" => some fun _ => .other
  | _ => none

/-- The start of a line that begins a section. -/
def mark : List Char := "-----BEGIN ".toList

/-- The label of a line that begins a section, given what follows the mark. The line ends in five
hyphens, with blanks between them or not. -/
def label? (rest : List Char) : Option (List Char) :=
  let trailer := rest.reverse.takeWhile fun c => c == '-' || c == ' '
  let hyphens := (Text.dropEndWhile (· == ' ') trailer).length
  if trailer.count '-' == 5 then some (rest.take (rest.length - hyphens)) else none

/-- Whether a line ends the sections of a label. -/
def ends (label line : List Char) : Bool := ("-----END ".toList ++ label ++ "-----".toList).isPrefixOf line

/-- The sections of lines, given the label of the one that is open and all text since one was opened
first. A section that begins inside of another takes its place and its text. -/
def sectionsFrom : Option (List Char) → List Char → List (List Char) → Option (List Section)
  | open?, _, [] => if open?.isSome then none else some []
  | open?, body, line :: rest =>
    match Text.afterPrefix? mark line, open? with
    | some after, _ => (label? after).bind fun label => sectionsFrom (some label) body rest
    | none, none => sectionsFrom none [] rest
    | none, some label =>
      if ends label line then
        match section? label with
        | none => sectionsFrom none [] rest
        | some make => do
          let bytes ← decode? body
          let more ← sectionsFrom none [] rest
          some (make bytes :: more)
      else sectionsFrom (some label) (body ++ line) rest

/-- **The sections of a text.** A line ends at a line feed or a carriage return. -/
def sections? (text : String) : Option (List Section) :=
  sectionsFrom none []
    (Text.splitAll '\n' (text.toList.map fun c => if c == '\r' then '\n' else c))

/-- The certificates among sections. -/
def certificates (ss : List Section) : List (List UInt8) :=
  ss.filterMap fun | .certificate bytes => some bytes | _ => none

/-- The private keys among sections. -/
def keys (ss : List Section) : List EncodedKey :=
  ss.filterMap fun | .key k => some k | _ => none

end Pem

end FleetControl.Credential
