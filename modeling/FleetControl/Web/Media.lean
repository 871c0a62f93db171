import FleetControl.Text.Blank

/-!
# Kinds of media

How a body is announced: a type and a subtype, whose last plus sign parts off the form that the kind is
built upon, and parameters. An announcement that does not keep to this grammar announces nothing.
-/

namespace FleetControl.Web

/-- **A kind of media**, without its parameters. -/
structure Media where
  type : List Char
  subtype : List Char
  suffix : List Char
deriving Repr, DecidableEq, Inhabited

namespace Media

/-- Characters of names and of values without quotes. -/
def isToken (c : Char) : Bool := c.isAlphanum || "!#$%&'*+-.^_`|~".toList.contains c

/-- Characters between quotes. -/
def isQuotable (c : Char) : Bool := 0x20 ≤ c.toNat && c.toNat != 0x7F

/-- The rest after a value in quotes, the first of which is taken. The value is not empty: a quote that
follows at once belongs to it. -/
def afterQuoted? : List Char → Option (List Char)
  | [] => none
  | c :: cs =>
    if isQuotable c then
      (Text.splitOnce '"' cs).bind fun (value, rest) =>
        if value.all isQuotable then some (rest.dropWhile (· == ' ')) else none
    else none

/-- Parameters as they should be; `fuel` bounds their number. A value without quotes may be empty only
at the end. -/
def areParameters : Nat → List Char → Bool
  | 0, _ => false
  | fuel + 1, cs =>
    let cs := cs.dropWhile (· == ' ')
    let (name, rest) := cs.span isToken
    match rest with
    | '=' :: '"' :: rest =>
      !name.isEmpty && match afterQuoted? rest with
        | some [] => true
        | some (';' :: rest) => areParameters fuel rest
        | _ => false
    | '=' :: rest =>
      let (value, rest) := rest.span isToken
      !name.isEmpty && match rest with
        | [] => true
        | ';' :: rest => !value.isEmpty && areParameters fuel rest
        | _ => false
    | _ => cs.isEmpty

/-- A subtype and its suffix, which begins after the last plus sign unless that comes first. -/
def splitSuffix (name : List Char) : List Char × List Char :=
  let suffix := (name.reverse.takeWhile (· != '+')).reverse
  let subtype := name.take (name.length - suffix.length - 1)
  if subtype.isEmpty then (name, []) else (subtype, suffix)

/-- **The kind that a text announces.** -/
def read? (cs : List Char) : Option Media :=
  let (type, rest) := cs.span isToken
  match rest with
  | '/' :: rest =>
    let (name, rest) := rest.span isToken
    let (subtype, suffix) := splitSuffix name
    let isSound := !type.isEmpty && match rest with
      | [] => true
      | ';' :: rest => !name.isEmpty && areParameters (rest.length + 1) rest
      | _ => false
    if isSound then some ⟨type, subtype, suffix⟩ else none
  | _ => none

/-- A kind that holds a JSON value: the plain one, or one built upon it. -/
def isJson (m : Media) : Bool :=
  let is (word : String) (name : List Char) := Text.asciiLower name == word.toList
  is "application" m.type && (is "json" m.subtype || is "json" m.suffix)

end Media

end FleetControl.Web
