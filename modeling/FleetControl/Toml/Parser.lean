import FleetControl.Json.Parser
import FleetControl.Number.Decimal
import FleetControl.Time.Text
import FleetControl.Toml.Table

/-!
# Reading the configuration format

`Toml.read?` reads a document of TOML 1.0 into one value: lines of keys and values under headers of
tables. Lines end in a line feed, before which one carriage return may stand. A date or a time is a
table of one member that no record declares, so that records ignore it and texts refuse it.
-/

namespace FleetControl.Toml

/-- Blanks within a line. -/
def isGap (c : Char) : Bool := c == ' ' || c == '\t'

/-- Without leading blanks. -/
def skipGap (cs : List Char) : List Char := cs.dropWhile isGap

/-- Characters of comments and of quoted texts: everything but the controls, of which the tab is
taken. -/
def isPrintable (c : Char) : Bool := c == '\t' || (0x20 ≤ c.toNat && c.toNat ≠ 0x7F)

/-- The rest after the end of a line. -/
def newline? : List Char → Option (List Char)
  | '\n' :: rest => some rest
  | '\r' :: '\n' :: rest => some rest
  | _ => none

/-- The rest of a line that holds nothing more than blanks and a comment; it begins at the line's
end. -/
def endOfLine (cs : List Char) : List Char :=
  match skipGap cs with
  | '#' :: rest => rest.dropWhile isPrintable
  | rest => rest

/-- Skip blanks, comments and line ends inside an array. -/
def skipLines : Nat → List Char → List Char
  | 0, cs => cs
  | n + 1, cs =>
    let rest := endOfLine cs
    match newline? rest with
    | some r => skipLines n r
    | none => rest

/-! ## Keys and quoted texts -/

/-- The number of `n` hexadecimal digits, and what follows them. -/
def hexNumber? (n : Nat) (cs : List Char) : Option (Nat × List Char) := do
  let ds ← (cs.take n).mapM Json.hexDigit?
  if ds.length == n then some (ds.foldl (16 * · + ·) 0, cs.drop n) else none

/-- The character of an escape, its backslash already taken. -/
def escaped? : List Char → Option (Char × List Char)
  | 'b' :: r => some (Char.ofNat 8, r)
  | 't' :: r => some ('\t', r)
  | 'n' :: r => some ('\n', r)
  | 'f' :: r => some (Char.ofNat 12, r)
  | 'r' :: r => some ('\r', r)
  | '"' :: r => some ('"', r)
  | '\\' :: r => some ('\\', r)
  | 'u' :: r => (hexNumber? 4 r).bind fun (n, r) => scalar? n r
  | 'U' :: r => (hexNumber? 8 r).bind fun (n, r) => scalar? n r
  | _ => none
where
  /-- A number that is a character's. -/
  scalar? (n : Nat) (r : List Char) : Option (Char × List Char) :=
    if n < 0xD800 ∨ (0xDFFF < n ∧ n ≤ 0x10FFFF) then some (Char.ofNat n, r) else none

/-- The rest of a text in double quotes on one line. -/
def basicBody : Nat → List Char → List Char → Option (String × List Char)
  | 0, _, _ => none
  | _ + 1, _, [] => none
  | n + 1, acc, c :: cs =>
    if c == '"' then some (String.ofList acc.reverse, cs)
    else if c == '\\' then (escaped? cs).bind fun (e, r) => basicBody n (e :: acc) r
    else if isPrintable c then basicBody n (c :: acc) cs
    else none

/-- The rest of a text in single quotes on one line. -/
def literalBody (cs : List Char) : Option (String × List Char) :=
  match cs.span fun c => isPrintable c && c != '\'' with
  | (body, '\'' :: rest) => some (String.ofList body, rest)
  | _ => none

/-- The end of a text over several lines: three quotes, before which two more belong to the text. -/
def closing? (q : Char) (cs : List Char) : Option (List Char × List Char) :=
  let n := min 5 (cs.takeWhile (· == q)).length
  if 3 ≤ n then some (List.replicate (n - 3) q, cs.drop n) else none

/-- After a backslash at the end of a line: what follows the blanks and line ends. -/
def continued? (cs : List Char) : Option (List Char) :=
  (newline? (skipGap cs)).map fun r => gaps r.length r
where
  /-- Skip blanks and line ends. -/
  gaps : Nat → List Char → List Char
    | 0, cs => cs
    | n + 1, cs =>
      match newline? (skipGap cs) with
      | some r => gaps n r
      | none => skipGap cs

/-- The rest of a text in three quotes; `escapes` tells double from single quotes. -/
def linesBody (q : Char) (escapes : Bool) : Nat → List Char → List Char → Option (String × List Char)
  | 0, _, _ => none
  | n + 1, acc, cs =>
    match closing? q cs with
    | some (more, rest) => some (String.ofList (more ++ acc).reverse, rest)
    | none =>
      match newline? cs with
      | some r => linesBody q escapes n ('\n' :: acc) r
      | none =>
        match cs with
        | [] => none
        | c :: r =>
          if escapes && c == '\\' then
            match continued? r with
            | some r => linesBody q escapes n acc r
            | none => (escaped? r).bind fun (e, r) => linesBody q escapes n (e :: acc) r
          else if isPrintable c then linesBody q escapes n (c :: acc) r
          else none

/-- A quoted text of any kind. -/
def text? (cs : List Char) : Option (String × List Char) :=
  match cs with
  | '"' :: '"' :: '"' :: r => linesBody '"' true (r.length + 1) [] ((newline? r).getD r)
  | '\'' :: '\'' :: '\'' :: r => linesBody '\'' false (r.length + 1) [] ((newline? r).getD r)
  | '"' :: r => basicBody (r.length + 1) [] r
  | '\'' :: r => literalBody r
  | _ => none

/-- Characters of a key without quotes. -/
def isKeyChar (c : Char) : Bool := c.isAlphanum || c == '_' || c == '-'

/-- One name of a key. -/
def name? (cs : List Char) : Option (String × List Char) :=
  match cs with
  | '"' :: r => basicBody (r.length + 1) [] r
  | '\'' :: r => literalBody r
  | _ =>
    match cs.span isKeyChar with
    | ([], _) => none
    | (body, rest) => some (String.ofList body, rest)

/-- A key: names with points between them, blanks around each. At most `n` names are taken. -/
def key? : Nat → List Char → Option (List String × List Char)
  | 0, _ => none
  | n + 1, cs => do
    let (k, rest) ← name? (skipGap cs)
    match skipGap rest with
    | '.' :: r =>
      let (ks, r) ← key? n r
      some (k :: ks, r)
    | r => some ([k], r)

/-- Names in a key, tables and arrays in one another: each fewer than this. -/
def maxDepth : Nat := 80

/-! ## Numbers, dates and truth values -/

/-- Digits with single underscores between them, which are left out. -/
def digits? (isDigit : Char → Bool) (cs : List Char) : Option (List Char × List Char) :=
  match cs with
  | c :: r => if isDigit c then some (more r.length [c] r) else none
  | [] => none
where
  /-- More digits after those in `acc`, last first. -/
  more : Nat → List Char → List Char → List Char × List Char
    | 0, acc, cs => (acc.reverse, cs)
    | n + 1, acc, cs =>
      match cs with
      | '_' :: d :: r => if isDigit d then more n (d :: acc) r else (acc.reverse, cs)
      | d :: r => if isDigit d then more n (d :: acc) r else (acc.reverse, cs)
      | [] => (acc.reverse, cs)

/-- A sign and what follows it. -/
def sign (cs : List Char) : List Char × List Char :=
  match cs with
  | '+' :: r => ([], r)
  | '-' :: r => (['-'], r)
  | _ => ([], cs)

/-- A whole number with a radix of its own. -/
def radix? (base : Nat) (cs : List Char) : Option (Json × List Char) := do
  let (ds, rest) ← digits? (fun c => (Json.hexDigit? c).any (· < base)) cs
  let n : Int := ds.foldl (fun n c => n * base + (Json.hexDigit? c).getD 0) 0
  if n ≤ Int64.maxValue.toInt then some (.int n, rest) else none

/-- Digits before a point: no zero leads others. -/
def whole? (cs : List Char) : Option (List Char × List Char) := do
  let (ds, rest) ← digits? Char.isDigit cs
  if ds.head? == some '0' && 1 < ds.length then none else some (ds, rest)

/-- A power of ten, if one follows. -/
def power? (cs : List Char) : Option (List Char × List Char) :=
  match cs with
  | 'e' :: r | 'E' :: r => do
    let (s, r) := sign r
    let (ds, r) ← digits? Char.isDigit r
    some ('e' :: s ++ ds, r)
  | _ => some ([], cs)

/-- A point and digits, if they follow. -/
def places? (cs : List Char) : Option (List Char × List Char) :=
  match cs with
  | '.' :: r => (digits? Char.isDigit r).map fun (ds, r) => ('.' :: ds, r)
  | _ => some ([], cs)

/-- A decimal number. -/
def decimal? (cs : List Char) : Option (Json × List Char) := do
  let (s, rest) := sign cs
  match rest with
  | 'i' :: 'n' :: 'f' :: r => some (.real (if s.isEmpty then 1 / 0 else -1 / 0), r)
  | 'n' :: 'a' :: 'n' :: r => some (.real (0 / 0), r)
  | _ =>
    let (ds, rest) ← whole? rest
    let (part, rest) ← places? rest
    let (pow, rest) ← power? rest
    if part.isEmpty && pow.isEmpty then
      let n := (Number.digits? ds).getD 0
      let n : Int := if s.isEmpty then n else -n
      if Int64.minValue.toInt ≤ n ∧ n ≤ Int64.maxValue.toInt then some (.int n, rest) else none
    else
      let x ← Number.Decimal.read? (String.ofList (s ++ ds ++ part ++ pow))
      if x.isInf && s.isEmpty then none else some (.real x, rest)

/-- A time of day. -/
def timeOfDay? (cs : List Char) : Option (List Char) := do
  let (h, cs) ← Time.number? 2 2 cs
  let cs ← Time.char? ':' cs
  let (m, cs) ← Time.number? 2 2 cs
  let cs ← Time.char? ':' cs
  let (s, cs) ← Time.number? 2 2 cs
  if 23 < h ∨ 59 < m ∨ 60 < s then none
  else match cs with
    | '.' :: r => if (r.takeWhile Char.isDigit).isEmpty then none else some (r.dropWhile Char.isDigit)
    | _ => some cs

/-- An offset of a date and time, if one follows. -/
def offset? (cs : List Char) : Option (List Char) :=
  match cs with
  | 'Z' :: r | 'z' :: r => some r
  | '+' :: r | '-' :: r => do
    let (h, r) ← Time.number? 2 2 r
    let r ← Time.char? ':' r
    let (m, r) ← Time.number? 2 2 r
    if 23 < h ∨ 59 < m then none else some r
  | _ => some cs

/-- A date, with a time or without, or a time alone: what follows it. -/
def date? (cs : List Char) : Option (List Char) :=
  match timeOfDay? cs with
  | some rest => some rest
  | none => do
    let (y, cs) ← Time.number? 4 4 cs
    let cs ← Time.char? '-' cs
    let (mo, cs) ← Time.number? 2 2 cs
    let cs ← Time.char? '-' cs
    let (d, cs) ← Time.number? 2 2 cs
    let _ ← Time.date? y mo d
    match cs with
    | c :: r =>
      if c == 'T' || c == 't' || c == ' ' then
        match timeOfDay? r with
        | some r => offset? r
        | none => if c == ' ' then some cs else none
      else some cs
    | [] => some cs

/-- The value of a date or time. -/
def dateJson (cs rest : List Char) : Json :=
  .obj [("datetime", .str (String.ofList (cs.take (cs.length - rest.length))))]

/-- A number, a date or a truth value. -/
def plain? (cs : List Char) : Option (Json × List Char) :=
  match cs with
  | 't' :: 'r' :: 'u' :: 'e' :: r => some (.bool true, r)
  | 'f' :: 'a' :: 'l' :: 's' :: 'e' :: r => some (.bool false, r)
  | '0' :: 'x' :: r => radix? 16 r
  | '0' :: 'o' :: r => radix? 8 r
  | '0' :: 'b' :: r => radix? 2 r
  | _ =>
    match date? cs with
    | some rest => some (dateJson cs rest, rest)
    | none => decimal? cs

/-! ## Values -/

mutual

/-- A value at the head of a text; fewer than `depth` arrays and tables may open inside it. -/
def value? : Nat → Nat → List Char → Option (Json × List Char)
  | 0, _, _ => none
  | fuel + 1, depth, cs =>
    match cs with
    | '"' :: _ | '\'' :: _ => (text? cs).map fun (s, r) => (.str s, r)
    | '[' :: r => if depth ≤ 1 then none else items? fuel (depth - 1) [] (skipLines r.length r)
    | '\x7b' :: r =>
      if depth ≤ 1 then none
      else match skipGap r with
        | '\x7d' :: r => some (.obj [], r)
        | r => members? fuel (depth - 1) [] r
    | _ => plain? cs

/-- The items of an array after those in `acc`, last first. -/
def items? : Nat → Nat → List Json → List Char → Option (Json × List Char)
  | 0, _, _, _ => none
  | fuel + 1, depth, acc, cs =>
    match cs with
    | ']' :: r => some (.arr acc.reverse, r)
    | _ => do
      let (v, rest) ← value? fuel depth cs
      match skipLines rest.length rest with
      | ',' :: r => items? fuel depth (v :: acc) (skipLines r.length r)
      | ']' :: r => some (.arr (v :: acc).reverse, r)
      | _ => none

/-- The members of a table on one line, after those in `acc`. -/
def members? : Nat → Nat → Members → List Char → Option (Json × List Char)
  | 0, _, _, _ => none
  | fuel + 1, depth, acc, cs => do
    let (k, rest) ← key? (maxDepth - 1) cs
    match rest with
    | '=' :: r =>
      let (v, rest) ← value? fuel depth (skipGap r)
      let acc ← acc.put v k
      match skipGap rest with
      | ',' :: r => members? fuel depth acc r
      | '\x7d' :: r => some (.obj (membersJson acc), r)
      | _ => none
    | _ => none

end

/-! ## Documents -/

/-- A document as far as it is read: the open table's path and everything so far. -/
structure Draft where
  path : List String
  root : Members

/-- Open the table at a path. -/
def Draft.enter (step : String → Members → Option Members) (path : List String) (d : Draft) :
    Option Draft := do
  let k ← path.getLast?
  let root ← d.root.atPath (step k) path.dropLast
  some ⟨path, root⟩

/-- One line: a header, a key with its value, or nothing. What follows begins at the line's end. -/
def line? (fuel : Nat) (d : Draft) (cs : List Char) : Option (Draft × List Char) :=
  match cs with
  | '[' :: '[' :: r => do
    let (path, r) ← key? (maxDepth - 1) r
    match r with
    | ']' :: ']' :: r => (d.enter Members.openAnother path).map (·, r)
    | _ => none
  | '[' :: r => do
    let (path, r) ← key? (maxDepth - 1) r
    match r with
    | ']' :: r => (d.enter Members.openTable path).map (·, r)
    | _ => none
  | '#' :: _ | '\n' :: _ | '\r' :: _ | [] => some (d, cs)
  | _ => do
    let (k, r) ← key? (maxDepth - 1) cs
    match r with
    | '=' :: r =>
      let (v, rest) ← value? fuel maxDepth (skipGap r)
      let root ← d.root.atPath (Members.put v k) d.path
      some (⟨d.path, root⟩, rest)
    | _ => none

/-- The lines of a document. -/
def lines? : Nat → Draft → List Char → Option Draft
  | 0, _, _ => none
  | fuel + 1, d, cs => do
    let (d, rest) ← line? fuel d (skipGap cs)
    match endOfLine rest with
    | [] => some d
    | rest =>
      let r ← newline? rest
      lines? fuel d r

/-- **Read a document.** A byte order mark may lead it. -/
def read? (s : String) : Option Json :=
  let cs := match s.toList with
    | c :: r => if c.toNat == 0xFEFF then r else c :: r
    | [] => []
  (lines? (2 * cs.length + 2) ⟨[], []⟩ cs).map fun d => .obj (membersJson d.root)

end FleetControl.Toml
