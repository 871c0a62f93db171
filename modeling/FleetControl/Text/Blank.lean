/-!
# Blank space

The characters that count as blank are those with the `White_Space` property: the five control
characters from tab to carriage return, the space, and nineteen others beyond ASCII. Trimming takes
them off one or both ends of a text and nothing from its middle.
-/

namespace FleetControl.Text

/-- **Blank characters**, the `White_Space` property. -/
def isBlank (c : Char) : Bool :=
  let n := c.toNat
  (9 ≤ n && n ≤ 13) || n == 0x20 || n == 0x85 || n == 0xA0 || n == 0x1680 ||
    (0x2000 ≤ n && n ≤ 0x200A) || n == 0x2028 || n == 0x2029 || n == 0x202F || n == 0x205F ||
    n == 0x3000

/-- Take characters satisfying `p` off the end. -/
def dropEndWhile (p : Char → Bool) (cs : List Char) : List Char :=
  (cs.reverse.dropWhile p).reverse

/-- Take characters satisfying `p` off both ends. -/
def stripWhile (p : Char → Bool) (cs : List Char) : List Char :=
  dropEndWhile p (cs.dropWhile p)

/-- Take blank characters off both ends. -/
def strip (cs : List Char) : List Char := stripWhile isBlank cs

/-- Take blank characters off both ends of a string. -/
def trim (s : String) : String := String.ofList (strip s.toList)

/-- A text is blank when nothing is left of it after trimming. -/
def isBlankText (s : String) : Bool := s.toList.all isBlank

/-- Take every leading and trailing occurrence of `c` off the end of a string. -/
def trimEndChar (c : Char) (s : String) : String :=
  String.ofList (dropEndWhile (· == c) s.toList)

/-- The rest of `cs` after a leading `word`, if it starts with it. -/
def afterPrefix? (word : List Char) (cs : List Char) : Option (List Char) :=
  if word.isPrefixOf cs then some (cs.drop word.length) else none

/-- Cut at the first occurrence of `c`, which belongs to neither part. -/
def splitOnce (c : Char) : List Char → Option (List Char × List Char)
  | [] => none
  | d :: ds =>
    if d == c then some ([], ds)
    else (splitOnce c ds).map fun (a, b) => (d :: a, b)

/-- Cut at every occurrence of `c`; there is one part more than there are cuts. -/
def splitAll (c : Char) : List Char → List (List Char)
  | [] => [[]]
  | d :: ds =>
    if d == c then [] :: splitAll c ds
    else match splitAll c ds with
      | [] => [[d]]
      | p :: ps => (d :: p) :: ps

/-- **Lines**: parts ended by a line feed, without it and without one carriage return before it. A
last part with no line feed is a line too unless it is empty. -/
def lines (cs : List Char) : List (List Char) :=
  let parts := splitAll '\n' cs
  let ended := parts.dropLast.map chomp
  match parts.getLast? with
  | some [] => ended
  | some last => ended ++ [last]
  | none => ended
where
  /-- Without one trailing carriage return. -/
  chomp (l : List Char) : List Char :=
    if l.getLast? == some '\r' then l.dropLast else l

/-- ASCII lower case; other characters stay. -/
def asciiLower (cs : List Char) : List Char := cs.map Char.toLower

/-- Whether `needle` occurs in `cs`. -/
def hasInfix (needle : List Char) : List Char → Bool
  | [] => needle.isEmpty
  | c :: cs => needle.isPrefixOf (c :: cs) || hasInfix needle cs

end FleetControl.Text
