import FleetControl.Number.Printed

/-!
# Tables of text

Rows of cells, each filled up with blanks to the width of its column. A cell that is too long is not
cut.
-/

namespace FleetControl.CommandLine

/-- A text filled up with blanks to a width in characters. -/
def padRight (width : Nat) (s : String) : String :=
  s ++ String.ofList (List.replicate (width - s.length) ' ')

/-- **A row**: cells with their columns' widths, one blank between two. -/
def row (widths : List Nat) (cells : List String) : String :=
  " ".intercalate (List.zipWith padRight widths cells)

/-- A line across a table. -/
def rule (width : Nat) : String := String.ofList (List.replicate width '-')

/-- **A table**: its heads, a line, and its rows. -/
def table (columns : List (String × Nat)) (width : Nat) (rows : List (List String)) :
    List String :=
  let widths := columns.map (·.2)
  [row widths (columns.map (·.1)), rule width] ++ rows.map (row widths)

/-- A text, or a dash where it is missing or empty. -/
def orDash (s : Option String) : String := (s.filter fun s => !s.isEmpty).getD "-"

/-- The units of an amount of bytes above the byte itself, and the smallest amount in the last of
them. -/
def byteUnits : List String := ["KiB", "MiB", "GiB", "TiB"]

/-- An amount in the first unit in which it is below 1024, or in the last. -/
def scaledBytes (x : Float) : List String → String
  | [] => Number.fixed 1 x
  | [unit] => Number.fixed 1 (x / 1024) ++ unit
  | unit :: rest =>
    if x / 1024 < 1024 then Number.fixed 1 (x / 1024) ++ unit else scaledBytes (x / 1024) rest

/-- **An amount of bytes** in a unit of its size. -/
def bytesText (n : UInt64) : String :=
  if n < 1024 then toString n.toNat ++ "B" else scaledBytes n.toFloat byteUnits

end FleetControl.CommandLine
