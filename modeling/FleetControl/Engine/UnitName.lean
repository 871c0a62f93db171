import FleetControl.Record.Basic
import FleetControl.Text.Blank

/-!
# Names of units

The name of a workload's container is the name its owner asked for in letters, digits and single
hyphens, followed by the workload's identifier and the time in seconds. The data volume is named
after the container.
-/

namespace FleetControl.Engine

/-- Letters and digits; everything else is a hyphen. -/
def plainChar (c : Char) : Char := if c.isAlphanum then c else '-'

/-- One hyphen for several in a row. -/
def collapse : List Char → List Char
  | [] => []
  | c :: cs => if c == '-' && cs.head? == some '-' then collapse cs else c :: collapse cs

/-- What a unit is called without its number and time. -/
def baseName (cs : List Char) : List Char :=
  match Text.stripWhile (· == '-') (collapse (cs.map plainChar)) with
  | [] => "instance".toList
  | cs => cs

/-- The name that was asked for, or one after the identifier where none was or a blank one. -/
def wantedName (requested : Option String) (id : RecordId) : String :=
  (requested.filter fun n => !Text.isBlankText n).getD ("instance-" ++ toString id.toNat)

/-- **The name of a workload's container.** -/
def unitName (requested : Option String) (id : RecordId) (seconds : Int) : String :=
  String.ofList (baseName (wantedName requested id).toList) ++ "-" ++ toString id.toNat ++ "-" ++
    toString seconds

/-- The name of the data volume of a container. -/
def volumeName (unit : String) : String := unit ++ "-data"

end FleetControl.Engine
