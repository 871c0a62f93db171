import FleetControl.Engine.Address

/-!
# Programs of the control host

Statistics may also come from programs on the host that the control plane runs on. Here a program is
what its runs print, one after another; starts are written down. A program without runs is not
installed.
-/

namespace FleetControl

/-- The programs that are started. -/
inductive Program where
  | docker
  | smi
deriving Repr, DecidableEq, Inhabited

/-- The name of a program. -/
def Program.name : Program → String
  | .docker => "docker"
  | .smi => "smi"

/-- What one run of a program prints, and its exit status. -/
structure Printout where
  stdout : String := ""
  stderr : String := ""
  exit : Int := 0
deriving Repr, DecidableEq, Inhabited

/-- A start of a program: its arguments, its environment, and the credentials laid out for it. -/
structure Start where
  program : Program
  args : List String
  env : List (String × String) := []
  credentials : Option Engine.Credentials := none
deriving Repr, DecidableEq, Inhabited

/-- **The control host**: what the installed programs print from now on, and which were started. -/
structure Host where
  printouts : List (Program × List Printout) := []
  /-- Programs run forever. -/
  hangs : Bool := false
  starts : List Start := []
deriving Repr, Inhabited

namespace Host

/-- What a run after the last expected one prints. -/
def exhausted : Printout := { exit := 1 }

/-- What is left of the expected runs of a program. -/
def consume (p : Program) : List (Program × List Printout) → List (Program × List Printout)
  | [] => []
  | (q, runs) :: rest => if q = p then (q, runs.tail) :: rest else (q, runs) :: consume p rest

/-- The output of a run that ended in time. -/
def outputOf (r : Printout) : Except Failure String :=
  if r.exit = 0 then .ok r.stdout
  else .error (.internal
    ("command exited with exit status: " ++ toString r.exit ++ ": " ++ Text.trim r.stderr))

/-- **Start a program** and wait for its output for some seconds. -/
def run (limit : UInt64) (start : Start) (h : Host) : Except Failure String × Host :=
  match h.printouts.lookup start.program with
  | none => (.error (.host "No such file or directory (os error 2)"), h)
  | some runs =>
    let late : Except Failure String :=
      .error (.internal ("command timed out after " ++ toString limit.toNat ++ "s"))
    if limit = 0 then (late, h)
    else
      let started := { h with
        printouts := consume start.program h.printouts
        starts := h.starts ++ [start] }
      if h.hangs then (late, started) else (outputOf (runs.headD exhausted), started)

end Host

end FleetControl
