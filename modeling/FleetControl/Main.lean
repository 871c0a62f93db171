import FleetControl.CommandLine.Run

/-!
# The client as a program

The command line is read and answered here. There is no way to the network in this program, so every
command that needs one fails as it does where nothing can be reached.
-/

namespace FleetControl.CommandLine

/-- Nothing can be reached. -/
def offline : Web.Transport Unit := fun _ s => (.unreachable "Network is unreachable", s)

end FleetControl.CommandLine

/-- Run the client. -/
def main (words : List String) : IO UInt32 := do
  let (o, _) := FleetControl.CommandLine.runClient FleetControl.CommandLine.offline words ()
  (← IO.getStdout).putStr o.stdout
  (← IO.getStderr).putStr o.stderr
  return UInt32.ofNat o.exit
