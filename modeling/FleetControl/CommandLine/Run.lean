import FleetControl.CommandLine.Report
import FleetControl.Rest.Serve
import FleetControl.Web.Reason

/-!
# Running the client

`runClient` takes a command line to what a person sees: it sends the request of the command and shows
the answer, or says why there is none.
-/

namespace FleetControl.CommandLine

/-- **What a run of a program shows**, and its exit status. -/
structure Output where
  exit : Nat := 0
  stdout : String := ""
  stderr : String := ""
deriving Repr, DecidableEq, Inhabited

namespace Output

/-- Lines, each ended. -/
def ended (lines : List String) : String := String.join (lines.map (· ++ "\n"))

/-- What a report shows. -/
def ofReport (r : Report) : Output := { stdout := ended r.lines, stderr := ended r.notes }

/-- A run that failed. -/
def failed (reason : String) : Output := { exit := 1, stderr := "Error: " ++ reason ++ "\n" }

/-- A command line that does not fit. -/
def misuse (program : String) : Output :=
  { exit := 2, stderr := "usage: " ++ program ++ " [options] command\n" }

/-- The version of a program. -/
def version (program : String) : Output := { stdout := program ++ " " ++ Rest.version ++ "\n" }

/-- What a program is for. -/
def help (program purpose : String) : Output :=
  { stdout := purpose ++ "\n\nusage: " ++ program ++ " [options] command\n" }

end Output

/-- What is asked for, in a message about its failure. -/
def Ask.purpose : Ask → String
  | .candidates _ _ => "query candidates"
  | .create _ => "create workload"
  | .list _ _ => "list workloads"
  | .remove _ => "delete workloads"
  | .start _ => "start workload"
  | .stop _ => "stop workload"
  | .restart _ => "restart workload"
  | .stats _ => "read stats"
  | .logs _ _ => "read logs"
  | .nodes => "list nodes"
  | .testNode _ => "test node"
  | .catalog => "read catalog"

/-- How the report on an answer is read off it; the output of a unit is no report. -/
def Ask.report? (body : String) : Ask → Option Report
  | .candidates spec _ =>
    (Reader.list Report.candidateCells).whole? body |>.map (Report.candidates spec)
  | .create _ => (Workload.read .epoch).whole? body |>.map Report.created
  | .list _ _ => Report.readPage.whole? body |>.map fun (items, total) => .workloads items total
  | .remove ids => Report.readRemoved.whole? body |>.map (Report.removed ids)
  | .start _ | .stop _ | .restart _ => (Workload.read .epoch).whole? body |>.map Report.state
  | .stats id => Report.readStats.whole? body |>.map (Report.stats id)
  | .logs _ _ => none
  | .nodes => (Reader.list Report.nodeCells).whole? body |>.map Report.nodes
  | .testNode id => Report.readTest.whole? body |>.map (Report.test id)
  | .catalog => Catalog.read.whole? body |>.map Report.catalog

/-- What is shown of a complete answer: the output of a unit as it is, anything else in a report. -/
def Ask.output (a : Ask) (body : String) : Output :=
  match a with
  | .logs _ _ => { stdout := body }
  | a =>
    match a.report? body with
    | some r => .ofReport r
    | none => .failed "error decoding response body"

/-- **What is shown of an answer.** -/
def Client.output (c : Client) (url : String) : Web.Outcome → Output
  | .unreachable _ | .late | .dropped _ => .failed ("error sending request for url (" ++ url ++ ")")
  | .reply r =>
    if r.ending != .complete then .failed "error decoding response body"
    else
      let body := Text.Utf8.decode r.bytes
      if r.isSuccess then c.ask.output body
      else .failed ("Failed to " ++ c.ask.purpose ++ " (" ++ Web.statusText r.status ++ "): " ++ body)

/-- **Run the client** on a command line, over a way to send requests. -/
def runClient {σ : Type} (send : Web.Transport σ) (words : List String) (s : σ) : Output × σ :=
  match Client.grammar.parse words with
  | .version => (.version "gpufleet", s)
  | .help => (.help "gpufleet" "Operate a GPU fleet", s)
  | .misuse => (.misuse "gpufleet", s)
  | .given g =>
    match Client.ofGiven? g with
    | none => (.misuse "gpufleet", s)
    | some c =>
      let (outcome, s) := send c.request s
      (c.output (c.base ++ c.request.target) outcome, s)

end FleetControl.CommandLine
