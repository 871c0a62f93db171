import FleetControl.Engine.Basic
import FleetControl.Terminal.Pumps

/-!
# Terminal sessions

A session opens a shell in a container and then serves it with a pair of pumps. The other shell is
tried where the wanted one cannot be prepared, and the caller is told.
-/

namespace FleetControl.Terminal

open Engine (Call Dialog)

/-! ## Opening -/

/-- The path of the shell that is tried first unless another is asked for. -/
def bash : String := "/bin/bash"

/-- The path of the plain shell. -/
def sh : String := "/bin/sh"

/-- **The shells to try**, the wanted one first. -/
def shellOrder (requested : Option String) : String × String :=
  if requested == some "sh" then (sh, bash) else (bash, sh)

/-- What opening a shell came to: the prepared shell, and what the caller is told. -/
structure Opening where
  shell : Except Failure String
  notices : List String := []

namespace Opening

/-- No shell could be prepared. -/
def unprepared (e : Failure) : Opening :=
  ⟨.error e, ["failed to create exec: " ++ e.message ++ "\r\n"]⟩

/-- Start a prepared shell. -/
def attach (shell : String) (notices : List String) : Dialog Opening := do
  match ← Dialog.call (.attach shell) with
  | .ok () => pure ⟨.ok shell, notices⟩
  | .error e =>
    pure ⟨.error e, notices ++ ["failed to attach to exec: " ++ e.message ++ "\r\n"]⟩

/-- What a caller is told who gets another shell than the wanted one. -/
def switched (wanted other : String) : String :=
  "note: " ++ wanted ++ " is not available in this container, switched to " ++ other ++ "\r\n"

/-- **Open a shell** in a container. -/
def dialog (container : String) (requested : Option String) : Dialog Opening := do
  let (wanted, other) := shellOrder requested
  match ← Dialog.call (.prepareShell container [wanted]) with
  | .ok shell => attach shell []
  | .error _ =>
    match ← Dialog.call (.prepareShell container [other]) with
    | .ok shell => attach shell [switched wanted other]
    | .error e => pure (unprepared e)

end Opening

/-! ## Serving -/

/-- **A session** with a container of an engine in memory. -/
structure Session where
  engine : Engine
  /-- The shell that was opened, or why none was. -/
  shell : Except Failure String
  pumps : Pumps
deriving Inhabited

namespace Session

/-- **Begin a session.** -/
def start (container : String) (requested : Option String) (e : Engine) : Session :=
  let (opening, e) := e.run (Opening.dialog container requested)
  ⟨e, opening.shell, { sent := opening.notices.map .text }⟩

/-- Ask the engine for new sizes; whether it obeys does not matter. -/
def askResizes (shell : String) (sizes : List (UInt16 × UInt16)) (e : Engine) : Engine :=
  (e.run (Dialog.each (sizes.map fun (rows, cols) => .resize shell rows cols))).2

/-- **Let something happen** to a session and the pumps settle; nothing happens to one that was not
opened. -/
def feed (s : Session) (m : Move) : Session :=
  match s.shell with
  | .error _ => s
  | .ok shell =>
    let p := (s.pumps.move m).settle
    { s with
      engine := askResizes shell (p.resizesSince s.pumps) s.engine
      pumps := p }

/-- The session has come to its end. -/
def isOver (s : Session) : Bool :=
  match s.shell with
  | .error _ => true
  | .ok _ => s.pumps.isOver

/-- The unit finds its input closed. -/
def unitSeesEnd (s : Session) : Bool :=
  match s.shell with
  | .error _ => false
  | .ok _ => s.pumps.inputEnded && !s.pumps.unitEnded

/-- What the session comes to. -/
def result (s : Session) : Except Failure Unit := s.shell.map fun _ => ()

end Session

end FleetControl.Terminal
