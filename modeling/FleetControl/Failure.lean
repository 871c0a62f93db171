/-!
# Failures

What can go wrong in the control plane, by cause. Each cause carries the text that says what it is
about; `Failure.message` is the sentence a caller sees.
-/

namespace FleetControl

/-- **Why an operation failed.** -/
inductive Failure where
  /-- A node's connection settings lack something. -/
  | incomplete (text : String)
  /-- An engine could not be reached. -/
  | connection (text : String)
  | notFound (text : String)
  | permissionDenied (text : String)
  /-- A unit could not be created or started. -/
  | provision (text : String)
  | invalidRequest (text : String)
  /-- The engine refused, with its own status. -/
  | engine (status : UInt16) (text : String)
  | storage (text : String)
  | config (text : String)
  /-- The host's files or programs failed. -/
  | host (text : String)
  /-- A text could not be read as what it should hold. -/
  | unreadable (text : String)
  | internal (text : String)
deriving Repr, DecidableEq, Inhabited

namespace Failure

/-- **What a caller is told.** -/
def message : Failure → String
  | incomplete t => "Configuration incomplete: " ++ t
  | connection t => "Connection error: " ++ t
  | notFound t => "Not found: " ++ t
  | permissionDenied t => "Permission denied: " ++ t
  | provision t => "Provision failed: " ++ t
  | invalidRequest t => "Invalid request: " ++ t
  | engine status t => "Engine returned " ++ toString status.toNat ++ ": " ++ t
  | storage t => "Storage error: " ++ t
  | config t => "Configuration error: " ++ t
  | host t => "IO error: " ++ t
  | unreadable t => "Serialization error: " ++ t
  | internal t => "Internal error: " ++ t

/-- The engine does not have the object that was asked for. -/
def isMissingOnEngine : Failure → Bool
  | engine status _ => status == 404
  | _ => false

end Failure

end FleetControl
