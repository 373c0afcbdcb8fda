import NetworkSelection.Fault
import NetworkSelection.Interchange.Ingestion

/-!
# JSON forms of faults

A fault is read from an object that names its kind and gives what the kind needs; the
reason inside a fault about an address is such an object too.  What is shown of a fault
is its kind together with its message.
-/

namespace NetworkSelection

open Json (required?)

namespace MacAddress.ParseError

/-- The name of the kind of reason. -/
def kind : ParseError → String
  | .empty => "Empty"
  | .wrongOctetCount _ => "WrongOctetCount"
  | .invalidOctet _ => "InvalidOctet"

/-- The reason that an object describes. -/
def ofJson? (j : Json) : Option ParseError := do
  match ← required? (j.member? "kind") with
  | "Empty" => return .empty
  | "WrongOctetCount" =>
    let parts : UInt64 ← required? (j.member? "value")
    return .wrongOctetCount parts.toNat
  | "InvalidOctet" => return .invalidOctet (← required? (j.member? "value"))
  | _ => none

/-- The kind of reason and its message. -/
def view (reason : ParseError) : Json :=
  .object [("error", .text reason.kind), ("message", .text reason.message)]

end MacAddress.ParseError

namespace Fault

/-- The name of the kind of fault. -/
def kind : Fault → String
  | .missingConfig => "MissingConfig"
  | .invalidBssid .. => "InvalidBssid"
  | .identityMismatch .. => "IdentityMismatch"
  | .noCompatibleSecurity .. => "NoCompatibleSecurity"
  | .invalidCurrentBssid .. => "InvalidCurrentBssid"

/-- The fault that an object describes. -/
def ofJson? (j : Json) : Option Fault := do
  match ← required? (j.member? "kind") with
  | "MissingConfig" => return .missingConfig
  | "InvalidBssid" =>
    let text ← required? (j.member? "bssid")
    let reason ← (j.member? "source").bind MacAddress.ParseError.ofJson?
    return .invalidBssid text reason
  | "IdentityMismatch" =>
    let scan ← required? (j.member? "scan")
    let config ← required? (j.member? "config")
    return .identityMismatch scan config
  | "NoCompatibleSecurity" =>
    let scan ← required? (j.member? "scan")
    let config ← required? (j.member? "config")
    return .noCompatibleSecurity scan config
  | "InvalidCurrentBssid" =>
    let text ← required? (j.member? "bssid")
    let reason ← (j.member? "source").bind MacAddress.ParseError.ofJson?
    return .invalidCurrentBssid text reason
  | _ => none

/-- The kind of fault, its message, and the message of the reason inside, if there is
one. -/
def view (fault : Fault) : Json :=
  .object
    [("error", .text fault.kind),
      ("message", .text fault.message),
      ("source", toJson (fault.reason?.map MacAddress.ParseError.message))]

end Fault

end NetworkSelection
