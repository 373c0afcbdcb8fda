import NetworkSelection.MacAddress
import NetworkSelection.Network.Names
import NetworkSelection.Security
import NetworkSelection.Text.Quoted

/-!
# Faults

What can be wrong with an observation, or with what is said about the current
connection.  A fault is soft: it is recorded and the observation is skipped, and
only a picky pool hands it back to its caller.
-/

namespace NetworkSelection

/-- Why an observation, or the current connection, cannot be taken in. -/
inductive Fault where
  /-- There is no configuration to go with the scan result. -/
  | missingConfig
  /-- The scanned BSSID is no address. -/
  | invalidBssid (text : String) (reason : MacAddress.ParseError)
  /-- The scan result and the configuration carry different SSIDs. -/
  | identityMismatch (scan config : Ssid)
  /-- No enabled option of the configuration is advertised. -/
  | noCompatibleSecurity (scan config : List Security)
  /-- The BSSID of the current connection is no address. -/
  | invalidCurrentBssid (text : String) (reason : MacAddress.ParseError)
  deriving DecidableEq

namespace Fault

/-- Security types listed by their short names. -/
def listed (types : List Security) : String :=
  "[" ++ ", ".intercalate (types.map Security.shortName) ++ "]"

/-- What is said about a fault. -/
def message : Fault → String
  | .missingConfig => "no configuration supplied"
  | .invalidBssid text reason =>
    "invalid bssid " ++ Text.quoted text ++ ": " ++ reason.message
  | .identityMismatch scan config =>
    "scan identity " ++ toString scan ++ " does not match configuration identity " ++
      toString config
  | .noCompatibleSecurity scan config =>
    "no compatible security type: scan " ++ listed scan ++ ", config " ++ listed config
  | .invalidCurrentBssid text reason =>
    "invalid current bssid " ++ Text.quoted text ++ ": " ++ reason.message

/-- The reason inside a fault about an address. -/
def reason? : Fault → Option MacAddress.ParseError
  | .invalidBssid _ reason => some reason
  | .invalidCurrentBssid _ reason => some reason
  | _ => none

end Fault

end NetworkSelection
