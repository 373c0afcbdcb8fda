import NetworkSelection.Fault
import NetworkSelection.Key

/-!
# Log events

What the pools and the score card report about their work, in the order in which
it happens.  An event carries the values it is about; only the description of an
added candidate is text from the start, because the candidate itself goes on to
change hands.
-/

namespace NetworkSelection

/-- How urgent an event is. -/
inductive LogLevel where
  | trace
  | debug
  | warn
  deriving DecidableEq

/-- One reported event. -/
inductive LogEvent where
  /-- A scan result has no key; the BSSID is as scanned. -/
  | resolutionFailed (bssid : String) (ssid : Ssid)
  /-- A fault was recorded: how many there are now, and whether the ledger is picky. -/
  | faultRecorded (count : UInt32) (picky : Bool) (fault : Fault)
  /-- A nominator came too late for a place that a higher priority holds. -/
  | nominatorRejected (key : Key) (nominator existing : Nominator)
  /-- The holder of a place gives way to a new candidate. -/
  | replacing (key : Key) (nominator : Nominator)
  /-- The score card began to keep history for an access point. -/
  | historyBegun (ssid : Ssid) (bssid : MacAddress)
  /-- A new candidate is tied to its history, under this configuration. -/
  | handleAttached (key : Key) (id : NetworkId)
  /-- A candidate took its place. -/
  | added (description : String)
  /-- The links of a multi-link access point were given their joint throughput. -/
  | multiLinkThroughput (mld : MacAddress) (links : Nat) (mbps : UInt32)
  /-- A scorer is asked to choose among so many candidates. -/
  | choosing (scorer : String) (count : Nat)
  /-- A scorer chose, with an error estimate that is no positive number. -/
  | nonPositiveError (scorer : String) (key : Key) (err : Float)
  deriving DecidableEq

namespace LogEvent

/-- How urgent the event is. -/
def level : LogEvent → LogLevel
  | .resolutionFailed .. => .debug
  | .faultRecorded .. => .warn
  | .nominatorRejected .. => .debug
  | .replacing .. => .debug
  | .historyBegun .. => .debug
  | .handleAttached .. => .trace
  | .added .. => .trace
  | .multiLinkThroughput .. => .debug
  | .choosing .. => .trace
  | .nonPositiveError .. => .warn

/-- The headline of the event. -/
def message : LogEvent → String
  | .resolutionFailed .. => "candidates: key resolution failed"
  | .faultRecorded .. => "candidates: fault recorded"
  | .nominatorRejected .. => "candidates: lower-priority nominator rejected"
  | .replacing .. => "candidates: replacing candidate"
  | .historyBegun .. => "scorecard: new bssid record"
  | .handleAttached .. => "scorecard: handle attached"
  | .added .. => "candidates: added"
  | .multiLinkThroughput .. => "candidates: multi-link throughput"
  | .choosing .. => "candidates: choosing"
  | .nonPositiveError .. => "candidates: non-positive error estimate"

end LogEvent

end NetworkSelection
