/-!
# Connection events

The moments in the life of a connection for which statistics are kept, in their
sort order.
-/

namespace NetworkSelection

/-- A moment in the life of a connection. -/
inductive ConnectionEvent where
  | signalPoll
  | scanBeforeConnect
  | firstPollAfterConnection
  | ipConfigured
  | validated
  | connectionFailure
  | ipReachabilityLost
  | lastPollBeforeRoam
  | roamSuccess
  | wifiDisabled
  | roamFailure
  | lastPollBeforeSwitch
  | disconnection
  deriving DecidableEq

namespace ConnectionEvent

/-- Every event, in sort order. -/
def all : List ConnectionEvent :=
  [signalPoll, scanBeforeConnect, firstPollAfterConnection, ipConfigured, validated,
    connectionFailure, ipReachabilityLost, lastPollBeforeRoam, roamSuccess, wifiDisabled,
    roamFailure, lastPollBeforeSwitch, disconnection]

/-- The place in the sort order. -/
def rank (e : ConnectionEvent) : Nat := e.ctorIdx

theorem rank_injective {e f : ConnectionEvent} (h : e.rank = f.rank) : e = f := by
  revert h; cases e <;> cases f <;> decide

instance : Ord ConnectionEvent where
  compare e f := compare e.rank f.rank

instance : Std.TransOrd ConnectionEvent :=
  inferInstanceAs (Std.TransCmp (compareOn rank))

instance : Std.LawfulEqOrd ConnectionEvent where
  eq_of_compare h := rank_injective (Std.LawfulEqOrd.eq_of_compare h)

/-- The code used in data. -/
def code : ConnectionEvent → String
  | signalPoll => "signal_poll"
  | scanBeforeConnect => "scan_before_connect"
  | firstPollAfterConnection => "first_poll_after_connection"
  | ipConfigured => "ip_configuration_success"
  | validated => "validation_success"
  | connectionFailure => "connection_failure"
  | ipReachabilityLost => "ip_reachability_lost"
  | lastPollBeforeRoam => "last_poll_before_roam"
  | roamSuccess => "roam_success"
  | wifiDisabled => "wifi_disabled"
  | roamFailure => "roam_failure"
  | lastPollBeforeSwitch => "last_poll_before_switch"
  | disconnection => "disconnection"

/-- The event that a code stands for. -/
def ofCode? (code : String) : Option ConnectionEvent :=
  all.find? fun e => e.code = code

/-- A code reads back. -/
theorem ofCode?_code (e : ConnectionEvent) : ofCode? e.code = some e := by
  cases e <;> decide

end ConnectionEvent

end NetworkSelection
