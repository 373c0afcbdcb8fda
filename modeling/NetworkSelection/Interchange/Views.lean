import NetworkSelection.Candidate.Description
import NetworkSelection.Choice
import NetworkSelection.Interchange.Faults
import NetworkSelection.Interchange.Statistics
import NetworkSelection.Ledger

/-!
# JSON views of what goes out

Ledgers, candidates, choices and log events are shown but never read back.
-/

namespace NetworkSelection

/-! ## Ledgers -/

namespace Ledger

/-- The count, the last fault, and whether the ledger is picky. -/
def view (ledger : Ledger) : Json :=
  .object
    [("count", toJson ledger.count),
      ("last", (ledger.last.map Fault.view).getD .null),
      ("picky", toJson ledger.picky)]

end Ledger

/-! ## Statistics with their means -/

namespace SampleStats

/-- The summary and the mean. -/
def view (stats : SampleStats) : Json :=
  .object (stats.figures ++ [("mean", toJson stats.mean)])

end SampleStats

namespace SignalStats

/-- The statistics, each summary with its mean. -/
def view (stats : SignalStats) : Json :=
  .object
    [("event", toJson stats.event),
      ("frequency", toJson stats.frequency),
      ("rssi", stats.rssi.view),
      ("link_speed", stats.linkSpeed.view),
      ("elapsed_ms", stats.elapsed.view)]

end SignalStats

/-! ## Candidates and choices -/

namespace Candidate

variable {η : Type}

/-- Every figure and trait of a candidate, and its description. -/
def view (c : Candidate η) : Json :=
  .object
    [("key", toJson c.key),
      ("network_config_id", toJson c.key.id),
      ("bssid", toJson c.key.bssid),
      ("nominator_id", toJson c.nominator),
      ("rssi", toJson c.rssi),
      ("frequency", toJson c.frequency),
      ("channel_width", toJson c.width),
      ("last_selection_weight", toJson c.weight),
      ("user_selected", toJson c.userSelected),
      ("current_network", toJson c.currentNetwork),
      ("current_bssid", toJson c.currentBssid),
      ("metered", toJson c.metered),
      ("has_no_internet_access", toJson c.noInternet),
      ("no_internet_access_expected", toJson c.noInternetExpected),
      ("open_network", toJson c.isOpen),
      ("passpoint", toJson c.passpoint),
      ("ephemeral", toJson c.ephemeral),
      ("trusted", toJson c.trusted),
      ("restricted", toJson c.restricted),
      ("oem_paid", toJson c.oemPaid),
      ("oem_private", toJson c.oemPrivate),
      ("carrier_or_privileged", toJson c.privileged),
      ("ip_provisioning_timed_out", toJson c.ipTimedOut),
      ("predicted_throughput_mbps", toJson c.mbps),
      ("predicted_multi_link_throughput_mbps", toJson c.multiLinkMbps),
      ("num_reboots_since_last_use", toJson c.rebootsSinceUse),
      ("availability", toJson c.availability),
      ("ap_mld_mac_address", toJson c.mld),
      ("multi_link_capable", toJson c.isMultiLink),
      ("display", .text c.describe)]

end Candidate

namespace Choice

/-- The choice, and whether it names a candidate. -/
def view (choice : Choice) : Json :=
  .object
    [("value", toJson choice.value),
      ("err", toJson choice.err),
      ("candidate_key", toJson choice.key),
      ("override", toJson choice.userOverride),
      ("is_none", toJson choice.isNone)]

end Choice

/-! ## Log events -/

namespace LogLevel

/-- The name of the level. -/
def name : LogLevel → String
  | .trace => "TRACE"
  | .debug => "DEBUG"
  | .warn => "WARN"

end LogLevel

namespace LogEvent

/-- What the event is about. -/
def particulars : LogEvent → List (String × Json)
  | .resolutionFailed bssid ssid => [("bssid", .text bssid), ("ssid", .text (toString ssid))]
  | .faultRecorded count picky fault =>
    [("count", toJson count), ("picky", toJson picky), ("fault", .text fault.message)]
  | .nominatorRejected key nominator existing =>
    [("key", .text (toString key)), ("nominator", .text (toString nominator)),
      ("existing", .text (toString existing))]
  | .replacing key nominator =>
    [("key", .text (toString key)), ("nominator", .text (toString nominator))]
  | .historyBegun ssid bssid =>
    [("ssid", .text (toString ssid)), ("bssid", .text (toString bssid))]
  | .handleAttached key id =>
    [("key", .text (toString key)), ("network_id", .text (toString id))]
  | .added description => [("candidate", .text description)]
  | .multiLinkThroughput mld links mbps =>
    [("mld", .text (toString mld)), ("links", .integer links), ("mbps", toJson mbps)]
  | .choosing scorer count => [("scorer", .text scorer), ("count", .integer count)]
  | .nonPositiveError scorer key err =>
    [("scorer", .text scorer), ("key", .text (toString key)), ("err", toJson err)]

/-- The level, the headline and what the event is about. -/
def view (event : LogEvent) : Json :=
  .object
    (("level", .text event.level.name) :: ("message", .text event.message) ::
      event.particulars)

end LogEvent

end NetworkSelection
