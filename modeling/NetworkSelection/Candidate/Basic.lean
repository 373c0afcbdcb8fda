import NetworkSelection.Key
import NetworkSelection.Network.Config
import NetworkSelection.Scan
import NetworkSelection.ScoreCard

/-!
# Candidates

A candidate is one access point that could be connected to, as it was when it was
taken in.  It carries everything a scorer may want to weigh: what the radio
measured, what the configuration says, how the network stood to the current
connection at that moment, and how likely it seemed to give internet access.
None of this changes afterwards.  The one figure that is known later, the joint
throughput of a multi-link access point, is filled in by making a new candidate.

A pool does not hold candidates as such but *records*: a candidate together with
the serial number it got when the record was made.  Two records may agree in every
field of their candidates and still be different records; the serial number is
what tells them apart.
-/

namespace NetworkSelection

/-- What is observed about an access point in one pass, beside its configuration. -/
structure Observation where
  nominator : Nominator
  /-- Signal strength in dBm. -/
  rssi : Int32
  /-- Center frequency in MHz. -/
  frequency : UInt32
  width : ChannelWidth
  /-- How recently the user or an app selected the network. -/
  weight : Float := 0
  metered : Bool := false
  /-- Suggested by a carrier or a privileged app. -/
  privileged : Bool := false
  /-- The throughput predicted for this link alone. -/
  mbps : UInt32 := 0
  mld : Option MacAddress := none
  deriving DecidableEq

namespace Observation

/-- The radio measurements of a scan result; everything else zero or absent. -/
def ofScan (scan : ScanResult) (nominator : Nominator) : Observation where
  nominator
  rssi := scan.rssi
  frequency := scan.frequency
  width := scan.width
  mld := scan.mld

end Observation

/-- An access point that could be connected to. -/
structure Candidate (η : Type) where
  key : Key
  nominator : Nominator
  /-- Signal strength in dBm. -/
  rssi : Int32
  /-- Center frequency in MHz. -/
  frequency : UInt32
  width : ChannelWidth
  /-- One when the network was just selected by the user or an app, less later on. -/
  weight : Float
  /-- The way into the history of this access point, if there is one. -/
  handle : Option η
  userSelected : Bool
  /-- Same configuration as the current connection. -/
  currentNetwork : Bool
  /-- Same BSSID as the current connection. -/
  currentBssid : Bool
  metered : Bool
  noInternet : Bool
  noInternetExpected : Bool
  isOpen : Bool
  passpoint : Bool
  ephemeral : Bool
  trusted : Bool
  restricted : Bool
  oemPaid : Bool
  oemPrivate : Bool
  privileged : Bool
  ipTimedOut : Bool
  /-- The throughput predicted for this link alone. -/
  mbps : UInt32
  /-- The joint throughput of the links of the multi-link access point; zero until known. -/
  multiLinkMbps : UInt32
  rebootsSinceUse : UInt32
  /-- The estimated chance of internet access, in percent. -/
  availability : UInt8
  mld : Option MacAddress
  deriving DecidableEq

namespace Candidate

variable {η σ : Type}

/-- A weight brought into the unit interval; one that is not a number says that the
network was never selected. -/
def unitWeight (weight : Float) : Float :=
  if weight.isNaN then 0
  else if weight < 0 then 0
  else if 1 < weight then 1
  else weight

/-- How a candidate stands to the current connection. -/
structure Standing where
  network : Bool
  bssid : Bool
  deriving DecidableEq

/-- The candidate made of a key, the configuration it was resolved under and what was
observed. -/
def make (key : Key) (config : NetworkConfig) (seen : Observation) (handle : Option η)
    (standing : Standing) (availability : UInt8) : Candidate η where
  key
  nominator := seen.nominator
  rssi := seen.rssi
  frequency := seen.frequency
  width := seen.width
  weight := unitWeight seen.weight
  handle
  userSelected := config.userSelected
  currentNetwork := standing.network
  currentBssid := standing.bssid
  metered := seen.metered
  noInternet := config.noInternet
  noInternetExpected := config.noInternetExpected
  isOpen := config.isOpen
  passpoint := config.passpoint
  ephemeral := config.ephemeral
  trusted := config.trusted
  restricted := config.restricted
  oemPaid := config.oemPaid
  oemPrivate := config.oemPrivate
  privileged := seen.privileged
  ipTimedOut := config.ipTimedOut
  mbps := seen.mbps
  multiLinkMbps := 0
  rebootsSinceUse := config.rebootsSinceUse
  availability
  mld := seen.mld

/-- The same candidate with the joint throughput of its links filled in. -/
def withMultiLinkMbps (mbps : UInt32) (c : Candidate η) : Candidate η :=
  { c with multiLinkMbps := mbps }

/-- Whether the candidate is a link of a multi-link access point. -/
def isMultiLink (c : Candidate η) : Bool :=
  c.mld.isSome

/-- The statistics of an event on the candidate's frequency, as the history has them
now. -/
def statistics? [BssidHandle η σ] (c : Candidate η) (event : ConnectionEvent) (history : σ) :
    Option SignalStats :=
  c.handle.bind fun handle => BssidHandle.signal? handle event c.frequency history

end Candidate

/-- A candidate as a pool holds it. -/
structure Record (η : Type) where
  /-- Tells this record from every other one, also from those with the same candidate. -/
  serial : Nat
  candidate : Candidate η
  deriving DecidableEq

namespace Record

variable {η : Type}

/-- The place the record competes for. -/
def key (r : Record η) : Key := r.candidate.key

/-- The multi-link access point the record is a link of. -/
def mld (r : Record η) : Option MacAddress := r.candidate.mld

end Record

end NetworkSelection
