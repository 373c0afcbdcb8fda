import NetworkSelection.MacAddress
import NetworkSelection.Network.Names
import NetworkSelection.Radio
import NetworkSelection.Security

/-!
# Scan results

One access point as a scan reports it.  The BSSID is kept as the text that the
driver handed over; whether it is an address is decided when a key is resolved,
so that a bad one can be accounted for.
-/

namespace NetworkSelection

/-- One access point as a scan reports it. -/
structure ScanResult where
  /-- The address of the radio as reported, not yet read. -/
  bssid : String
  ssid : Ssid
  /-- The security types that the access point advertises. -/
  security : List Security
  /-- Signal strength in dBm. -/
  rssi : Int32
  /-- Center frequency in MHz. -/
  frequency : UInt32
  width : ChannelWidth := .mhz20
  /-- The address of the multi-link access point this radio belongs to, if any. -/
  mld : Option MacAddress := none
  deriving DecidableEq

end NetworkSelection
