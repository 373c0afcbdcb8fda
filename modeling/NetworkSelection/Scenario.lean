import NetworkSelection.Network.Config
import NetworkSelection.Scan

/-!
# Ready-made observations

Addresses, scan results and configurations that only differ where it matters, for
trying out a selection pass.
-/

namespace NetworkSelection

namespace Scenario

/-- The radio of that number: a locally administered address that ends in it. -/
def radio (n : UInt16) : MacAddress :=
  ⟨0x02, 0, 0, 0, (n >>> 8).toUInt8, n.toUInt8⟩

/-- The multi-link access point of that number. -/
def accessPoint (n : UInt8) : MacAddress :=
  ⟨0x0a, 0, 0, 0, 0, n⟩

/-- A wide 5 GHz channel with PSK and SAE. -/
def scan (ssid : Ssid) (n : UInt16) (rssi : Int32) : ScanResult where
  bssid := toString (radio n)
  ssid
  security := [.psk, .sae]
  rssi
  frequency := 5180
  width := .mhz80

/-- A saved network that is joined by PSK. -/
def config (id : NetworkId) (ssid : Ssid) : NetworkConfig :=
  .simple id ssid .psk

end Scenario

end NetworkSelection
