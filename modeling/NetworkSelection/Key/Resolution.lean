import NetworkSelection.Fault
import NetworkSelection.Key
import NetworkSelection.Network.Config
import NetworkSelection.Scan

/-!
# Resolving a key

A scan result and a configuration determine a key if four conditions hold: there
is a configuration, the scanned BSSID is an address, the two sides carry the same
SSID (a Passpoint configuration is excused), and some enabled option of the
configuration is advertised.  The first condition that fails is the fault.
-/

namespace NetworkSelection

namespace Key

/-- The security type that a connection would use: the first enabled option, in
the configuration's order of preference, that the access point advertises. -/
def negotiate (scan : ScanResult) (config : NetworkConfig) : Option Security :=
  config.enabled.find? fun s => s ∈ scan.security

/-- The key of a scan result under a configuration, or the first reason why there
is none. -/
def resolve (scan : ScanResult) (config? : Option NetworkConfig) : Except Fault Key :=
  match config? with
  | none => .error .missingConfig
  | some config =>
    match MacAddress.parse scan.bssid with
    | .error reason => .error (.invalidBssid scan.bssid reason)
    | .ok bssid =>
      if !config.passpoint ∧ scan.ssid ≠ config.ssid then
        .error (.identityMismatch scan.ssid config.ssid)
      else
        match negotiate scan config with
        | none => .error (.noCompatibleSecurity scan.security config.enabled)
        | some security =>
          .ok { network := ⟨scan.ssid, security⟩, bssid, id := config.id, security }

/-- A scan result without a configuration has no key. -/
@[simp] theorem resolve_none (scan : ScanResult) : resolve scan none = .error .missingConfig :=
  rfl

/-- The negotiated type is advertised and enabled. -/
theorem mem_of_negotiate {scan : ScanResult} {config : NetworkConfig} {s : Security}
    (h : negotiate scan config = some s) : s ∈ scan.security ∧ s ∈ config.enabled :=
  ⟨by simpa using List.find?_some h, List.mem_of_find?_eq_some h⟩

end Key

end NetworkSelection
