import NetworkSelection.Network.Names
import NetworkSelection.Security

/-!
# Network configurations

A saved or suggested network: the SSID it is found under, the security options
it may be joined with in order of preference, and the traits that selection looks
at.  An option can be switched off; a configuration whose options are all off can
be joined in no way at all.
-/

namespace NetworkSelection

/-- One way to join a network. -/
structure SecurityOption where
  security : Security
  enabled : Bool := true
  deriving DecidableEq

/-- A saved or suggested network. -/
structure NetworkConfig where
  id : NetworkId
  ssid : Ssid
  /-- The options in order of preference. -/
  options : List SecurityOption
  trusted : Bool := true
  oemPaid : Bool := false
  oemPrivate : Bool := false
  restricted : Bool := false
  ephemeral : Bool := false
  /-- A Passpoint network is matched by its provider and not by its SSID. -/
  passpoint : Bool := false
  userSelected : Bool := false
  /-- The last connection had no internet access. -/
  noInternet : Bool := false
  /-- The network is not meant to give internet access. -/
  noInternetExpected : Bool := false
  /-- Getting an address timed out, and the network was marked as local only. -/
  ipTimedOut : Bool := false
  rebootsSinceUse : UInt32 := 0
  deriving DecidableEq

namespace NetworkConfig

/-- A trusted configuration that is joined in one way, all other traits absent. -/
def simple (id : NetworkId) (ssid : Ssid) (security : Security) : NetworkConfig :=
  { id, ssid, options := [{ security }] }

/-- The security types of the options that are on, in order of preference. -/
def enabled (config : NetworkConfig) : List Security :=
  (config.options.filter (·.enabled)).map (·.security)

/-- Whether the network is joined without authentication: some option is on, and
every one that is on is unauthenticated. -/
def isOpen (config : NetworkConfig) : Bool :=
  !config.enabled.isEmpty && config.enabled.all Security.isOpen

theorem mem_enabled {config : NetworkConfig} {s : Security} :
    s ∈ config.enabled ↔ ⟨s, true⟩ ∈ config.options := by
  simp only [enabled, List.mem_map, List.mem_filter]
  constructor
  · rintro ⟨⟨t, on⟩, ⟨hmem, hon⟩, rfl⟩
    simp_all
  · exact fun h => ⟨⟨s, true⟩, ⟨h, rfl⟩, rfl⟩

end NetworkConfig

end NetworkSelection
