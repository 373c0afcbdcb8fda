import NetworkSelection.Json.Codec
import NetworkSelection.Key
import NetworkSelection.Network.Config
import NetworkSelection.Scan
import NetworkSelection.Signal.Statistics

/-!
# JSON forms of what comes in

Scan results, configurations, keys and samples, with the names and numbers they are
made of.  A MAC address is its text, in lower case when written; an SSID, a network id
and a nominator are a plain string or number; enumerations are their codes.  The
fields that may be missing are the channel width and the multi-link address of a scan
result, the switch of a security option, and the traits of a configuration.
-/

namespace NetworkSelection

open Json (required? fieldD? fields? named?)

/-! ## Names and numbers -/

instance : JsonCodec MacAddress where
  toJson m := .text (toString m)
  ofJson?
    | .text s => (MacAddress.parse s).toOption
    | _ => none

instance : JsonCodec Ssid where
  toJson s := toJson s.name
  ofJson? j := (ofJson? j).map Ssid.mk

instance : JsonCodec NetworkId where
  toJson n := toJson n.id
  ofJson? j := (ofJson? j).map NetworkId.mk

instance : JsonCodec Nominator where
  toJson n := toJson n.rank
  ofJson? j := (ofJson? j).map Nominator.mk

/-! ## Enumerations -/

instance : JsonCodec Security where
  toJson s := .text s.code
  ofJson? := named? Security.ofCode?

instance : JsonCodec ChannelWidth where
  toJson w := .text w.code
  ofJson? := named? ChannelWidth.ofCode?

instance : JsonCodec ConnectionEvent where
  toJson e := .text e.code
  ofJson? := named? ConnectionEvent.ofCode?

/-! ## Structures -/

instance : JsonCodec ScanResult where
  toJson scan := .object
    [("bssid", toJson scan.bssid),
      ("ssid", toJson scan.ssid),
      ("security_types", toJson scan.security),
      ("rssi", toJson scan.rssi),
      ("frequency", toJson scan.frequency),
      ("channel_width", toJson scan.width),
      ("ap_mld_mac_address", toJson scan.mld)]
  ofJson? j := do
    let [bssid, ssid, security, rssi, frequency, width, mld] ←
      fields? ["bssid", "ssid", "security_types", "rssi", "frequency", "channel_width",
        "ap_mld_mac_address"] j | none
    return {
      bssid := ← required? bssid
      ssid := ← required? ssid
      security := ← required? security
      rssi := ← required? rssi
      frequency := ← required? frequency
      width := ← fieldD? .mhz20 width
      mld := ← fieldD? none mld }

instance : JsonCodec SecurityOption where
  toJson option := .object
    [("security_type", toJson option.security),
      ("enabled", toJson option.enabled)]
  ofJson? j := do
    let [security, enabled] ← fields? ["security_type", "enabled"] j | none
    return {
      security := ← required? security
      enabled := ← fieldD? true enabled }

instance : JsonCodec NetworkConfig where
  toJson config := .object
    [("network_id", toJson config.id),
      ("ssid", toJson config.ssid),
      ("security_params", toJson config.options),
      ("trusted", toJson config.trusted),
      ("oem_paid", toJson config.oemPaid),
      ("oem_private", toJson config.oemPrivate),
      ("restricted", toJson config.restricted),
      ("ephemeral", toJson config.ephemeral),
      ("passpoint", toJson config.passpoint),
      ("user_selected", toJson config.userSelected),
      ("has_no_internet_access", toJson config.noInternet),
      ("no_internet_access_expected", toJson config.noInternetExpected),
      ("ip_provisioning_timed_out", toJson config.ipTimedOut),
      ("num_reboots_since_last_use", toJson config.rebootsSinceUse)]
  ofJson? j := do
    let [id, ssid, options, trusted, oemPaid, oemPrivate, restricted, ephemeral, passpoint,
        userSelected, noInternet, noInternetExpected, ipTimedOut, rebootsSinceUse] ←
      fields? ["network_id", "ssid", "security_params", "trusted", "oem_paid", "oem_private",
        "restricted", "ephemeral", "passpoint", "user_selected", "has_no_internet_access",
        "no_internet_access_expected", "ip_provisioning_timed_out",
        "num_reboots_since_last_use"] j | none
    return {
      id := ← required? id
      ssid := ← required? ssid
      options := ← required? options
      trusted := ← fieldD? true trusted
      oemPaid := ← fieldD? false oemPaid
      oemPrivate := ← fieldD? false oemPrivate
      restricted := ← fieldD? false restricted
      ephemeral := ← fieldD? false ephemeral
      passpoint := ← fieldD? false passpoint
      userSelected := ← fieldD? false userSelected
      noInternet := ← fieldD? false noInternet
      noInternetExpected := ← fieldD? false noInternetExpected
      ipTimedOut := ← fieldD? false ipTimedOut
      rebootsSinceUse := ← fieldD? 0 rebootsSinceUse }

instance : JsonCodec NetworkIdentity where
  toJson network := .object
    [("ssid", toJson network.ssid),
      ("security_type", toJson network.security)]
  ofJson? j := do
    let [ssid, security] ← fields? ["ssid", "security_type"] j | none
    return {
      ssid := ← required? ssid
      security := ← required? security }

instance : JsonCodec Key where
  toJson key := .object
    [("match_info", toJson key.network),
      ("bssid", toJson key.bssid),
      ("network_id", toJson key.id),
      ("security_type", toJson key.security)]
  ofJson? j := do
    let [network, bssid, id, security] ←
      fields? ["match_info", "bssid", "network_id", "security_type"] j | none
    return {
      network := ← required? network
      bssid := ← required? bssid
      id := ← required? id
      security := ← required? security }

instance : JsonCodec SignalSample where
  toJson sample := .object
    [("rssi", toJson sample.rssi),
      ("link_speed_mbps", toJson sample.linkSpeed),
      ("elapsed_ms", toJson sample.elapsed)]
  ofJson? j := do
    let [rssi, linkSpeed, elapsed] ← fields? ["rssi", "link_speed_mbps", "elapsed_ms"] j | none
    return {
      rssi := ← required? rssi
      linkSpeed := ← required? linkSpeed
      elapsed := ← required? elapsed }

end NetworkSelection
