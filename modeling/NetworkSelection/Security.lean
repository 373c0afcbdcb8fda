/-!
# Security types

The ways an access point may protect a connection.  They are listed in their
sort order.  Three texts go with each: the code used in data, the label shown to
people, and the short name used where a fault lists the types involved.
-/

namespace NetworkSelection

/-- How a connection is protected. -/
inductive Security where
  | unprotected
  | wep
  | psk
  | eap
  | sae
  | owe
  | wapiPsk
  | wapiCert
  | wpa3Enterprise
  | wpa3Enterprise192
  | passpointR1R2
  | passpointR3
  | dpp
  deriving DecidableEq

namespace Security

/-- Every security type, in sort order. -/
def all : List Security :=
  [unprotected, wep, psk, eap, sae, owe, wapiPsk, wapiCert, wpa3Enterprise, wpa3Enterprise192,
    passpointR1R2, passpointR3, dpp]

theorem mem_all (s : Security) : s ∈ all := by
  cases s <;> decide

/-! ## Order -/

/-- The place in the sort order. -/
def rank (s : Security) : Nat := s.ctorIdx

theorem rank_injective {s t : Security} (h : s.rank = t.rank) : s = t := by
  revert h; cases s <;> cases t <;> decide

instance : Ord Security where
  compare s t := compare s.rank t.rank

instance : Std.TransOrd Security :=
  inferInstanceAs (Std.TransCmp (compareOn rank))

instance : Std.LawfulEqOrd Security where
  eq_of_compare h := rank_injective (Std.LawfulEqOrd.eq_of_compare h)

/-! ## Texts -/

/-- The code used in data. -/
def code : Security → String
  | unprotected => "open"
  | wep => "wep"
  | psk => "psk"
  | eap => "eap"
  | sae => "sae"
  | owe => "owe"
  | wapiPsk => "wapi_psk"
  | wapiCert => "wapi_cert"
  | wpa3Enterprise => "eap_wpa3_enterprise"
  | wpa3Enterprise192 => "eap_wpa3_enterprise192"
  | passpointR1R2 => "passpoint_r1_r2"
  | passpointR3 => "passpoint_r3"
  | dpp => "dpp"

/-- The type that a code stands for. -/
def ofCode? (code : String) : Option Security :=
  all.find? fun s => s.code = code

/-- A code reads back. -/
theorem ofCode?_code (s : Security) : ofCode? s.code = some s := by
  cases s <;> decide

/-- The label shown to people. -/
def label : Security → String
  | unprotected => "OPEN"
  | wep => "WEP"
  | psk => "PSK"
  | eap => "EAP"
  | sae => "SAE"
  | owe => "OWE"
  | wapiPsk => "WAPI_PSK"
  | wapiCert => "WAPI_CERT"
  | wpa3Enterprise => "EAP_WPA3_ENTERPRISE"
  | wpa3Enterprise192 => "EAP_WPA3_ENTERPRISE_192_BIT"
  | passpointR1R2 => "PASSPOINT_R1_R2"
  | passpointR3 => "PASSPOINT_R3"
  | dpp => "DPP"

instance : ToString Security := ⟨label⟩

/-- The short name used where a fault lists the types involved. -/
def shortName : Security → String
  | unprotected => "Open"
  | wep => "Wep"
  | psk => "Psk"
  | eap => "Eap"
  | sae => "Sae"
  | owe => "Owe"
  | wapiPsk => "WapiPsk"
  | wapiCert => "WapiCert"
  | wpa3Enterprise => "EapWpa3Enterprise"
  | wpa3Enterprise192 => "EapWpa3Enterprise192"
  | passpointR1R2 => "PasspointR1R2"
  | passpointR3 => "PasspointR3"
  | dpp => "Dpp"

/-! ## Authentication -/

/-- Whether the connection is unauthenticated.  OWE encrypts without
authenticating anyone, so it counts as open. -/
def isOpen (s : Security) : Bool :=
  s = unprotected || s = owe

end Security

end NetworkSelection
