import NetworkSelection.Interchange.Ingestion
import NetworkSelection.Proofs.AddressText
import NetworkSelection.Proofs.Loosening

/-!
# What comes in is read as it was written

Scan results, configurations, keys and samples, and the names and numbers they are made
of, are read back from their JSON form and from each of its looser forms: fields that have
their default may be missing, the order of the fields is free, and members of unknown
names are passed over.  More is read than that, such as a MAC address in upper case or the
fields of a structure as a list; being read and written once brings all of it into a form
in which it stays.

* `defaultFields`: the fields that may be missing.
* `ReadsBack`, `ReadsBack.of_lawful`: what is promised of a type.
* `ingestion_readsBack`: the types that come in.
-/

namespace NetworkSelection

open Json (Loosened required? fields?)

/-! ## Defaults -/

/-- The fields that may be missing, each with the value its absence stands for: the width
and the multi-link address of a scan result, the switch of a security option, and the
traits of a configuration. -/
def defaultFields : List (String × Json) :=
  [("channel_width", toJson ChannelWidth.mhz20),
    ("ap_mld_mac_address", toJson (none : Option MacAddress)),
    ("enabled", toJson true),
    ("trusted", toJson true),
    ("oem_paid", toJson false),
    ("oem_private", toJson false),
    ("restricted", toJson false),
    ("ephemeral", toJson false),
    ("passpoint", toJson false),
    ("user_selected", toJson false),
    ("has_no_internet_access", toJson false),
    ("no_internet_access_expected", toJson false),
    ("ip_provisioning_timed_out", toJson false),
    ("num_reboots_since_last_use", toJson (0 : UInt32))]

/-! ## Numbers and plain texts -/

theorem Json.integerIn?_integer {least greatest n : Int} (h : least ≤ n ∧ n ≤ greatest) :
    Json.integerIn? least greatest (.integer n) = some n :=
  if_pos h

/-- A number that is not negative is read through its natural number. -/
theorem Json.map_integerIn?_natCast {α : Type} {greatest : Int} {n : Nat} (ofNat : Nat → α)
    (h : n ≤ greatest) :
    (Json.integerIn? 0 greatest (.integer n)).map (fun i => ofNat i.toNat) = some (ofNat n) := by
  rw [Json.integerIn?_integer ⟨Int.natCast_nonneg n, h⟩, Option.map_some, Int.toNat_natCast]

section Plain

variable {defaults : List (String × Json)}

instance : LawfulCodec defaults Bool :=
  .of_isPlain (fun _ => trivial) fun _ => rfl

instance : LawfulCodec defaults String :=
  .of_isPlain (fun _ => trivial) fun _ => rfl

instance : LawfulCodec defaults UInt8 :=
  .of_isPlain (fun _ => trivial) fun n => by
    have hlt := n.toNat_lt
    exact (Json.map_integerIn?_natCast UInt8.ofNat (by omega)).trans (by simp)

instance : LawfulCodec defaults UInt32 :=
  .of_isPlain (fun _ => trivial) fun n => by
    have hlt := n.toNat_lt
    exact (Json.map_integerIn?_natCast UInt32.ofNat (by omega)).trans (by simp)

instance : LawfulCodec defaults UInt64 :=
  .of_isPlain (fun _ => trivial) fun n => by
    have hlt := n.toNat_lt
    exact (Json.map_integerIn?_natCast UInt64.ofNat (by omega)).trans (by simp)

instance : LawfulCodec defaults Int32 :=
  .of_isPlain (fun _ => trivial) fun n => by
    have hleast := n.le_toInt
    have hgreatest := n.toInt_lt
    have hread : Json.integerIn? (-2147483648) 2147483647 (.integer n.toInt) = some n.toInt :=
      Json.integerIn?_integer (by omega)
    exact (congrArg (Option.map Int32.ofInt) hread).trans (by simp)

/-! ## Names -/

instance : LawfulCodec defaults MacAddress :=
  .of_isPlain (fun _ => trivial) fun m => by
    simp only [toJson, ofJson?, m.parse_toString]
    rfl

/-- An address that may be absent is written as its text or as `null`. -/
instance : LawfulCodec defaults (Option MacAddress) :=
  .of_isPlain (fun m => by cases m <;> trivial) fun m => by
    cases m with
    | none => rfl
    | some m => exact congrArg (Option.map some) (LawfulCodec.ofJson?_toJson defaults m)

instance : LawfulCodec defaults Ssid :=
  .of_isPlain (fun _ => trivial) fun s =>
    congrArg (Option.map Ssid.mk) (LawfulCodec.ofJson?_toJson defaults s.name)

instance : LawfulCodec defaults NetworkId :=
  .of_isPlain (fun _ => trivial) fun n =>
    congrArg (Option.map NetworkId.mk) (LawfulCodec.ofJson?_toJson defaults n.id)

instance : LawfulCodec defaults Nominator :=
  .of_isPlain (fun _ => trivial) fun n =>
    congrArg (Option.map Nominator.mk) (LawfulCodec.ofJson?_toJson defaults n.rank)

/-! ## Enumerations -/

instance : LawfulCodec defaults Security :=
  .of_isPlain (fun _ => trivial) Security.ofCode?_code

instance : LawfulCodec defaults ChannelWidth :=
  .of_isPlain (fun _ => trivial) ChannelWidth.ofCode?_code

instance : LawfulCodec defaults ConnectionEvent :=
  .of_isPlain (fun _ => trivial) ConnectionEvent.ofCode?_code

end Plain

/-! ## Structures

A structure is read field by field.  `Json.Loosened.fields?` says what is found of each, and
this reads as what was written, by the rule for fields that have to be given or by that for
fields that have a default.
-/

instance : LawfulCodec defaultFields SecurityOption where
  ofJson?_eq {option j} h := by
    obtain ⟨found, hfields, hfound⟩ := h.fields? (by simp)
    simp only [List.forall_mem_cons] at hfound
    obtain ⟨hsecurity, henabled, -⟩ := hfound
    show fields? _ j >>= _ = some option
    rw [hfields]
    show required? (found "security_type") >>= _ = some option
    rw [hsecurity.required?_eq rfl, henabled.fieldD?_eq rfl]
    rfl

instance : LawfulCodec defaultFields NetworkConfig where
  ofJson?_eq {config j} h := by
    obtain ⟨found, hfields, hfound⟩ := h.fields? (by simp)
    simp only [List.forall_mem_cons] at hfound
    obtain ⟨hid, hssid, hoptions, htrusted, hoemPaid, hoemPrivate, hrestricted, hephemeral,
      hpasspoint, huserSelected, hnoInternet, hnoInternetExpected, hipTimedOut, hreboots,
      -⟩ := hfound
    show fields? _ j >>= _ = some config
    rw [hfields]
    show required? (found "network_id") >>= _ = some config
    rw [hid.required?_eq rfl, hssid.required?_eq rfl, hoptions.required?_eq rfl,
      htrusted.fieldD?_eq rfl, hoemPaid.fieldD?_eq rfl, hoemPrivate.fieldD?_eq rfl,
      hrestricted.fieldD?_eq rfl, hephemeral.fieldD?_eq rfl, hpasspoint.fieldD?_eq rfl,
      huserSelected.fieldD?_eq rfl, hnoInternet.fieldD?_eq rfl,
      hnoInternetExpected.fieldD?_eq rfl, hipTimedOut.fieldD?_eq rfl, hreboots.fieldD?_eq rfl]
    rfl

instance : LawfulCodec defaultFields ScanResult where
  ofJson?_eq {scan j} h := by
    obtain ⟨found, hfields, hfound⟩ := h.fields? (by simp)
    simp only [List.forall_mem_cons] at hfound
    obtain ⟨hbssid, hssid, hsecurity, hrssi, hfrequency, hwidth, hmld, -⟩ := hfound
    show fields? _ j >>= _ = some scan
    rw [hfields]
    show required? (found "bssid") >>= _ = some scan
    rw [hbssid.required?_eq rfl, hssid.required?_eq rfl, hsecurity.required?_eq rfl,
      hrssi.required?_eq rfl, hfrequency.required?_eq rfl, hwidth.fieldD?_eq rfl,
      hmld.fieldD?_eq rfl]
    rfl

instance : LawfulCodec defaultFields NetworkIdentity where
  ofJson?_eq {network j} h := by
    obtain ⟨found, hfields, hfound⟩ := h.fields? (by simp)
    simp only [List.forall_mem_cons] at hfound
    obtain ⟨hssid, hsecurity, -⟩ := hfound
    show fields? _ j >>= _ = some network
    rw [hfields]
    show required? (found "ssid") >>= _ = some network
    rw [hssid.required?_eq rfl, hsecurity.required?_eq rfl]
    rfl

instance : LawfulCodec defaultFields Key where
  ofJson?_eq {key j} h := by
    obtain ⟨found, hfields, hfound⟩ := h.fields? (by simp)
    simp only [List.forall_mem_cons] at hfound
    obtain ⟨hnetwork, hbssid, hid, hsecurity, -⟩ := hfound
    show fields? _ j >>= _ = some key
    rw [hfields]
    show required? (found "match_info") >>= _ = some key
    rw [hnetwork.required?_eq rfl, hbssid.required?_eq rfl, hid.required?_eq rfl,
      hsecurity.required?_eq rfl]
    rfl

instance : LawfulCodec defaultFields SignalSample where
  ofJson?_eq {sample j} h := by
    obtain ⟨found, hfields, hfound⟩ := h.fields? (by simp)
    simp only [List.forall_mem_cons] at hfound
    obtain ⟨hrssi, hlinkSpeed, helapsed, -⟩ := hfound
    show fields? _ j >>= _ = some sample
    rw [hfields]
    show required? (found "rssi") >>= _ = some sample
    rw [hrssi.required?_eq rfl, hlinkSpeed.required?_eq rfl, helapsed.required?_eq rfl]
    rfl

/-! ## The types that come in -/

/-- The written form of what a JSON value denotes, if it denotes something. -/
def Json.rewritten? (α : Type) [JsonCodec α] (j : Json) : Option Json :=
  (ofJson? j : Option α).map toJson

/-- The values of a type are read back from what is written and from its looser forms, and
what has been read and written once is the same each time it is read and written again. -/
structure ReadsBack (α : Type) [JsonCodec α] : Prop where
  written (a : α) : ofJson? (toJson a) = some a
  loosened {a : α} {j : Json} (h : Loosened defaultFields (toJson a) j) : ofJson? j = some a
  normal {j j' : Json} (h : j.rewritten? α = some j') : j'.rewritten? α = some j'

theorem ReadsBack.of_lawful {α : Type} [JsonCodec α] [LawfulCodec defaultFields α] :
    ReadsBack α := by
  have hwritten := LawfulCodec.ofJson?_toJson (α := α) defaultFields
  constructor
  case written => exact hwritten
  case loosened => exact LawfulCodec.ofJson?_eq
  case normal =>
    intro j j' h
    obtain ⟨a, -, rfl⟩ := Option.map_eq_some_iff.1 h
    rw [Json.rewritten?, hwritten, Option.map_some]

/-- All that comes in as JSON is read back from what is written and from its looser forms,
and reading and writing it brings it into a normal form. -/
theorem ingestion_readsBack :
    ReadsBack ScanResult ∧ ReadsBack SecurityOption ∧ ReadsBack NetworkConfig ∧
      ReadsBack NetworkIdentity ∧ ReadsBack Key ∧ ReadsBack MacAddress ∧ ReadsBack Ssid ∧
      ReadsBack NetworkId ∧ ReadsBack Nominator ∧ ReadsBack Security ∧
      ReadsBack ChannelWidth ∧ ReadsBack ConnectionEvent ∧ ReadsBack SignalSample :=
  ⟨.of_lawful, .of_lawful, .of_lawful, .of_lawful, .of_lawful, .of_lawful, .of_lawful,
    .of_lawful, .of_lawful, .of_lawful, .of_lawful, .of_lawful, .of_lawful⟩

/-- A configuration in a looser form: the first two fields have changed places, all that
has its default is missing but `passpoint`, and a member nobody knows is put last.  One
option lacks its switch, the other has its switch first. -/
theorem ingestion_readsBack_configuration :
    let config : NetworkConfig :=
      { id := ⟨3⟩, ssid := ⟨"home"⟩, options := [⟨.sae, true⟩, ⟨.psk, false⟩] }
    let j : Json := .object
      [("ssid", .text "home"),
        ("network_id", .integer 3),
        ("security_params", .list
          [.object [("security_type", .text "sae")],
            .object [("enabled", .bool false), ("security_type", .text "psk")]]),
        ("passpoint", .bool false),
        ("comment", .null)]
    Loosened defaultFields (toJson config) j ∧ ofJson? j = some config := by
  intro config j
  have hsae : Loosened defaultFields (toJson (SecurityOption.mk .sae true))
      (.object [("security_type", .text "sae")]) :=
    .object [] (.kept "security_type" (.same (.text "sae")) (.leftOut "enabled" rfl .nil))
      (by simp) (.refl _)
  have hpsk : Loosened defaultFields (toJson (SecurityOption.mk .psk false))
      (.object [("enabled", .bool false), ("security_type", .text "psk")]) :=
    .object [] (.of_refl .same _) (by simp) (.swap _ _ _)
  have hthinned : Json.Thinned defaultFields (Loosened defaultFields) _ _ :=
    .kept "network_id" (.same (toJson config.id)) <|
    .kept "ssid" (.same (toJson config.ssid)) <|
    .kept "security_params" (.list (.cons hsae (.cons hpsk .nil))) <|
    .leftOut "trusted" rfl <|
    .leftOut "oem_paid" rfl <|
    .leftOut "oem_private" rfl <|
    .leftOut "restricted" rfl <|
    .leftOut "ephemeral" rfl <|
    .kept "passpoint" (.same (toJson config.passpoint)) <|
    .leftOut "user_selected" rfl <|
    .leftOut "has_no_internet_access" rfl <|
    .leftOut "no_internet_access_expected" rfl <|
    .leftOut "ip_provisioning_timed_out" rfl <|
    .leftOut "num_reboots_since_last_use" rfl .nil
  have hloosened : Loosened defaultFields (toJson config) j :=
    .object [("comment", .null)] hthinned (by simp) (.swap _ _ _)
  exact ⟨hloosened, ingestion_readsBack.2.2.1.loosened hloosened⟩

/-- An address is read in either case and written in lower case. -/
example : (Json.text "02:AB:00:00:00:0C").rewritten? MacAddress =
    some (.text "02:ab:00:00:00:0c") := by
  rfl

end NetworkSelection
