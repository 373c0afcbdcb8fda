import NetworkSelection.Key.Resolution
import NetworkSelection.Proofs.AddressText
import NetworkSelection.Scenario

/-!
# What a resolved key says, and what it does not depend on

A scan result has a key under a configuration if four requirements are met, and if it has none
the fault is that of the first requirement that is not.  The key says the SSID as scanned, the
address, the network id and, twice, the security type that the configuration prefers among the
advertised ones.

Nothing else goes into it.  One radio is scanned again and again, its BSSID spelled in another
case, the advertised types in another order, and the options of a configuration may be switched
off or listed twice; the key is the same each time, and that is why the pool holds one record for
such a radio and not several.

* `Key.Requirement`: the four requirements and their order.
* `Key.negotiate_eq_some_iff`: the preferred type.
* `NetworkConfig.preferences`: what negotiation heeds of the options.
* `ScanResult.SameRadio`, `NetworkConfig.SamePreferences`: what the key does not depend on.
* `Key.resolve_settled`: resolution as a whole.
-/

namespace NetworkSelection

/-! ## What the key does not depend on -/

/-- The enabled types in the order of preference, each at its first place only. -/
def NetworkConfig.preferences (config : NetworkConfig) : List Security :=
  config.enabled.eraseDups

/-- Two scan results of one radio: the SSID is the same, the BSSIDs denote one address, unless
neither denotes any, and the same types are advertised, in whatever order and however often. -/
structure ScanResult.SameRadio (scan scan' : ScanResult) : Prop where
  ssid : scan'.ssid = scan.ssid
  bssid : ∀ m, MacAddress.parse scan'.bssid = .ok m ↔ MacAddress.parse scan.bssid = .ok m
  security : ∀ s, s ∈ scan'.security ↔ s ∈ scan.security

/-- The letter case of a BSSID does not matter. -/
theorem ScanResult.sameRadio_of_toLower_eq {scan : ScanResult} {text : String}
    (h : text.toLower = scan.bssid.toLower) : scan.SameRadio { scan with bssid := text } where
  ssid := rfl
  bssid m := by rw [MacAddress.parse_eq_ok_iff_toLower, MacAddress.parse_eq_ok_iff_toLower, h]
  security _ := Iff.rfl

/-- Two configurations of one network with the same preferences. -/
structure NetworkConfig.SamePreferences (config config' : NetworkConfig) : Prop where
  id : config'.id = config.id
  ssid : config'.ssid = config.ssid
  passpoint : config'.passpoint = config.passpoint
  preferences : config'.preferences = config.preferences

theorem ScanResult.SameRadio.refl (scan : ScanResult) : scan.SameRadio scan :=
  ⟨rfl, fun _ => Iff.rfl, fun _ => Iff.rfl⟩

theorem NetworkConfig.SamePreferences.refl (config : NetworkConfig) :
    config.SamePreferences config :=
  ⟨rfl, rfl, rfl, rfl⟩

/-- What comes again later is not found first. -/
theorem find?_eraseDups {α : Type} [BEq α] [LawfulBEq α] (p : α → Bool) :
    ∀ l : List α, l.eraseDups.find? p = l.find? p
  | [] => by rw [List.eraseDups_nil]
  | x :: rest => by
    rw [List.eraseDups_cons, List.find?_cons, List.find?_cons, find?_eraseDups p,
      List.find?_filter]
    cases hx : p x with
    | true => rfl
    | false =>
      -- the items that are left out are all equal to the one that was not found
      refine congrArg (fun q => rest.find? q) (funext fun y => ?_)
      by_cases hy : y = x <;> simp [hy, hx]
termination_by l => l.length
decreasing_by exact Nat.lt_succ_of_le (List.length_filter_le _ _)

namespace NetworkConfig

/-- An option that is off, or that stands before already, does not change the preferences. -/
theorem preferences_insert {before after : List SecurityOption} {option : SecurityOption}
    (h : option.enabled = false ∨ option ∈ before) (config : NetworkConfig) :
    preferences { config with options := before ++ option :: after } =
      preferences { config with options := before ++ after } := by
  simp only [preferences, enabled, List.filter_append, List.map_append, List.filter_cons]
  cases henabled : option.enabled with
  | false => rfl
  | true =>
    have hbefore : option ∈ before := by simpa [henabled] using h
    have hmem : option.security ∈ (before.filter (·.enabled)).map (·.security) :=
      List.mem_map_of_mem (List.mem_filter.mpr ⟨hbefore, henabled⟩)
    simp only [if_pos, List.map_cons, List.eraseDups_append, List.removeAll, List.filter_cons]
    simp [hmem]

end NetworkConfig

namespace Key

/-! ## Negotiation -/

/-- The type is the first enabled one, in the order of preference, that is advertised. -/
def Preferred (scan : ScanResult) (config : NetworkConfig) (s : Security) : Prop :=
  ∃ before after, config.options = before ++ ⟨s, true⟩ :: after ∧ s ∈ scan.security ∧
    ∀ option ∈ before, option.enabled = true → option.security ∉ scan.security

variable {scan : ScanResult} {config? : Option NetworkConfig} {key : Key} {f : Fault}

/-- **Negotiation finds the preferred type.** -/
theorem negotiate_eq_some_iff {config : NetworkConfig} {s : Security} :
    negotiate scan config = some s ↔ Preferred scan config s := by
  rw [negotiate, NetworkConfig.enabled, List.find?_map, List.find?_filter, Option.map_eq_some_iff]
  constructor
  · rintro ⟨option, hfound, rfl⟩
    obtain ⟨hoption, before, after, hoptions, hbefore⟩ := List.find?_eq_some_iff_append.mp hfound
    have hoption : option.enabled = true ∧ option.security ∈ scan.security := by
      simpa using hoption
    refine ⟨before, after, ?_, hoption.2, fun earlier hearlier => ?_⟩
    · rw [hoptions, ← hoption.1]
    · simpa [imp_iff_not_or] using hbefore earlier hearlier
  · rintro ⟨before, after, hoptions, hadvertised, hbefore⟩
    refine ⟨⟨s, true⟩, List.find?_eq_some_iff_append.mpr ⟨?_, before, after, hoptions, ?_⟩, rfl⟩
    · simpa using hadvertised
    · intro earlier hearlier
      simpa [imp_iff_not_or] using hbefore earlier hearlier

/-- Some type is negotiated just if some enabled one is advertised. -/
theorem negotiate_isSome_iff {config : NetworkConfig} :
    (negotiate scan config).isSome = true ↔
      ∃ s, ⟨s, true⟩ ∈ config.options ∧ s ∈ scan.security := by
  simp only [negotiate, List.find?_isSome, NetworkConfig.mem_enabled, decide_eq_true_eq]

/-- Negotiation heeds the preferences and which types are advertised, and nothing else. -/
theorem negotiate_congr {scan' : ScanResult} {config config' : NetworkConfig}
    (hsecurity : ∀ s, s ∈ scan'.security ↔ s ∈ scan.security)
    (hpreferences : config'.preferences = config.preferences) :
    negotiate scan' config' = negotiate scan config := by
  have hadvertised : (fun s => decide (s ∈ scan'.security)) = fun s => decide (s ∈ scan.security) :=
    funext fun s => decide_eq_decide.mpr (hsecurity s)
  rw [negotiate, negotiate, ← find?_eraseDups, ← find?_eraseDups _ config.enabled, hadvertised]
  exact congrArg (List.find? _) hpreferences

/-! ## Requirements -/

/-- The two sides carry the same SSID, or the configuration, being that of a Passpoint network,
is excused from that. -/
def Recognises (scan : ScanResult) (config : NetworkConfig) : Prop :=
  config.passpoint = true ∨ scan.ssid = config.ssid

/-- What has to be met for a scan result to have a key. -/
inductive Requirement where
  /-- There is a configuration. -/
  | configured
  /-- The scanned BSSID is an address. -/
  | addressed
  /-- The configuration is for the scanned SSID. -/
  | recognised
  /-- Some enabled option of the configuration is advertised. -/
  | secured

namespace Requirement

/-- The requirements in the order in which they are looked at. -/
def all : List Requirement := [configured, addressed, recognised, secured]

/-- The requirement is met. -/
def Met (scan : ScanResult) (config? : Option NetworkConfig) : Requirement → Prop
  | configured => ∃ config, config? = some config
  | addressed => ∃ bssid, MacAddress.parse scan.bssid = .ok bssid
  | recognised => ∃ config, config? = some config ∧ Recognises scan config
  | secured => ∃ config, config? = some config ∧
      ∃ s, ⟨s, true⟩ ∈ config.options ∧ s ∈ scan.security

/-- The requirement is the first one that is not met. -/
def FirstUnmet (scan : ScanResult) (config? : Option NetworkConfig) (r : Requirement) : Prop :=
  ∃ before after, all = before ++ r :: after ∧
    (∀ earlier ∈ before, earlier.Met scan config?) ∧ ¬ r.Met scan config?

/-- The fault is the one that goes with the requirement. -/
def Reports (scan : ScanResult) (config? : Option NetworkConfig) : Requirement → Fault → Prop
  | configured, f => f = .missingConfig
  | addressed, f => ∃ reason, MacAddress.parse scan.bssid = .error reason ∧
      f = .invalidBssid scan.bssid reason
  | recognised, f => ∃ config, config? = some config ∧
      f = .identityMismatch scan.ssid config.ssid
  | secured, f => ∃ config, config? = some config ∧
      f = .noCompatibleSecurity scan.security config.enabled

open Classical in
theorem FirstUnmet.find?_eq {r : Requirement} (h : r.FirstUnmet scan config?) :
    all.find? (fun r => decide (¬ r.Met scan config?)) = some r := by
  obtain ⟨before, after, hall, hbefore, hr⟩ := h
  refine List.find?_eq_some_iff_append.mpr ⟨decide_eq_true hr, before, after, hall, ?_⟩
  intro earlier hearlier
  simpa using hbefore earlier hearlier

/-- At most one requirement is the first one that is not met. -/
theorem FirstUnmet.unique {r r' : Requirement} (h : r.FirstUnmet scan config?)
    (h' : r'.FirstUnmet scan config?) : r = r' :=
  Option.some.inj (h.find?_eq.symm.trans h'.find?_eq)

/-- One fault at most goes with a requirement. -/
theorem Reports.unique {r : Requirement} {f' : Fault} (h : r.Reports scan config? f)
    (h' : r.Reports scan config? f') : f = f' := by
  cases r with
  | configured => exact h.trans h'.symm
  | addressed =>
    obtain ⟨reason, hreason, rfl⟩ := h
    obtain ⟨reason', hreason', rfl⟩ := h'
    rw [Except.error.inj (hreason.symm.trans hreason')]
  | recognised =>
    obtain ⟨config, rfl, rfl⟩ := h
    obtain ⟨config', hconfig, rfl⟩ := h'
    rw [Option.some.inj hconfig]
  | secured =>
    obtain ⟨config, rfl, rfl⟩ := h
    obtain ⟨config', hconfig, rfl⟩ := h'
    rw [Option.some.inj hconfig]

end Requirement

/-! ## Resolution -/

section some

variable {config : NetworkConfig} {bssid : MacAddress}

theorem not_recognises_iff :
    ¬ Recognises scan config ↔ (!config.passpoint) = true ∧ scan.ssid ≠ config.ssid := by
  simp [Recognises]

theorem resolve_of_not_recognises (hparse : MacAddress.parse scan.bssid = .ok bssid)
    (h : ¬ Recognises scan config) :
    resolve scan (some config) = .error (.identityMismatch scan.ssid config.ssid) := by
  simp only [resolve, hparse]
  exact if_pos (not_recognises_iff.mp h)

theorem resolve_of_recognises (hparse : MacAddress.parse scan.bssid = .ok bssid)
    (h : Recognises scan config) :
    resolve scan (some config) =
      match negotiate scan config with
      | none => .error (.noCompatibleSecurity scan.security config.enabled)
      | some s => .ok { network := ⟨scan.ssid, s⟩, bssid, id := config.id, security := s } := by
  simp only [resolve, hparse]
  exact if_neg fun hnot => not_recognises_iff.mpr hnot h

/-- **What is found**: the parts of the key. -/
theorem resolve_some_eq_ok_iff :
    resolve scan (some config) = .ok key ↔ ∃ bssid s, MacAddress.parse scan.bssid = .ok bssid ∧
      Recognises scan config ∧ negotiate scan config = some s ∧
      key = { network := ⟨scan.ssid, s⟩, bssid, id := config.id, security := s } := by
  cases hparse : MacAddress.parse scan.bssid with
  | error reason => simp [resolve, hparse]
  | ok bssid =>
    by_cases h : Recognises scan config
    · rw [resolve_of_recognises hparse h]
      cases negotiate scan config <;> simp [h, eq_comm]
    · rw [resolve_of_not_recognises hparse h]
      simp [h]

end some

/-- **What is reported**: the fault of the first requirement that is not met. -/
theorem exists_firstUnmet (h : resolve scan config? = .error f) :
    ∃ r : Requirement, r.FirstUnmet scan config? ∧ r.Reports scan config? f := by
  cases config? with
  | none =>
    refine ⟨.configured, ⟨[], _, rfl, by simp, by simp [Requirement.Met]⟩, ?_⟩
    exact (Except.error.inj h).symm
  | some config =>
    have hconfigured : Requirement.configured.Met scan (some config) := ⟨config, rfl⟩
    cases hparse : MacAddress.parse scan.bssid with
    | error reason =>
      simp only [resolve, hparse, Except.error.injEq] at h
      refine ⟨.addressed, ⟨[.configured], _, rfl, by simpa using hconfigured, ?_⟩, ?_⟩
      · simp [Requirement.Met, hparse]
      · exact ⟨reason, hparse, h.symm⟩
    | ok bssid =>
      have haddressed : Requirement.addressed.Met scan (some config) := ⟨bssid, hparse⟩
      by_cases hrecognises : Recognises scan config
      · have hrecognised : Requirement.recognised.Met scan (some config) :=
          ⟨config, rfl, hrecognises⟩
        rw [resolve_of_recognises hparse hrecognises] at h
        cases hnegotiate : negotiate scan config with
        | some s => simp [hnegotiate] at h
        | none =>
          simp only [hnegotiate, Except.error.injEq] at h
          refine ⟨.secured, ⟨[.configured, .addressed, .recognised], _, rfl,
            by simp [hconfigured, haddressed, hrecognised], ?_⟩, config, rfl, h.symm⟩
          rintro ⟨config', hconfig, hshared⟩
          obtain rfl := Option.some.inj hconfig
          rw [← negotiate_isSome_iff, hnegotiate] at hshared
          simp at hshared
      · rw [resolve_of_not_recognises hparse hrecognises, Except.error.injEq] at h
        refine ⟨.recognised, ⟨[.configured, .addressed], _, rfl,
          by simp [hconfigured, haddressed], ?_⟩, config, rfl, h.symm⟩
        rintro ⟨config', hconfig, hrecognises'⟩
        exact hrecognises (Option.some.inj hconfig ▸ hrecognises')

/-- **One radio has one key**, however it is reported and however its configuration is put. -/
theorem resolve_of_sameRadio {scan' : ScanResult} {config config' : NetworkConfig}
    (hscan : scan.SameRadio scan') (hconfig : config.SamePreferences config') :
    resolve scan (some config) = .ok key ↔ resolve scan' (some config') = .ok key := by
  have hrecognises : Recognises scan' config' ↔ Recognises scan config := by
    rw [Recognises, Recognises, hscan.ssid, hconfig.ssid, hconfig.passpoint]
  simp only [resolve_some_eq_ok_iff, hscan.bssid, hrecognises, hscan.ssid, hconfig.id,
    negotiate_congr hscan.security hconfig.preferences]

/-! ## All together -/

/-- What resolving a key comes to. -/
structure Settled (scan : ScanResult) (config? : Option NetworkConfig) : Prop where
  /-- There is a key just if all requirements are met. -/
  found : (∃ key, resolve scan config? = .ok key) ↔ ∀ r : Requirement, r.Met scan config?
  /-- If there is none, the fault is that of the first requirement that is not met. -/
  fault : ∀ f, resolve scan config? = .error f ↔
    ∃ r : Requirement, r.FirstUnmet scan config? ∧ r.Reports scan config? f
  /-- The key says what was scanned, under which configuration, and twice which type is
  preferred. -/
  parts : ∀ key, resolve scan config? = .ok key → ∃ config bssid s, config? = some config ∧
    MacAddress.parse scan.bssid = .ok bssid ∧ Preferred scan config s ∧
    key = { network := ⟨scan.ssid, s⟩, bssid, id := config.id, security := s }
  /-- It is the key of every scan result of that radio under every configuration of the network
  with the same preferences. -/
  same : ∀ config scan' config', config? = some config → scan.SameRadio scan' →
    config.SamePreferences config' →
    ∀ key, resolve scan config? = .ok key ↔ resolve scan' (some config') = .ok key
  /-- The BSSID may be spelled in any case. -/
  anyCase : ∀ text : String, text.toLower = scan.bssid.toLower →
    ∀ key, resolve scan config? = .ok key ↔ resolve { scan with bssid := text } config? = .ok key
  /-- An option that is off, or that stands before already, may be put in anywhere. -/
  anyOption : ∀ config before option after, config? = some config →
    config.options = before ++ after → option.enabled = false ∨ option ∈ before →
    ∀ key, resolve scan config? = .ok key ↔
      resolve scan (some { config with options := before ++ option :: after }) = .ok key

theorem met_of_resolve (h : resolve scan config? = .ok key) (r : Requirement) :
    r.Met scan config? := by
  cases config? with
  | none => exact absurd h (by simp)
  | some config =>
    obtain ⟨bssid, s, hparse, hrecognises, hnegotiate, -⟩ := resolve_some_eq_ok_iff.mp h
    cases r with
    | configured => exact ⟨config, rfl⟩
    | addressed => exact ⟨bssid, hparse⟩
    | recognised => exact ⟨config, rfl, hrecognises⟩
    | secured => exact ⟨config, rfl, negotiate_isSome_iff.mp (by rw [hnegotiate]; rfl)⟩

/-- **Resolving a key is exact and canonical.** -/
theorem resolve_settled (scan : ScanResult) (config? : Option NetworkConfig) :
    Settled scan config? where
  found := by
    constructor
    · rintro ⟨key, h⟩
      exact met_of_resolve h
    · intro hmet
      cases h : resolve scan config? with
      | ok key => exact ⟨key, rfl⟩
      | error f =>
        obtain ⟨r, ⟨-, -, -, -, hr⟩, -⟩ := exists_firstUnmet h
        exact absurd (hmet r) hr
  fault f := by
    constructor
    · exact exists_firstUnmet
    · rintro ⟨r, hfirst, hreports⟩
      cases h : resolve scan config? with
      | ok key =>
        obtain ⟨-, -, -, -, hr⟩ := hfirst
        exact absurd (met_of_resolve h r) hr
      | error g =>
        obtain ⟨r', hfirst', hreports'⟩ := exists_firstUnmet h
        obtain rfl := hfirst.unique hfirst'
        rw [hreports.unique hreports']
  parts key h := by
    obtain ⟨config, rfl⟩ := met_of_resolve h .configured
    obtain ⟨bssid, s, hparse, -, hnegotiate, hkey⟩ := resolve_some_eq_ok_iff.mp h
    exact ⟨config, bssid, s, rfl, hparse, negotiate_eq_some_iff.mp hnegotiate, hkey⟩
  same config scan' config' hconfig? hscan hconfig key := by
    rw [hconfig?, resolve_of_sameRadio hscan hconfig]
  anyCase text htext key := by
    cases config? with
    | none => simp
    | some config =>
      exact resolve_of_sameRadio (ScanResult.sameRadio_of_toLower_eq htext) (.refl config)
  anyOption config before option after hconfig? hoptions hoption key := by
    rw [hconfig?]
    refine resolve_of_sameRadio (.refl scan) ⟨rfl, rfl, rfl, ?_⟩
    rw [NetworkConfig.preferences_insert hoption, ← hoptions]

/-- Two scans of one radio, the one in capitals and with a type twice, and two configurations, the
one with an option that is off and another that comes again. -/
theorem resolve_settled_two_scans :
    let scan : ScanResult :=
      { Scenario.scan ⟨"home"⟩ 12 (-50) with
        bssid := "02:00:00:00:00:0C", security := [.psk, .sae, .psk] }
    let scan' : ScanResult :=
      { Scenario.scan ⟨"home"⟩ 12 (-70) with security := [.sae, .psk], frequency := 2437 }
    let config : NetworkConfig :=
      { Scenario.config ⟨3⟩ ⟨"home"⟩ with
        options := [⟨.psk, false⟩, ⟨.sae, true⟩, ⟨.psk, true⟩, ⟨.sae, true⟩] }
    let config' : NetworkConfig :=
      { Scenario.config ⟨3⟩ ⟨"home"⟩ with
        options := [⟨.sae, true⟩, ⟨.psk, true⟩], trusted := false }
    let key : Key := .ofIdentity ⟨⟨"home"⟩, .sae⟩ (Scenario.radio 12) ⟨3⟩
    scan.SameRadio scan' ∧ config.SamePreferences config' ∧
      resolve scan (some config) = .ok key ∧ resolve scan' (some config') = .ok key := by
  intro scan scan' config config' key
  have hparse : MacAddress.parse scan.bssid = .ok (Scenario.radio 12) := by decide
  have hparse' : MacAddress.parse scan'.bssid = .ok (Scenario.radio 12) :=
    (Scenario.radio 12).parse_toString
  have hscan : scan.SameRadio scan' :=
    ⟨rfl, fun m => by rw [hparse, hparse'], fun s => by cases s <;> decide⟩
  have hconfig : config.SamePreferences config' := ⟨rfl, rfl, rfl, by decide⟩
  have hresolve : resolve scan (some config) = .ok key := by decide
  have hsame := (resolve_settled scan (some config)).same config scan' config' rfl hscan hconfig
  exact ⟨hscan, hconfig, hresolve, (hsame key).mp hresolve⟩

end Key

end NetworkSelection
