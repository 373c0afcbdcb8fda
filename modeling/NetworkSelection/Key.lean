import NetworkSelection.MacAddress
import NetworkSelection.Network.Names
import NetworkSelection.Security

/-!
# Candidate keys

Two observations of one radio compete for one place when they are made under the
same configuration and security type.  A key says which place: the network as it
is recognised (SSID and security type), the BSSID, the network id, and the
security type that was negotiated.  Keys are ordered by these, in this order, and
so are the candidates of a pool.
-/

namespace NetworkSelection

/-- How a network is recognised: by its SSID and the security type it is reached with. -/
structure NetworkIdentity where
  ssid : Ssid
  security : Security
  deriving DecidableEq

instance : ToString NetworkIdentity where
  toString n := toString n.ssid ++ "/" ++ toString n.security

/-- The place that a candidate competes for. -/
structure Key where
  network : NetworkIdentity
  bssid : MacAddress
  id : NetworkId
  security : Security
  deriving DecidableEq

namespace Key

/-- The key whose security type is the one its network is recognised by. -/
def ofIdentity (network : NetworkIdentity) (bssid : MacAddress) (id : NetworkId) : Key :=
  { network, bssid, id, security := network.security }

/-- The order of keys: SSID, recognised security type, BSSID, network id, negotiated
security type. -/
def order : Key → Key → Ordering :=
  compareLex (compareOn (·.network.ssid)) <|
  compareLex (compareOn (·.network.security)) <|
  compareLex (compareOn (·.bssid)) <|
  compareLex (compareOn (·.id)) (compareOn (·.security))

instance : Ord Key := ⟨order⟩

instance : Std.TransOrd Key :=
  inferInstanceAs (Std.TransCmp (compareLex _ (compareLex _ (compareLex _ (compareLex _ _)))))

instance : Std.LawfulEqOrd Key where
  eq_of_compare {k l} h := by
    have h : order k l = .eq := h
    simp only [order, compareLex_eq_eq, compareOn, Std.LawfulEqCmp.compare_eq_iff_eq] at h
    obtain ⟨⟨s, t⟩, b, i, u⟩ := k
    obtain ⟨⟨s', t'⟩, b', i', u'⟩ := l
    simp_all

instance : ToString Key where
  toString k :=
    toString k.network ++ "@" ++ toString k.bssid ++ "#" ++ toString k.id ++ ":" ++
      toString k.security

/-- The keys in order, each of them once, and how many repetitions were left out. -/
def sorted (keys : List Key) : List Key × Nat :=
  let distinct := (keys.mergeSort fun k l => (compare k l).isLE).eraseReps
  (distinct, keys.length - distinct.length)

end Key

end NetworkSelection
