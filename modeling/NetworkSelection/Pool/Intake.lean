import NetworkSelection.Candidate.Description
import NetworkSelection.Key.Resolution
import NetworkSelection.Pool.Basic

/-!
# Taking candidates in

A candidate comes in under a key, either given or resolved from a scan result.
If its place is held by a candidate of a higher-priority nominator nothing
changes.  Otherwise the holder, if any, makes room, the score card is asked for
the access point and told about the nomination, and the new candidate takes the
place.

Two things outlive the pool and are therefore passed along: the history behind
the score card, and the supply of serial numbers.  Every record that is made takes
the next number, so a number that was once given out is never given out again.
-/

namespace NetworkSelection

/-- What pools share: the history behind their score cards, and the supply of serial
numbers for records. -/
structure Shared (σ : Type) where
  history : σ
  nextSerial : Nat := 0

/-- The answer of an operation, the pool after it, what the pools share after it, and
what was reported meanwhile. -/
structure Outcome (σ η α : Type) where
  answer : α
  pool : Pool σ η
  shared : Shared σ
  events : List LogEvent := []

namespace Pool

variable {σ η : Type}

/-- The key of a scan result, its failure being a fault. -/
def resolve (scan : ScanResult) (config? : Option NetworkConfig) (pool : Pool σ η) :
    Reply σ η (Except Fault (Option Key)) :=
  match Key.resolve scan config? with
  | .ok key => { answer := .ok (some key), pool }
  | .error f =>
    let reply := pool.fault f none
    { reply with events := .resolutionFailed scan.bssid scan.ssid :: reply.events }

/-- How a candidate with this key and configuration stands to the current connection. -/
def standing (pool : Pool σ η) (key : Key) (config : NetworkConfig) : Candidate.Standing where
  network := config.id = pool.currentNetwork
  bssid := pool.currentBssid = some key.bssid

variable [BssidHandle η σ]

/-- Asks the score card for the access point of a key and, if it keeps history there,
notes the nomination in it. -/
def attach (pool : Pool σ η) (key : Key) (config : NetworkConfig) (history : σ) : Lookup σ η :=
  let found := pool.card.lookup key.accessPoint history
  match found.handle with
  | none => found
  | some handle =>
    { found with
      history := BssidHandle.annotate handle key.security config.id found.history
      events := found.events ++ [.handleAttached key config.id] }

/-- The chance of internet access that a new candidate is given: the estimate behind
its handle, or the default of the pool, cut off at one hundred percent. -/
def availability (pool : Pool σ η) (handle? : Option η) (history : σ) : UInt8 :=
  match handle? with
  | some handle => min (BssidHandle.availability handle history) fullAvailability
  | none => min pool.config.availability fullAvailability

/-- The record that is made for a candidate under a key, with the next serial number. -/
def entrant (key : Key) (config : NetworkConfig) (seen : Observation) (pool : Pool σ η)
    (shared : Shared σ) : Record η :=
  let found := pool.attach key config shared.history
  { serial := shared.nextSerial
    candidate := Candidate.make key config seen found.handle (pool.standing key config)
      (pool.availability found.handle found.history) }

/-- Makes a candidate and puts it in its place, which has to be free. -/
def install (key : Key) (config : NetworkConfig) (seen : Observation) (pool : Pool σ η)
    (shared : Shared σ) : Outcome σ η Bool :=
  let found := pool.attach key config shared.history
  let record := pool.entrant key config seen shared
  { answer := true
    pool := pool.insert record
    shared := { history := found.history, nextSerial := shared.nextSerial + 1 }
    events := found.events ++ [.added record.candidate.describe] }

/-- Takes a candidate in under a key, and says whether it was taken in.  It is not if
its place is held by a candidate whose nominator has a strictly higher priority; a
holder of equal priority makes room. -/
def add (key : Key) (config : NetworkConfig) (seen : Observation) (pool : Pool σ η)
    (shared : Shared σ) : Outcome σ η Bool :=
  match pool.get? key with
  | none => pool.install key config seen shared
  | some held =>
    if seen.nominator.outrankedBy held.candidate.nominator then
      { answer := false, pool, shared
        events := [.nominatorRejected key seen.nominator held.candidate.nominator] }
    else
      let outcome := (pool.drop held).install key config seen shared
      { outcome with events := .replacing key seen.nominator :: outcome.events }

/-- What is said about a scan result beside what the scan itself reports. -/
structure Nomination where
  nominator : Nominator := .saved
  weight : Float := 0
  metered : Bool := false
  mbps : UInt32 := 0
  deriving DecidableEq

/-- What is observed when a scan result is nominated. -/
def Nomination.observation (scan : ScanResult) (nomination : Nomination) : Observation :=
  { Observation.ofScan scan nomination.nominator with
    weight := nomination.weight
    metered := nomination.metered
    mbps := nomination.mbps }

/-- Takes a candidate in straight from a scan result, and says whether it was taken
in: it is not if the scan result has no key, which is a fault, or if its place is held
by a higher-priority nominator. -/
def addScan (scan : ScanResult) (config? : Option NetworkConfig) (nomination : Nomination)
    (pool : Pool σ η) (shared : Shared σ) : Outcome σ η (Except Fault Bool) :=
  match Key.resolve scan config?, config? with
  | .ok key, some config =>
    let outcome := pool.add key config (nomination.observation scan) shared
    { outcome with answer := .ok outcome.answer }
  | _, _ =>
    let reply := pool.resolve scan config?
    { answer := reply.answer.map fun _ => false, pool := reply.pool, shared
      events := reply.events }

end Pool

end NetworkSelection
