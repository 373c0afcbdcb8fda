import NetworkSelection.Pool.Throughput

/-!
# Commands to a pool

What callers may ask of a pool, as data, and what a pool answers.

An estimator is given with each request to renew the links, and it sees one group of
links at a time.  No two groups of a pool are equal, since they hold different records;
so a function of the group covers every estimator, also one whose answers change from
call to call.
-/

namespace NetworkSelection

/-- One request to a pool. -/
inductive Command (η : Type) where
  | setCurrent (id : NetworkId) (bssid : Option String)
  | setPicky (picky : Bool)
  | resolve (scan : ScanResult) (config : Option NetworkConfig)
  | addScan (scan : ScanResult) (config : Option NetworkConfig) (nomination : Pool.Nomination)
  | add (key : Key) (config : NetworkConfig) (seen : Observation)
  | remove (record : Record η)
  | updateMultiLink (estimate : List (Candidate η) → UInt32)
  | clearFaults

/-- What a pool answers to a request that it carried out. -/
inductive Answer where
  | done
  /-- The key that was resolved, if there is one. -/
  | key (resolved : Option Key)
  /-- Whether a candidate was taken in. -/
  | added (taken : Bool)
  /-- Whether a record was there to be removed. -/
  | removed (found : Bool)
  /-- How many records were replaced. -/
  | updated (count : Nat)
  deriving DecidableEq

namespace Pool

variable {σ η : Type}

/-- The outcome of an operation that leaves what the pools share alone. -/
def Reply.outcome {α β : Type} (reply : Reply σ η α) (shared : Shared σ) (f : α → β) :
    Outcome σ η β where
  answer := f reply.answer
  pool := reply.pool
  shared
  events := reply.events

variable [BssidHandle η σ]

/-- Carries out one command. -/
def apply (pool : Pool σ η) (shared : Shared σ) :
    Command η → Outcome σ η (Except Fault Answer)
  | .setCurrent id bssid =>
    (pool.setCurrent id bssid).outcome shared fun a => a.map fun _ => .done
  | .setPicky picky => { answer := .ok .done, pool := pool.setPicky picky, shared }
  | .resolve scan config => (pool.resolve scan config).outcome shared fun a => a.map .key
  | .addScan scan config nomination =>
    let outcome := pool.addScan scan config nomination shared
    { outcome with answer := outcome.answer.map .added }
  | .add key config seen =>
    let outcome := pool.add key config seen shared
    { outcome with answer := .ok (.added outcome.answer) }
  | .remove record =>
    let (found, pool) := pool.remove record
    { answer := .ok (.removed found), pool, shared }
  | .updateMultiLink estimate =>
    let outcome := pool.updateMultiLink estimate shared
    { outcome with answer := .ok (.updated outcome.answer) }
  | .clearFaults => { answer := .ok .done, pool := pool.clearFaults, shared }

end Pool

end NetworkSelection
