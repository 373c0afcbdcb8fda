import Std.Data.ExtTreeMap
import NetworkSelection.Candidate.Basic
import NetworkSelection.Choice
import NetworkSelection.Ledger
import NetworkSelection.Pool.Config

/-!
# The pool of candidates

A pool holds the candidates of one selection pass, at most one for each key.  It
finds them in two ways: by key, and, for the links of a multi-link access point,
by the address of that access point, in the order in which they came.  The two
indices hold the same records:

* the record found under a key has that key;
* the records of a group are links of its access point, and each is the one found
  under its key;
* every link found under a key is in the group of its access point, once;
* no group is empty.

Everything that changes the indices does so through `insert` and `drop`, which
keep this up.

## Removing a record

A caller may keep a record for as long as it likes, while the pool replaces it by
another one with the same key.  Removing is therefore asked for a particular record
and is refused unless this very record is the one in place: the serial numbers are
compared and not the candidates, which may well be equal.
-/

namespace NetworkSelection

/-- The candidates of one selection pass. -/
structure Pool (σ η : Type) where
  card : ScoreCard σ η
  config : PoolConfig
  /-- The record in each place. -/
  byKey : Std.ExtTreeMap Key (Record η) := ∅
  /-- The links of each multi-link access point, in the order in which they came. -/
  byMld : Std.ExtTreeMap MacAddress (List (Record η)) := ∅
  /-- The configuration of the current connection. -/
  currentNetwork : NetworkId := .invalid
  /-- The BSSID of the current connection. -/
  currentBssid : Option MacAddress := none
  ledger : Ledger

namespace Pool

variable {σ η : Type}

/-- The pool without any candidate. -/
def empty (card : ScoreCard σ η) (config : PoolConfig) : Pool σ η where
  card
  config
  ledger := { picky := config.picky }

/-! ## Looking in -/

/-- The record in a place. -/
def get? (pool : Pool σ η) (key : Key) : Option (Record η) :=
  pool.byKey[key]?

/-- How many candidates there are. -/
def size (pool : Pool σ η) : Nat :=
  pool.byKey.size

/-- All records, in the order of their keys. -/
def records (pool : Pool σ η) : List (Record η) :=
  pool.byKey.toList.map (·.2)

/-- The records of each network, by ascending network id, each network's in the
order of their keys. -/
def networks (pool : Pool σ η) : List (NetworkId × List (Record η)) :=
  let grouped := pool.records.foldl
    (fun (groups : Std.ExtTreeMap NetworkId (List (Record η))) r =>
      groups.alter r.key.id fun group => some (group.getD [] ++ [r])) ∅
  grouped.toList

/-- The groups of links, by ascending address of their access points. -/
def groups (pool : Pool σ η) : List (MacAddress × List (Record η)) :=
  pool.byMld.toList

/-- The links of one multi-link access point in the order in which they came;
nothing, if there are none. -/
def group? (pool : Pool σ η) (mld : MacAddress) : Option (List (Record η)) :=
  pool.byMld[mld]?

/-! ## Both indices together -/

/-- The groups with one more link at the end of its group. -/
def joinGroup (groups : Std.ExtTreeMap MacAddress (List (Record η))) (r : Record η) :
    Std.ExtTreeMap MacAddress (List (Record η)) :=
  match r.mld with
  | none => groups
  | some mld => groups.alter mld fun group => some (group.getD [] ++ [r])

/-- A group without the link of that number; no group, if none is left. -/
def withoutLink (serial : Nat) (group : List (Record η)) : Option (List (Record η)) :=
  match group.filter (fun r => r.serial ≠ serial) with
  | [] => none
  | rest => some rest

/-- The groups without that very link. -/
def leaveGroup (groups : Std.ExtTreeMap MacAddress (List (Record η))) (r : Record η) :
    Std.ExtTreeMap MacAddress (List (Record η)) :=
  match r.mld with
  | none => groups
  | some mld => groups.alter mld fun group => group.bind (withoutLink r.serial)

/-- Puts a record in its place, which has to be free. -/
def insert (r : Record η) (pool : Pool σ η) : Pool σ η :=
  { pool with byKey := pool.byKey.insert r.key r, byMld := joinGroup pool.byMld r }

/-- Takes away a record that is in its place. -/
def drop (r : Record η) (pool : Pool σ η) : Pool σ η :=
  { pool with byKey := pool.byKey.erase r.key, byMld := leaveGroup pool.byMld r }

/-- Whether this very record is the one in its place. -/
def holds (pool : Pool σ η) (r : Record η) : Bool :=
  (pool.get? r.key).any fun held => held.serial = r.serial

/-- Takes a record away and says whether it was there; a record that is not in its
place changes nothing. -/
def remove (r : Record η) (pool : Pool σ η) : Bool × Pool σ η :=
  match pool.get? r.key with
  | some held => if held.serial = r.serial then (true, pool.drop held) else (false, pool)
  | none => (false, pool)

/-- Puts a record in its place, whoever holds it. -/
def supplant (r : Record η) (pool : Pool σ η) : Pool σ η :=
  match pool.get? r.key with
  | some held => (pool.drop held).insert r
  | none => pool.insert r

/-- The pool of records that exist already, as they are.  Of several with one key
the last one is kept, whoever nominated it. -/
def ofRecords (card : ScoreCard σ η) (config : PoolConfig) (seeds : List (Record η)) :
    Pool σ η :=
  seeds.foldl (fun pool r => pool.supplant r) (empty card config)

/-! ## Settings and faults -/

/-- Makes the pool picky, or lenient. -/
def setPicky (picky : Bool) (pool : Pool σ η) : Pool σ η :=
  { pool with config := { pool.config with picky }, ledger := { pool.ledger with picky } }

/-- Forgets the faults. -/
def clearFaults (pool : Pool σ η) : Pool σ η :=
  { pool with ledger := pool.ledger.clear }

/-- The answer of an operation that concerns the pool alone. -/
structure Reply (σ η α : Type) where
  answer : α
  pool : Pool σ η
  events : List LogEvent := []

/-- Records a fault.  The caller hears of it from a picky pool and gets the empty
answer from a lenient one. -/
def fault {α : Type} (f : Fault) (empty : α) (pool : Pool σ η) :
    Reply σ η (Except Fault α) :=
  let ledger := pool.ledger.record f
  { answer := ledger.answer f empty
    pool := { pool with ledger }
    events := [.faultRecorded ledger.count ledger.picky f] }

/-- Says what the current connection is.  Candidates that were taken in before keep
the standing they had.  A BSSID that is no address is a fault, and then no BSSID is
current. -/
def setCurrent (id : NetworkId) (bssid? : Option String) (pool : Pool σ η) :
    Reply σ η (Except Fault Unit) :=
  let pool := { pool with currentNetwork := id, currentBssid := none }
  match bssid? with
  | none => { answer := .ok (), pool }
  | some text =>
    match MacAddress.parse text with
    | .ok bssid => { answer := .ok (), pool := { pool with currentBssid := some bssid } }
    | .error reason => pool.fault (.invalidCurrentBssid text reason) ()

/-! ## Choosing -/

/-- The scorer's choice among all candidates, or that there is none. -/
def choose (scorer : Scorer η) (pool : Pool σ η) : Choice × List LogEvent :=
  let candidates := pool.records.map (·.candidate)
  let choice := (scorer.score candidates).getD .none
  let doubts := match choice.key with
    | some key =>
      if choice.isDubious then [.nonPositiveError scorer.name key choice.err] else []
    | none => []
  (choice, .choosing scorer.name candidates.length :: doubts)

end Pool

end NetworkSelection
