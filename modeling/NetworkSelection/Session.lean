import NetworkSelection.Pool.Command
import NetworkSelection.ScoreCard.History

/-!
# Sessions

Selection is never the work of one pool alone.  Pools come and go, several of them
share one history, and connection events are recorded while they are at work.  A
session is all of this together: the pools that were opened, in order, and what they
share.  It proceeds by single actions, and since each is carried out as a whole, a
list of actions is an interleaving of the work of all pools and of the recording of
events.

Records may be handed from one pool to another.  Whatever the card of the pool that
made them, their handles lead into the one history of the session.
-/

namespace NetworkSelection

/-- Which score card a pool consults. -/
inductive CardKind where
  /-- No history is kept. -/
  | blank
  /-- The same estimate everywhere, and no history behind it. -/
  | fixed (availability : UInt8)
  /-- The history of the session. -/
  | history
  deriving DecidableEq

/-- The score card of a kind. -/
def CardKind.card : CardKind → ScoreCard History Handle
  | .blank => .blank
  | .fixed availability => .constant (.fixed availability)
  | .history => History.card

/-- The pools that were opened, and what they share. -/
structure Session where
  pools : List (Pool History Handle) := []
  shared : Shared History := { history := {} }

namespace Session

/-- One action in a session. -/
inductive Action where
  /-- Opens a pool with records that exist already. -/
  | openPool (card : CardKind) (config : PoolConfig) (seeds : List (Record Handle))
  /-- Has a pool carry out a command; pools count from zero. -/
  | command (pool : Nat) (command : Command Handle)
  /-- Records a connection event so many times. -/
  | observe (ap : AccessPoint) (source : SignalSource) (sample : SignalSample) (times : Nat)
  /-- Asks the history for an access point, which begins its history. -/
  | touch (ap : AccessPoint)
  /-- Asks the history for an access point and notes what is given. -/
  | annotate (ap : AccessPoint) (security : Option Security) (id : Option NetworkId)
  /-- Makes a new record of a candidate. -/
  | make (candidate : Candidate Handle)

/-- What an action brings. -/
inductive Result where
  | done
  /-- The number of the pool that was opened. -/
  | opened (pool : Nat)
  /-- The answer of the pool. -/
  | answered (answer : Except Fault Answer)
  /-- There is no pool of that number. -/
  | noPool
  /-- The record that was made. -/
  | made (record : Record Handle)

/-- What an action brings, the session after it, and what was reported meanwhile. -/
structure Turn where
  result : Result
  session : Session
  events : List LogEvent := []

/-- The session with another history. -/
def withHistory (history : History) (session : Session) : Session :=
  { session with shared := { session.shared with history } }

/-- Records a connection event so many times, one after another; what was reported
before comes first. -/
def observe (ap : AccessPoint) (source : SignalSource) (sample : SignalSample) :
    Nat → History × List LogEvent → History × List LogEvent
  | 0, state => state
  | times + 1, (history, before) =>
    let (history, events) := history.observe ap source sample
    observe ap source sample times (history, before ++ events)

/-- Carries out one action. -/
def perform (session : Session) : Action → Turn
  | .openPool card config seeds =>
    { result := .opened session.pools.length
      session :=
        { session with pools := session.pools ++ [Pool.ofRecords card.card config seeds] } }
  | .command index command =>
    match session.pools[index]? with
    | none => { result := .noPool, session }
    | some pool =>
      let outcome := pool.apply session.shared command
      { result := .answered outcome.answer
        session := { pools := session.pools.set index outcome.pool, shared := outcome.shared }
        events := outcome.events }
  | .observe ap source sample times =>
    let (history, events) := observe ap source sample times (session.shared.history, [])
    { result := .done, session := session.withHistory history, events }
  | .touch ap =>
    let (history, events) := session.shared.history.touch ap
    { result := .done, session := session.withHistory history, events }
  | .annotate ap security id =>
    let (history, events) := session.shared.history.touch ap
    let history := history.modify ap fun known =>
      { known with security := security.or known.security, id := id.or known.id }
    { result := .done, session := session.withHistory history, events }
  | .make candidate =>
    let serial := session.shared.nextSerial
    { result := .made { serial, candidate }
      session := { session with shared := { session.shared with nextSerial := serial + 1 } } }

/-- Carries out actions one after another, and gives the session they lead to. -/
def run (session : Session) (actions : List Action) : Session :=
  actions.foldl (fun s action => (s.perform action).session) session

end Session

end NetworkSelection
