import NetworkSelection.MultiLink
import NetworkSelection.Pool.Intake

/-!
# Filling in the throughput of multi-link access points

Once all links are known, every group of links is given its joint throughput.  A
candidate never changes, so each link's record is replaced by a new one, in its
place and at its position in the group; old records that callers still keep are no
longer the ones in place.
-/

namespace NetworkSelection

namespace Pool

variable {σ η : Type}

/-- The links of a group with their joint throughput filled in, as new records with
consecutive serial numbers. -/
def renewed (mbps : UInt32) : List (Record η) → Nat → List (Record η)
  | [], _ => []
  | r :: rest, serial =>
    { serial, candidate := r.candidate.withMultiLinkMbps mbps } :: renewed mbps rest (serial + 1)

/-- Every group with the throughput that the estimator gives it, serial numbers being
given out from group to group. -/
def renewedGroups (estimate : List (Candidate η) → UInt32) :
    List (MacAddress × List (Record η)) → Nat → List (MacAddress × List (Record η))
  | [], _ => []
  | (mld, links) :: rest, serial =>
    (mld, renewed (estimate (links.map (·.candidate))) links serial) ::
      renewedGroups estimate rest (serial + links.length)

/-- Gives every group of links the throughput that the estimator finds for it, and
says how many records were replaced. -/
def updateMultiLink (estimate : List (Candidate η) → UInt32) (pool : Pool σ η)
    (shared : Shared σ) : Outcome σ η Nat :=
  let groups := renewedGroups estimate pool.groups shared.nextSerial
  let links := groups.flatMap (·.2)
  { answer := links.length
    pool :=
      { pool with
        byKey := pool.byKey.insertMany (links.map fun r => (r.key, r))
        byMld := pool.byMld.insertMany groups }
    shared := { shared with nextSerial := shared.nextSerial + links.length }
    events := pool.groups.map fun (mld, links) =>
      .multiLinkThroughput mld links.length (estimate (links.map (·.candidate))) }

end Pool

end NetworkSelection
