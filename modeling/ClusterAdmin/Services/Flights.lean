import ClusterAdmin.Services.Access

namespace ClusterAdmin

open Acl

/-- How far a query about a topic has come. -/
inductive QueryStage where
  /-- The topic was looked up in vain. -/
  | due
  /-- The query was sent, and this answer is on its way back. -/
  | sent (answer : Except Failure AclListing)
  | done (outcome : Except Failure Finding)

def QueryStage.isDone : QueryStage → Bool
  | done _ => true
  | due | sent _ => false

/-- The queries of one call, which stores what was found once all of them are done. -/
structure Inquiry where
  cluster : Cluster
  principal : String
  /-- By topic. -/
  queries : Table String QueryStage

namespace Inquiry

def isSettled (q : Inquiry) : Bool := q.queries.values.all QueryStage.isDone

def outcomes (q : Inquiry) : List (String × Except Failure Finding) :=
  q.queries.entries.filterMap fun (topic, stage) =>
    match stage with
    | .done r => some (topic, r)
    | .due | .sent _ => none

/-- The inquiry once the query about a topic has come further. -/
def put (q : Inquiry) (topic : String) (stage : QueryStage) : Inquiry :=
  { q with queries := q.queries.insert topic stage }

end Inquiry

/-- Services and the inquiries of all calls that had to ask brokers, numbered from zero. -/
structure Flights where
  services : Services
  inquiries : List Inquiry

namespace Flights

/-- Looks topics up. If some are not remembered and the credential tells a principal, brokers are to
be asked about them. -/
def call (t : Flights) (c : Cluster) (topics : List String) (credential : Credential) : Flights :=
  let (_, missing, s) := Services.lookUpEach c topics [] [] t.services
  match missing, Principal.ofCredential credential with
  | topic :: more, .user principal =>
    ⟨s, t.inquiries ++ [⟨c, principal, Table.ofList ((topic :: more).map (·, .due))⟩]⟩
  | _, _ => { t with services := s }

/-- Puts an inquiry in its place, and stores what was found if it is settled now. -/
def conclude (t : Flights) (i : Nat) (q : Inquiry) : Flights where
  services := if q.isSettled then (Services.settle q.cluster q.outcomes t.services).2 else t.services
  inquiries := t.inquiries.set i q

/-- Sends a query that is due on the handle of its cluster, which is had at once. -/
def send (t : Flights) (i : Nat) (topic : String) : Flights :=
  match t.inquiries[i]? with
  | none => t
  | some q =>
    match q.queries.find? topic with
    | some .due =>
      match t.services.pool.getHandle q.cluster with
      | (.error f, pool) =>
        { t with services := { t.services with pool } }.conclude i
          (q.put topic (.done (.error (queryFailure topic f))))
      | (.ok h, pool) =>
        let (answer, fleet) := pool.fleet.describeAcls h (AclFilter.forTopic topic)
        { t with services := { t.services with
            pool := { pool with fleet }
            access := t.services.access.countQuery } }.conclude i (q.put topic (.sent answer))
    | _ => t

/-- The answer to a query comes in. -/
def receive (t : Flights) (i : Nat) (topic : String) : Flights :=
  match t.inquiries[i]? with
  | none => t
  | some q =>
    match q.queries.find? topic with
    | some (.sent answer) =>
      match finding topic q.principal answer with
      | .ok e => t.conclude i (q.put topic (.done (.ok e)))
      | .error f =>
        let pool := t.services.pool
        { t with services := { t.services with
            pool := if f.retryable then pool.markDisconnected q.cluster else pool } }.conclude i
          (q.put topic (.done (.error (queryFailure topic f))))
    | _ => t

end Flights

end ClusterAdmin
