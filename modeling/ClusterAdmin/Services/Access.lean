import ClusterAdmin.Services

namespace ClusterAdmin

namespace Acl

/-- An answer, and whether to remember it. -/
structure Finding where
  access : TopicAccess
  cacheable : Bool
  deriving DecidableEq, Repr

/-- How failures say that a cluster keeps no rules or does not show them. -/
def unavailableWordings : List String :=
  ["security disabled", "security features are disabled", "no authorizer",
    "authorizer is not configured", "not authorized", "authorization failed", "not ready"]

/-- Whether a failed request means that rules cannot be read at all. -/
def saysUnavailable (f : Failure) : Bool :=
  let text := (Text.asciiLower f.message).toList.map fun c => if c = '_' ∨ c = '-' then ' ' else c
  unavailableWordings.any fun w => Text.holds w.toList text

/-- What a broker's answer says about a principal and a topic. -/
def finding (topic principal : String) : Except Failure AclListing → Except Failure Finding
  | .error f =>
    if saysUnavailable f then .ok ⟨TopicAccess.unavailable f.message, false⟩ else .error f
  | .ok l =>
    match Failure.ofBroker? l.errorCode l.errorMessage with
    | some f => .ok ⟨TopicAccess.unavailable f.message, false⟩
    | none => .ok ⟨TopicAccess.ofOperations (evaluate topic principal l.resources), true⟩

def queryFailure (topic : String) (f : Failure) : Failure := f.inContext "describe ACLs" topic

end Acl

namespace Services

open Acl

/-- Asks the brokers about one topic. -/
def query (s : Services) (c : Cluster) (principal topic : String) :
    Except Failure Finding × Services :=
  match s.pool.getHandle c with
  | (.error f, pool) => (.error (queryFailure topic f), { s with pool })
  | (.ok h, pool) =>
    let (answer, fleet) := pool.fleet.describeAcls h (AclFilter.forTopic topic)
    let pool := { pool with fleet }
    let access := s.access.countQuery
    match finding topic principal answer with
    | .ok e => (.ok e, { s with pool, access })
    | .error f =>
      (.error (queryFailure topic f),
        { s with pool := if f.retryable then pool.markDisconnected c else pool, access })

/-- Looks a topic up in memory. -/
def lookUp (s : Services) (k : TopicKey) : Option TopicAccess × Services :=
  let (a, access) := s.access.lookup s.now k
  (a, { s with access })

/-- Remembers a finding that may be. -/
def remember (s : Services) (k : TopicKey) (e : Finding) : Services :=
  if e.cacheable then { s with access := s.access.store s.now k e.access } else s

/-- What a credential may do to a topic. -/
def topicAccess (s : Services) (c : Cluster) (topic : String) (credential : Credential) :
    Except Failure TopicAccess × Services :=
  match s.lookUp ⟨c.key, topic⟩ with
  | (some a, s) => (.ok a, s)
  | (none, s) =>
    match Principal.ofCredential credential with
    | .underivable why => (.ok (TopicAccess.unavailable why), s)
    | .user principal =>
      match s.query c principal topic with
      | (.ok e, s) => (.ok e.access, s.remember ⟨c.key, topic⟩ e)
      | (.error f, s) => (.error f, s)

/-- Looks topics up in memory, each once: the answers at hand, and the topics without one. -/
def lookUpEach (c : Cluster) :
    List String → List (String × TopicAccess) → List String → Services →
      List (String × TopicAccess) × List String × Services
  | [], found, missing, s => (found, missing, s)
  | t :: ts, found, missing, s =>
    if (found.map (·.1)).contains t || missing.contains t then lookUpEach c ts found missing s
    else
      match s.lookUp ⟨c.key, t⟩ with
      | (some a, s) => lookUpEach c ts (found ++ [(t, a)]) missing s
      | (none, s) => lookUpEach c ts found (missing ++ [t]) s

/-- Remembers what was found. The answers, or the first failure. -/
def settle (c : Cluster) :
    List (String × Except Failure Finding) → Services →
      Except Failure (List (String × TopicAccess)) × Services
  | [], s => (.ok [], s)
  | (t, .ok e) :: rest, s =>
    match settle c rest (s.remember ⟨c.key, t⟩ e) with
    | (.ok found, s) => (.ok ((t, e.access) :: found), s)
    | (.error f, s) => (.error f, s)
  | (_, .error f) :: rest, s => (.error f, (settle c rest s).2)

/-- Asks the brokers about topics one after another. -/
def queryEach (c : Cluster) (principal : String) :
    List String → Services → List (String × Except Failure Finding) × Services
  | [], s => ([], s)
  | t :: ts, s =>
    let (r, s) := s.query c principal t
    let (rs, s) := queryEach c principal ts s
    ((t, r) :: rs, s)

/-- What a credential may do to several topics. Those not remembered are asked about, also after one
has failed; the first failure is the answer then. -/
def topicAccesses (s : Services) (c : Cluster) (topics : List String) (credential : Credential) :
    Except Failure (List (String × TopicAccess)) × Services :=
  let (found, missing, s) := lookUpEach c topics [] [] s
  if missing.isEmpty then (.ok found, s)
  else
    match Principal.ofCredential credential with
    | .underivable why => (.ok (found ++ missing.map (·, TopicAccess.unavailable why)), s)
    | .user principal =>
      let (answers, s) := queryEach c principal missing s
      match settle c answers s with
      | (.ok more, s) => (.ok (found ++ more), s)
      | (.error f, s) => (.error f, s)

end Services

end ClusterAdmin
