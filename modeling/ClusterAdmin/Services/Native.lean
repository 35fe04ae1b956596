import ClusterAdmin.Services
import ClusterAdmin.Topic

namespace ClusterAdmin.Services

/-- Sends one request on a cluster's handle. Failures are put in the context of an operation on a
resource. -/
def onHandle {α : Type} (s : Services) (c : Cluster) (operation resource : String)
    (request : Fleet → Nat → Except Failure α × Fleet) : Except Failure α × Services :=
  match s.pool.getHandle c with
  | (.error f, pool) => (.error (f.inContext operation resource), { s with pool })
  | (.ok h, pool) =>
    match request pool.fleet h with
    | (.ok a, fleet) => (.ok a, { s with pool := { pool with fleet } })
    | (.error f, fleet) =>
      let pool := { pool with fleet }
      (.error (f.inContext operation resource),
        { s with pool := if f.retryable then pool.markDisconnected c else pool })

/-- The topics that metadata shows: those without an error, internal ones only on demand. -/
def visibleTopics (includeInternal : Bool) (m : ClusterMetadata) : List TopicInfo :=
  let shown := m.topics.filter fun t => t.errorCode = 0 ∧ (includeInternal ∨ ¬t.isInternal)
  TopicInfo.sortByName (shown.map TopicInfo.ofMetadata)

def nativeList (s : Services) (c : Cluster) (includeInternal : Bool) :
    Except Failure (List TopicInfo) × Services :=
  match s.onHandle c "list topics" c.clusterId fun f h => f.metadata h none with
  | (.error f, s) => (.error f, s)
  | (.ok m, s) => (.ok (visibleTopics includeInternal m), s)

def topicMissing (name : String) : Failure := Failure.notFound s!"Topic '{name}' not found"

/-- The topic of a name in metadata. An entry without partitions is how brokers speak of a topic
that is not there. -/
def findTopic (name : String) (m : ClusterMetadata) : Except Failure TopicInfo :=
  match m.topics.find? (·.name = name) with
  | none => .error (topicMissing name)
  | some t =>
    if t.partitions.isEmpty then .error (topicMissing name)
    else
      match Failure.ofBroker? t.errorCode none with
      | some f => .error (f.inContext "describe topic" name)
      | none => .ok (TopicInfo.ofMetadata t)

def nativeDescribe (s : Services) (c : Cluster) (name : String) :
    Except Failure TopicInfo × Services :=
  match s.onHandle c "describe topic" name fun f h => f.metadata h (some [name]) with
  | (.error f, s) => (.error f, s)
  | (.ok m, s) => (findTopic name m, s)

/-- Whether describing the topic finds it. Only a failure to find it means that it is not there. -/
def nativeExists (s : Services) (c : Cluster) (name : String) : Except Failure Bool × Services :=
  match s.nativeDescribe c name with
  | (.ok _, s) => (.ok true, s)
  | (.error f, s) => (if f.isNotFound then .ok false else .error f, s)

/-- The first failure among the outcomes. -/
def firstFailure? (outcomes : List TopicOutcome) : Option Failure :=
  outcomes.findSome? fun o => Failure.ofBroker? o.errorCode o.errorMessage

/-- The outcomes of an operation on a topic as one. -/
def conclude (operation name : String) :
    Except Failure (List TopicOutcome) × Services → Except Failure Unit × Services
  | (.error f, s) => (.error f, s)
  | (.ok outcomes, s) =>
    match firstFailure? outcomes with
    | some f => (.error (f.inContext operation name), s)
    | none => (.ok (), s)

def nativeCreate (s : Services) (c : Cluster) (r : TopicRequest) : Except Failure Unit × Services :=
  conclude "create topic" r.name (s.onHandle c "create topic" r.name fun f h =>
    f.createTopics h [r.toNewTopic] r.validateOnly)

def nativeDelete (s : Services) (c : Cluster) (name : String) : Except Failure Unit × Services :=
  conclude "delete topic" name (s.onHandle c "delete topic" name fun f h =>
    f.deleteTopics h [name])

end ClusterAdmin.Services
