import ClusterAdmin.Backend
import ClusterAdmin.Services
import ClusterAdmin.Topic

namespace ClusterAdmin.Services

open Rest

/-- The name and the password of a login that has both. -/
def nameAndPassword? : Login → Option (String × String)
  | .basic l => some (l.username, l.password)
  | .apiKey l => some (l.key, l.secret)
  | .scram l => some (l.username, l.password)
  | .none | .mtls _ | .oauth _ | .kerberos _ => none

/-- The authorization for requests about a cluster: the session's token for a hosted one, name and
password of the stored login for a direct one, and nothing for a local one. -/
def authorization (s : Services) (c : Cluster) : Except Failure (Option String) :=
  match c.connectionType with
  | .cloudManaged => (s.session.token c).map fun t => some (bearer t)
  | .selfHostedLocal => .ok none
  | .selfHostedDirect =>
    (s.pool.store.find c.connectionId).map fun record =>
      (record.bind fun r => nameAndPassword? r.credential.resolved).map basic

/-- Sends a request about a cluster. -/
def sendTo (s : Services) (c : Cluster) (m : Method) (url : String) (body : Option Json) :
    Except Failure String × Services :=
  match s.authorization c with
  | .error f => (.error f, s)
  | .ok authorization =>
    match HttpRequest.make m url authorization body with
    | .error f => (.error f, s)
    | .ok request =>
      let (reply, web) := s.web.exchange request
      (bodyOf request.url reply, { s with web })

/-- Asks for something about a cluster. -/
def fetch {α : Type} (s : Services) (c : Cluster) (url : String) (d : Json.Decoder α) :
    Except Failure α × Services :=
  match s.sendTo c .get url none with
  | (.error f, s) => (.error f, s)
  | (.ok body, s) => (decode d body, s)

/-- A cluster's endpoint without slashes at its end. -/
def baseUrl (c : Cluster) : Except Failure String :=
  let base := (c.restUri.getD "").toList.reverse.dropWhile (· = '/')
  if base.isEmpty then
    .error (Failure.invalid s!"Cluster {c.key.text} has no REST endpoint configured")
  else .ok (String.ofList base.reverse)

/-- The identifier by which the proxy knows a cluster, which is asked for once. -/
def proxyId (s : Services) (c : Cluster) (base : String) (flavor : Flavor) :
    Except Failure String × Services :=
  match s.proxyIds.find? c.clusterId with
  | some id => (.ok id, s)
  | none =>
    match s.fetch c (base ++ flavor.pathPrefix ++ "/clusters") (listOf clusterId) with
    | (.error f, s) => (.error f, s)
    | (.ok [], s) => (.error (Failure.notFound s!"REST proxy at {base} reports no clusters"), s)
    | (.ok (id :: _), s) => (.ok id, { s with proxyIds := s.proxyIds.insert c.clusterId id })

/-- Where a proxy keeps what belongs to a cluster. -/
def clusterUrl (s : Services) (c : Cluster) (flavor : Flavor) : Except Failure String × Services :=
  match baseUrl c with
  | .error f => (.error f, s)
  | .ok base =>
    let under (id : String) : String := s!"{base}{flavor.pathPrefix}/clusters/{id}"
    if flavor.discoversClusterId then
      match s.proxyId c base flavor with
      | (.error f, s) => (.error f, s)
      | (.ok id, s) => (.ok (under id), s)
    else (.ok (under c.clusterId), s)

/-- Puts the failure of a call in the context of an operation. -/
def explain {α : Type} (operation resource : String) (r : Except Failure α × Services) :
    Except Failure α × Services :=
  (r.1.mapError (·.inContext operation resource), r.2)

/-- Goes on with the cluster's place at its proxy. -/
def atCluster {α : Type} (s : Services) (c : Cluster) (flavor : Flavor)
    (next : String → Services → Except Failure α × Services) : Except Failure α × Services :=
  match s.clusterUrl c flavor with
  | (.error f, s) => (.error f, s)
  | (.ok url, s) => next url s

def topicOfData (t : TopicData) : TopicInfo where
  name := t.name
  isInternal := t.isInternal
  replicationFactor := t.replicationFactor
  partitionCount := t.partitionCount
  partitions := []
  configs := []
  authorizedOperations := t.operations

/-- The topics that a proxy lists, internal ones only on demand. -/
def visibleData (includeInternal : Bool) (ts : List TopicData) : List TopicInfo :=
  TopicInfo.sortByName ((ts.filter fun t => includeInternal || !t.isInternal).map topicOfData)

def proxyList (s : Services) (c : Cluster) (flavor : Flavor) (includeInternal : Bool) :
    Except Failure (List TopicInfo) × Services :=
  explain "list topics" c.clusterId <| s.atCluster c flavor fun url s =>
    match s.fetch c (url ++ "/topics?includeAuthorizedOperations=true")
      (listOf TopicData.decoder) with
    | (.error f, s) => (.error f, s)
    | (.ok ts, s) => (.ok (visibleData includeInternal ts), s)

/-- A partition with its replicas. The first that is marked as leader leads. -/
def partitionOf (id : Int32) (rs : List ReplicaData) : PartitionInfo where
  id := id
  leader := (rs.find? (·.isLeader)).map (·.broker)
  replicas := rs.map (·.broker)
  isr := (rs.filter (·.inSync)).map (·.broker)
  offline := []

/-- Asks for the replicas of each partition. All are asked about; the first failure is the
answer. -/
def partitions (c : Cluster) (topicUrl : String) :
    List Int32 → Services → Except Failure (List PartitionInfo) × Services
  | [], s => (.ok [], s)
  | id :: ids, s =>
    let (r, s) := s.fetch c s!"{topicUrl}/partitions/{id.toInt}/replicas" (listOf ReplicaData.decoder)
    let (rest, s) := partitions c topicUrl ids s
    (do return partitionOf id (← r) :: (← rest), s)

/-- A topic put together from what a proxy says about it. -/
def assemble (t : TopicData) (ps : List PartitionInfo) (cs : List ConfigData) : TopicInfo :=
  { topicOfData t with
    partitions := ps.mergeSort fun a b => a.id ≤ b.id
    configs := Configs.ofList (cs.filterMap fun x => x.value.map (x.name, ·)) }

/-- Asks a proxy for a topic, its partitions and its settings, and then for the replicas. -/
def describeAt (c : Cluster) (topicUrl : String) (s : Services) :
    Except Failure TopicInfo × Services :=
  let (topic, s) := s.fetch c (topicUrl ++ "?includeAuthorizedOperations=true") TopicData.decoder
  let (ids, s) := s.fetch c (topicUrl ++ "/partitions") (listOf partitionId)
  let (configs, s) := s.fetch c (topicUrl ++ "/configs") (listOf ConfigData.decoder)
  match topic, ids, configs with
  | .ok topic, .ok ids, .ok configs =>
    let (ps, s) := partitions c topicUrl ids s
    (ps.map (assemble topic · configs), s)
  | .error f, _, _ => (.error f, s)
  | _, .error f, _ => (.error f, s)
  | _, _, .error f => (.error f, s)

def proxyDescribe (s : Services) (c : Cluster) (flavor : Flavor) (name : String) :
    Except Failure TopicInfo × Services :=
  explain "describe topic" name <| s.atCluster c flavor fun url s =>
    describeAt c s!"{url}/topics/{name}" s

/-- Whether the proxy has a topic. That something is not found means that it has not. -/
def proxyExists (s : Services) (c : Cluster) (flavor : Flavor) (name : String) :
    Except Failure Bool × Services :=
  match s.atCluster c flavor fun url s => s.sendTo c .get s!"{url}/topics/{name}" none with
  | (.ok _, s) => (.ok true, s)
  | (.error f, s) =>
    if f.isNotFound then (.ok false, s) else (.error (f.inContext "check topic" name), s)

/-- The body of a request to create a topic. What is left to the broker is left out. -/
def creationBody (r : TopicRequest) : Json :=
  .object ([("topic_name", .text r.name)] ++
    (r.partitions.map fun n => [("partitions_count", Json.int n.toInt)]).getD [] ++
    (r.replicationFactor.map fun n => [("replication_factor", Json.int n.toInt)]).getD [] ++
    [("configs", .list (r.configs.map fun c =>
        .object [("name", .text c.1), ("value", .text c.2)])),
      ("validate_only", .bool r.validateOnly)])

/-- The success of a request whose answer does not matter. -/
def discardBody (r : Except Failure String × Services) : Except Failure Unit × Services :=
  (r.1.map fun _ => (), r.2)

def proxyCreate (s : Services) (c : Cluster) (flavor : Flavor) (r : TopicRequest) :
    Except Failure Unit × Services :=
  explain "create topic" r.name <| s.atCluster c flavor fun url s =>
    discardBody (s.sendTo c .post s!"{url}/topics" (some (creationBody r)))

def proxyDelete (s : Services) (c : Cluster) (flavor : Flavor) (name : String) :
    Except Failure Unit × Services :=
  explain "delete topic" name <| s.atCluster c flavor fun url s =>
    discardBody (s.sendTo c .delete s!"{url}/topics/{name}" none)

end ClusterAdmin.Services
