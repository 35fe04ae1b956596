import ClusterAdmin.Acl.Basic
import ClusterAdmin.Failure
import ClusterAdmin.Metadata
import ClusterAdmin.Wire.Api
import ClusterAdmin.Wire.Codec

namespace ClusterAdmin.Wire

inductive Request where
  /-- Asks about the named topics, or about all. -/
  | metadata (topics : Option (List String))
  | describeAcls (filter : AclFilter)
  | createTopics (topics : List NewTopic) (timeoutMs : Int32) (validateOnly : Bool)
  | deleteTopics (names : List String) (timeoutMs : Int32)
  | saslHandshake (mechanism : String)
  | saslAuthenticate (payload : Bytes)
  deriving DecidableEq, Repr

namespace Request

def api : Request → Api
  | metadata _ => .metadata
  | describeAcls _ => .describeAcls
  | createTopics _ _ _ => .createTopics
  | deleteTopics _ _ => .deleteTopics
  | saslHandshake _ => .saslHandshake
  | saslAuthenticate _ => .saslAuthenticate

def writeFilter (f : AclFilter) : Written := do
  return writeInt8 f.type.code ++ (← writeNullable f.name) ++ writeInt8 f.pattern.code ++
    (← writeNullable f.principal) ++ (← writeNullable f.host) ++ writeInt8 f.operation.code ++
    writeInt8 f.permission.code

def writeConfig (c : String × String) : Written := do
  return (← writeString c.1) ++ (← writeString c.2)

def writeNewTopic (t : NewTopic) : Written := do
  return (← writeString t.name) ++ writeInt32 t.partitions ++ writeInt16 t.replicationFactor ++
    writeInt32 0 ++ (← writeArray writeConfig t.configs)

def writeBody : Request → Written
  | metadata topics => do
    let names ← match topics with
      | none => pure (writeInt32 (-1))
      | some ns => writeArray writeString ns
    return names ++ writeBool false ++ writeBool false ++ writeBool false
  | describeAcls f => writeFilter f
  | createTopics topics timeoutMs validateOnly => do
    return (← writeArray writeNewTopic topics) ++ writeInt32 timeoutMs ++ writeBool validateOnly
  | deleteTopics names timeoutMs => do
    return (← writeArray writeString names) ++ writeInt32 timeoutMs
  | saslHandshake mechanism => writeString mechanism
  | saslAuthenticate payload => .ok (writeOctets payload)

def writeHeader (r : Request) (correlationId : Int32) (clientId : String) : Written := do
  return writeInt16 r.api.key ++ writeInt16 r.api.version ++ writeInt32 correlationId ++
    (← writeString clientId)

/-- The whole frame. There is none if a text is too long. -/
def frame (r : Request) (correlationId : Int32) (clientId : String) : Except Failure Bytes :=
  match r.writeHeader correlationId clientId with
  | .error e => .error (Failure.invalid s!"encode {r.api.name} header: {e.message}")
  | .ok header =>
    match r.writeBody with
    | .error e => .error (Failure.invalid s!"encode {r.api.name} request: {e.message}")
    | .ok body => .ok (writeOctets (header ++ body))

/-- A topic to create, with the brokers that are to have the replicas of a partition. A setting
without a value has its default. -/
structure Creation where
  name : String
  partitions : Int32
  replicationFactor : Int16
  assignments : List (Int32 × List Int32)
  configs : List (String × Option String)
  deriving DecidableEq, Repr

/-- What comes after the header of a request. -/
inductive Body where
  | metadata (topics : Option (List String))
      (createsTopics clusterOperations topicOperations : Bool)
  | describeAcls (type : Int8) (name : Option String) (pattern : Int8)
      (principal host : Option String) (operation permission : Int8)
  | createTopics (topics : List Creation) (timeoutMs : Int32) (validateOnly : Bool)
  | deleteTopics (names : List String) (timeoutMs : Int32)
  | saslHandshake (mechanism : String)
  | saslAuthenticate (payload : Bytes)
  | apiVersions
  deriving DecidableEq, Repr

/-- What comes before the body of a request. -/
structure Header where
  key : Int16
  version : Int16
  correlationId : Int32
  clientId : Option String
  deriving DecidableEq, Repr

def readHeader : Reader Header := do
  let key ← readInt16
  let version ← readInt16
  let correlationId ← readInt32
  return ⟨key, version, correlationId, ← readNullable⟩

def readAssignment : Reader (Int32 × List Int32) := do
  let partition ← readInt32
  return (partition, ← readArray readInt32)

def readConfig : Reader (String × Option String) := do
  let name ← readString
  return (name, ← readNullable)

def readCreation : Reader Creation := do
  let name ← readString
  let partitions ← readInt32
  let replicationFactor ← readInt16
  let assignments ← readArray readAssignment
  return ⟨name, partitions, replicationFactor, assignments, ← readArray readConfig⟩

def readBody : Api → Reader Body
  | .metadata => do
    let topics ← readNullableArray readString
    let createsTopics ← readBool
    let clusterOperations ← readBool
    return .metadata topics createsTopics clusterOperations (← readBool)
  | .describeAcls => do
    let type ← readInt8
    let name ← readNullable
    let pattern ← readInt8
    let principal ← readNullable
    let host ← readNullable
    let operation ← readInt8
    return .describeAcls type name pattern principal host operation (← readInt8)
  | .createTopics => do
    let topics ← readArray readCreation
    let timeoutMs ← readInt32
    return .createTopics topics timeoutMs (← readBool)
  | .deleteTopics => do
    let names ← readArray readString
    return .deleteTopics names (← readInt32)
  | .saslHandshake => return .saslHandshake (← readString)
  | .saslAuthenticate => return .saslAuthenticate (← readLong)
  | .apiVersions => return .apiVersions

/-- What is asked for a topic to create. Which broker gets which replica is left to the brokers. -/
def creation (t : NewTopic) : Creation :=
  ⟨t.name, t.partitions, t.replicationFactor, [], t.configs.map fun c => (c.1, some c.2)⟩

/-- What a request says. No topic comes to be by asking about it, and nothing is told about the
operations that the client may do. -/
def body : Request → Body
  | metadata topics => .metadata topics false false false
  | describeAcls f => .describeAcls f.type.code f.name f.pattern.code f.principal f.host
      f.operation.code f.permission.code
  | createTopics topics timeoutMs validateOnly =>
    .createTopics (topics.map creation) timeoutMs validateOnly
  | deleteTopics names timeoutMs => .deleteTopics names timeoutMs
  | saslHandshake mechanism => .saslHandshake mechanism
  | saslAuthenticate payload => .saslAuthenticate payload

end Request

end ClusterAdmin.Wire
