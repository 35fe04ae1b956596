import ClusterAdmin.Acl.Basic
import ClusterAdmin.Metadata
import ClusterAdmin.Wire.Codec

namespace ClusterAdmin.Wire

structure PartitionAnswer where
  errorCode : Int16
  index : Int32
  leader : Int32
  leaderEpoch : Int32
  replicas : List Int32
  isr : List Int32
  offline : List Int32
  deriving DecidableEq, Repr

structure TopicAnswer where
  errorCode : Int16
  name : Option String
  isInternal : Bool
  partitions : List PartitionAnswer
  operations : Int32
  deriving DecidableEq, Repr

structure MetadataAnswer where
  throttleMs : Int32
  brokers : List BrokerMetadata
  clusterId : Option String
  controllerId : Int32
  topics : List TopicAnswer
  operations : Int32
  deriving DecidableEq, Repr

structure AclEntryAnswer where
  principal : String
  host : String
  operation : Int8
  permission : Int8
  deriving DecidableEq, Repr

structure AclResourceAnswer where
  type : Int8
  name : String
  pattern : Int8
  acls : List AclEntryAnswer
  deriving DecidableEq, Repr

structure AclsAnswer where
  throttleMs : Int32
  errorCode : Int16
  errorMessage : Option String
  resources : List AclResourceAnswer
  deriving DecidableEq, Repr

structure CreationAnswer where
  throttleMs : Int32
  topics : List TopicOutcome
  deriving DecidableEq, Repr

structure DeletionAnswer where
  throttleMs : Int32
  /-- The outcome's code for each name. -/
  topics : List (Option String × Int16)
  deriving DecidableEq, Repr

/-- The answer to naming a mechanism: the mechanisms that the broker knows. -/
structure HandshakeAnswer where
  errorCode : Int16
  mechanisms : List String
  deriving DecidableEq, Repr

/-- The answer to one message of a login. -/
structure LoginAnswer where
  errorCode : Int16
  errorMessage : Option String
  payload : Bytes
  lifetimeMs : Int64
  deriving DecidableEq, Repr

def writeBroker (b : BrokerMetadata) : Written := do
  return writeInt32 b.id ++ (← writeString b.host) ++ writeInt32 b.port ++ (← writeNullable b.rack)

def PartitionAnswer.write (p : PartitionAnswer) : Bytes :=
  writeInt16 p.errorCode ++ writeInt32 p.index ++ writeInt32 p.leader ++ writeInt32 p.leaderEpoch ++
    writeInt32s p.replicas ++ writeInt32s p.isr ++ writeInt32s p.offline

def TopicAnswer.write (t : TopicAnswer) : Written := do
  return writeInt16 t.errorCode ++ (← writeNullable t.name) ++ writeBool t.isInternal ++
    (← writeArray (fun p => .ok (PartitionAnswer.write p)) t.partitions) ++ writeInt32 t.operations

def MetadataAnswer.write (m : MetadataAnswer) : Written := do
  return writeInt32 m.throttleMs ++ (← writeArray writeBroker m.brokers) ++
    (← writeNullable m.clusterId) ++ writeInt32 m.controllerId ++
    (← writeArray TopicAnswer.write m.topics) ++ writeInt32 m.operations

def AclEntryAnswer.write (e : AclEntryAnswer) : Written := do
  return (← writeString e.principal) ++ (← writeString e.host) ++ writeInt8 e.operation ++
    writeInt8 e.permission

def AclResourceAnswer.write (r : AclResourceAnswer) : Written := do
  return writeInt8 r.type ++ (← writeString r.name) ++ writeInt8 r.pattern ++
    (← writeArray AclEntryAnswer.write r.acls)

def AclsAnswer.write (a : AclsAnswer) : Written := do
  return writeInt32 a.throttleMs ++ writeInt16 a.errorCode ++ (← writeNullable a.errorMessage) ++
    (← writeArray AclResourceAnswer.write a.resources)

def writeOutcome (o : TopicOutcome) : Written := do
  return (← writeString o.name) ++ writeInt16 o.errorCode ++ (← writeNullable o.errorMessage)

def CreationAnswer.write (c : CreationAnswer) : Written := do
  return writeInt32 c.throttleMs ++ (← writeArray writeOutcome c.topics)

def writeDeletion (d : Option String × Int16) : Written := do
  return (← writeNullable d.1) ++ writeInt16 d.2

def DeletionAnswer.write (d : DeletionAnswer) : Written := do
  return writeInt32 d.throttleMs ++ (← writeArray writeDeletion d.topics)

def HandshakeAnswer.write (h : HandshakeAnswer) : Written := do
  return writeInt16 h.errorCode ++ (← writeArray writeString h.mechanisms)

def LoginAnswer.write (l : LoginAnswer) : Written := do
  return writeInt16 l.errorCode ++ (← writeNullable l.errorMessage) ++ writeOctets l.payload ++
    writeInt64 l.lifetimeMs

def readBroker : Reader BrokerMetadata := do
  let id ← readInt32
  let host ← readString
  let port ← readInt32
  return ⟨id, host, port, ← readNullable⟩

def PartitionAnswer.read : Reader PartitionAnswer := do
  let errorCode ← readInt16
  let index ← readInt32
  let leader ← readInt32
  let leaderEpoch ← readInt32
  let replicas ← readArray readInt32
  let isr ← readArray readInt32
  return ⟨errorCode, index, leader, leaderEpoch, replicas, isr, ← readArray readInt32⟩

def TopicAnswer.read : Reader TopicAnswer := do
  let errorCode ← readInt16
  let name ← readNullable
  let isInternal ← readBool
  let partitions ← readArray PartitionAnswer.read
  return ⟨errorCode, name, isInternal, partitions, ← readInt32⟩

def MetadataAnswer.read : Reader MetadataAnswer := do
  let throttleMs ← readInt32
  let brokers ← readArray readBroker
  let clusterId ← readNullable
  let controllerId ← readInt32
  let topics ← readArray TopicAnswer.read
  return ⟨throttleMs, brokers, clusterId, controllerId, topics, ← readInt32⟩

def AclEntryAnswer.read : Reader AclEntryAnswer := do
  let principal ← readString
  let host ← readString
  let operation ← readInt8
  return ⟨principal, host, operation, ← readInt8⟩

def AclResourceAnswer.read : Reader AclResourceAnswer := do
  let type ← readInt8
  let name ← readString
  let pattern ← readInt8
  return ⟨type, name, pattern, ← readArray AclEntryAnswer.read⟩

def AclsAnswer.read : Reader AclsAnswer := do
  let throttleMs ← readInt32
  let errorCode ← readInt16
  let errorMessage ← readNullable
  return ⟨throttleMs, errorCode, errorMessage, ← readArray AclResourceAnswer.read⟩

def readOutcome : Reader TopicOutcome := do
  let name ← readString
  let errorCode ← readInt16
  return ⟨name, errorCode, ← readNullable⟩

def CreationAnswer.read : Reader CreationAnswer := do
  let throttleMs ← readInt32
  return ⟨throttleMs, ← readArray readOutcome⟩

def readDeletion : Reader (Option String × Int16) := do
  let name ← readNullable
  return (name, ← readInt16)

def DeletionAnswer.read : Reader DeletionAnswer := do
  let throttleMs ← readInt32
  return ⟨throttleMs, ← readArray readDeletion⟩

def HandshakeAnswer.read : Reader HandshakeAnswer := do
  let errorCode ← readInt16
  return ⟨errorCode, ← readArray readString⟩

def LoginAnswer.read : Reader LoginAnswer := do
  let errorCode ← readInt16
  let errorMessage ← readNullable
  let payload ← readLong
  return ⟨errorCode, errorMessage, payload, ← readInt64⟩

def PartitionAnswer.content (p : PartitionAnswer) : PartitionMetadata :=
  ⟨p.index, p.errorCode, p.leader, p.replicas, p.isr, p.offline⟩

def TopicAnswer.content (t : TopicAnswer) : TopicMetadata :=
  ⟨t.name.getD "", t.errorCode, t.isInternal, t.partitions.map PartitionAnswer.content⟩

def MetadataAnswer.content (m : MetadataAnswer) : ClusterMetadata :=
  ⟨m.clusterId, m.controllerId, m.brokers, m.topics.map TopicAnswer.content⟩

def AclEntryAnswer.content (e : AclEntryAnswer) : AclEntry :=
  ⟨e.principal, e.host, (AclOperation.ofCode? e.operation).getD .unknown,
    (Permission.ofCode? e.permission).getD .unknown⟩

def AclResourceAnswer.content (r : AclResourceAnswer) : AclResource :=
  ⟨(ResourceType.ofCode? r.type).getD .unknown, r.name,
    (PatternType.ofCode? r.pattern).getD .unknown, r.acls.map AclEntryAnswer.content⟩

def AclsAnswer.content (a : AclsAnswer) : AclListing :=
  ⟨a.errorCode, a.errorMessage, a.resources.map AclResourceAnswer.content⟩

def CreationAnswer.content (c : CreationAnswer) : List TopicOutcome := c.topics

def DeletionAnswer.content (d : DeletionAnswer) : List TopicOutcome :=
  d.topics.map fun t => ⟨t.1.getD "", t.2, none⟩

end ClusterAdmin.Wire
