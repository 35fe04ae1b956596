import ClusterAdmin.Json.Basic
import ClusterAdmin.Metadata

namespace ClusterAdmin

structure PartitionInfo where
  id : Int32
  leader : Option Int32
  replicas : List Int32
  isr : List Int32
  offline : List Int32
  deriving DecidableEq, Repr

structure TopicInfo where
  name : String
  isInternal : Bool
  replicationFactor : Int32
  partitionCount : Int32
  partitions : List PartitionInfo
  /-- Settings by name, in the order of the names. -/
  configs : List (String × String)
  /-- What the asker may do to the topic, where that is known. -/
  authorizedOperations : Option (List String)
  deriving DecidableEq, Repr

/-- A topic to create. What is not given is the broker's choice. -/
structure TopicRequest where
  name : String
  partitions : Option Int32
  replicationFactor : Option Int16
  /-- Settings by name, in the order of the names. -/
  configs : List (String × String)
  validateOnly : Bool
  deriving DecidableEq, Repr

namespace Configs

/-- Puts a setting in its place among settings in order, instead of one of the same name. -/
def insert (c : String × String) : List (String × String) → List (String × String)
  | [] => [c]
  | d :: r => if c.1 = d.1 then c :: r else if c.1 < d.1 then c :: d :: r else d :: insert c r

/-- Settings in the order of their names; of a repeated name the last counts. -/
def ofList (cs : List (String × String)) : List (String × String) :=
  cs.foldl (fun placed c => insert c placed) []

end Configs

/-- The numbers as a list. -/
def Json.ofInt32s (ns : List Int32) : Json := .list (ns.map fun n => .int n.toInt)

namespace PartitionInfo

def toJson (p : PartitionInfo) : Json :=
  .object [("id", .int p.id.toInt), ("leader", (p.leader.map fun n => Json.int n.toInt).getD .null),
    ("replicas", Json.ofInt32s p.replicas), ("isr", Json.ofInt32s p.isr),
    ("offlineReplicas", Json.ofInt32s p.offline)]

def ofMetadata (p : PartitionMetadata) : PartitionInfo where
  id := p.id
  leader := if p.leader < 0 then none else some p.leader
  replicas := p.replicas
  isr := p.isr
  offline := p.offline

end PartitionInfo

namespace TopicInfo

def toJson (t : TopicInfo) : Json :=
  .object ([("name", .text t.name), ("isInternal", .bool t.isInternal),
    ("replicationFactor", .int t.replicationFactor.toInt),
    ("partitionCount", .int t.partitionCount.toInt),
    ("partitions", .list (t.partitions.map PartitionInfo.toJson)),
    ("configs", .object (t.configs.map fun c => (c.1, .text c.2)))] ++
    match t.authorizedOperations with
    | none => []
    | some ops => [("authorizedOperations", Json.ofTexts ops)])

/-- A topic as brokers describe it. The first partition stands for the replication of all. -/
def ofMetadata (t : TopicMetadata) : TopicInfo where
  name := t.name
  isInternal := t.isInternal
  replicationFactor := Int32.ofNat (((t.partitions.head?).map (·.replicas.length)).getD 0)
  partitionCount := Int32.ofNat t.partitions.length
  partitions := t.partitions.map PartitionInfo.ofMetadata
  configs := []
  authorizedOperations := none

/-- In the order of the names; topics of one name stay as they were. -/
def sortByName (ts : List TopicInfo) : List TopicInfo :=
  ts.mergeSort fun a b => a.name ≤ b.name

end TopicInfo

namespace TopicRequest

/-- The request with the choices left to the broker written out. -/
def toNewTopic (r : TopicRequest) : NewTopic :=
  ⟨r.name, r.partitions.getD (-1), r.replicationFactor.getD (-1), r.configs⟩

end TopicRequest

end ClusterAdmin
