namespace ClusterAdmin

structure BrokerMetadata where
  id : Int32
  host : String
  port : Int32
  rack : Option String
  deriving DecidableEq, Repr

structure PartitionMetadata where
  id : Int32
  errorCode : Int16
  /-- Negative while there is no leader. -/
  leader : Int32
  replicas : List Int32
  isr : List Int32
  offline : List Int32
  deriving DecidableEq, Repr

structure TopicMetadata where
  name : String
  errorCode : Int16
  isInternal : Bool
  partitions : List PartitionMetadata
  deriving DecidableEq, Repr

structure ClusterMetadata where
  clusterId : Option String
  controllerId : Int32
  brokers : List BrokerMetadata
  topics : List TopicMetadata
  deriving DecidableEq, Repr

/-- A topic to create. A count of -1 leaves the choice to the broker. -/
structure NewTopic where
  name : String
  partitions : Int32
  replicationFactor : Int16
  /-- Settings by name, in the order of the names. -/
  configs : List (String × String)
  deriving DecidableEq, Repr

/-- How creating or deleting one topic ended. Code zero is success. -/
structure TopicOutcome where
  name : String
  errorCode : Int16
  errorMessage : Option String
  deriving DecidableEq, Repr

end ClusterAdmin
