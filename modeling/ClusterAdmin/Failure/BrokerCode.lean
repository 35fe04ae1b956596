import ClusterAdmin.Failure.Category

namespace ClusterAdmin

structure BrokerCode where
  code : Int16
  name : String
  description : String
  category : Category
  /-- Whether the protocol calls the code retriable. -/
  retriable : Bool
  deriving DecidableEq, Repr

namespace BrokerCode

def table : List BrokerCode := [
  ⟨-1, "UNKNOWN_SERVER_ERROR", "unexpected server error", .unknown, false⟩,
  ⟨3, "UNKNOWN_TOPIC_OR_PARTITION", "topic does not exist on this broker", .notFound, true⟩,
  ⟨5, "LEADER_NOT_AVAILABLE", "partition leadership is changing", .transient, true⟩,
  ⟨6, "NOT_LEADER_OR_FOLLOWER", "partition leadership is changing", .transient, true⟩,
  ⟨7, "REQUEST_TIMED_OUT", "request timed out on the broker", .transient, true⟩,
  ⟨8, "BROKER_NOT_AVAILABLE", "broker not available", .transient, false⟩,
  ⟨9, "REPLICA_NOT_AVAILABLE", "broker not available", .transient, true⟩,
  ⟨13, "NETWORK_EXCEPTION", "network error while talking to the broker", .transient, true⟩,
  ⟨15, "COORDINATOR_NOT_AVAILABLE", "coordinator not available", .transient, true⟩,
  ⟨17, "INVALID_TOPIC_EXCEPTION", "topic name is invalid", .invalid, false⟩,
  ⟨19, "NOT_ENOUGH_REPLICAS", "not enough in-sync replicas", .transient, true⟩,
  ⟨29, "TOPIC_AUTHORIZATION_FAILED", "not authorized to access the topic", .auth, false⟩,
  ⟨30, "GROUP_AUTHORIZATION_FAILED", "not authorized to access the group", .auth, false⟩,
  ⟨31, "CLUSTER_AUTHORIZATION_FAILED", "not authorized to perform cluster operations", .auth,
    false⟩,
  ⟨33, "UNSUPPORTED_SASL_MECHANISM", "SASL mechanism not enabled on the broker", .auth, false⟩,
  ⟨34, "ILLEGAL_SASL_STATE", "unexpected SASL request for the current state", .auth, false⟩,
  ⟨35, "UNSUPPORTED_VERSION", "API version not supported by the broker", .invalid, false⟩,
  ⟨36, "TOPIC_ALREADY_EXISTS", "topic already exists", .alreadyExists, false⟩,
  ⟨37, "INVALID_PARTITIONS", "partition count is invalid", .invalid, false⟩,
  ⟨38, "INVALID_REPLICATION_FACTOR", "replication factor is invalid", .invalid, false⟩,
  ⟨39, "INVALID_REPLICA_ASSIGNMENT", "replica assignment is invalid", .invalid, false⟩,
  ⟨40, "INVALID_CONFIG", "topic configuration is invalid", .invalid, false⟩,
  ⟨41, "NOT_CONTROLLER", "broker is not the active controller", .transient, true⟩,
  ⟨42, "INVALID_REQUEST", "request is malformed", .invalid, false⟩,
  ⟨44, "POLICY_VIOLATION", "request violates a broker policy", .invalid, false⟩,
  ⟨54, "SECURITY_DISABLED", "security features are disabled", .invalid, false⟩,
  ⟨56, "KAFKA_STORAGE_ERROR", "broker storage error", .transient, true⟩,
  ⟨58, "SASL_AUTHENTICATION_FAILED", "SASL authentication failed", .auth, false⟩,
  ⟨60, "REASSIGNMENT_IN_PROGRESS", "partition reassignment in progress", .transient, false⟩,
  ⟨67, "INVALID_PRINCIPAL_TYPE", "principal type is not supported", .invalid, false⟩,
  ⟨73, "TOPIC_DELETION_DISABLED", "topic deletion is disabled", .invalid, false⟩,
  ⟨89, "THROTTLING_QUOTA_EXCEEDED", "throttling quota exceeded", .transient, true⟩,
  ⟨91, "RESOURCE_NOT_FOUND", "resource not found", .notFound, false⟩,
  ⟨92, "DUPLICATE_RESOURCE", "resource already exists", .alreadyExists, false⟩,
  ⟨100, "UNKNOWN_TOPIC_ID", "topic does not exist on this broker", .notFound, false⟩]

def ofCode? (code : Int16) : Option BrokerCode := table.find? (·.code == code)

end BrokerCode

end ClusterAdmin
