import ClusterAdmin.Json.Record
import ClusterAdmin.Text.Basic

namespace ClusterAdmin

inductive ResourceType where
  | unknown
  | any
  | topic
  | group
  | cluster
  | transactionalId
  | delegationToken
  | user
  deriving DecidableEq, Repr

namespace ResourceType

def all : List ResourceType :=
  [unknown, any, topic, group, cluster, transactionalId, delegationToken, user]

def code : ResourceType → Int8
  | unknown => 0
  | any => 1
  | topic => 2
  | group => 3
  | cluster => 4
  | transactionalId => 5
  | delegationToken => 6
  | user => 7

def name : ResourceType → String
  | unknown => "UNKNOWN"
  | any => "ANY"
  | topic => "TOPIC"
  | group => "GROUP"
  | cluster => "CLUSTER"
  | transactionalId => "TRANSACTIONAL_ID"
  | delegationToken => "DELEGATION_TOKEN"
  | user => "USER"

def ofCode? (c : Int8) : Option ResourceType := all.find? (·.code == c)

@[simp] theorem ofCode?_code (x : ResourceType) : ofCode? x.code = some x := by cases x <;> rfl

@[simp] theorem code_inj {x y : ResourceType} : x.code = y.code ↔ x = y :=
  ⟨fun h => by simpa using congrArg ofCode? h, congrArg code⟩

def decoder : Json.Decoder ResourceType := Json.Decoder.oneOf (all.map fun x => (x.name, x))

end ResourceType

/-- How the name in a binding is compared with the name of a resource. -/
inductive PatternType where
  | unknown
  | any
  | matched
  | literal
  | prefixed
  deriving DecidableEq, Repr

namespace PatternType

def all : List PatternType := [unknown, any, matched, literal, prefixed]

def code : PatternType → Int8
  | unknown => 0
  | any => 1
  | matched => 2
  | literal => 3
  | prefixed => 4

def name : PatternType → String
  | unknown => "UNKNOWN"
  | any => "ANY"
  | matched => "MATCH"
  | literal => "LITERAL"
  | prefixed => "PREFIXED"

def ofCode? (c : Int8) : Option PatternType := all.find? (·.code == c)

@[simp] theorem ofCode?_code (x : PatternType) : ofCode? x.code = some x := by cases x <;> rfl

@[simp] theorem code_inj {x y : PatternType} : x.code = y.code ↔ x = y :=
  ⟨fun h => by simpa using congrArg ofCode? h, congrArg code⟩

def decoder : Json.Decoder PatternType := Json.Decoder.oneOf (all.map fun x => (x.name, x))

end PatternType

inductive AclOperation where
  | unknown
  | any
  | all
  | read
  | write
  | create
  | delete
  | alter
  | describe
  | clusterAction
  | describeConfigs
  | alterConfigs
  | idempotentWrite
  | createTokens
  | describeTokens
  deriving DecidableEq, Repr

namespace AclOperation

def every : List AclOperation :=
  [unknown, any, all, read, write, create, delete, alter, describe, clusterAction,
    describeConfigs, alterConfigs, idempotentWrite, createTokens, describeTokens]

def code : AclOperation → Int8
  | unknown => 0
  | any => 1
  | all => 2
  | read => 3
  | write => 4
  | create => 5
  | delete => 6
  | alter => 7
  | describe => 8
  | clusterAction => 9
  | describeConfigs => 10
  | alterConfigs => 11
  | idempotentWrite => 12
  | createTokens => 13
  | describeTokens => 14

def name : AclOperation → String
  | unknown => "UNKNOWN"
  | any => "ANY"
  | all => "ALL"
  | read => "READ"
  | write => "WRITE"
  | create => "CREATE"
  | delete => "DELETE"
  | alter => "ALTER"
  | describe => "DESCRIBE"
  | clusterAction => "CLUSTER_ACTION"
  | describeConfigs => "DESCRIBE_CONFIGS"
  | alterConfigs => "ALTER_CONFIGS"
  | idempotentWrite => "IDEMPOTENT_WRITE"
  | createTokens => "CREATE_TOKENS"
  | describeTokens => "DESCRIBE_TOKENS"

/-- The operations that can be done to a topic. -/
def onTopics : List AclOperation :=
  [read, write, create, delete, alter, describe, describeConfigs, alterConfigs]

/-- Every operation in the order of the names. -/
def byName : List AclOperation :=
  [all, alter, alterConfigs, any, clusterAction, create, createTokens, delete, describe,
    describeConfigs, describeTokens, idempotentWrite, read, unknown, write]

def ofCode? (c : Int8) : Option AclOperation := every.find? (·.code == c)

@[simp] theorem ofCode?_code (x : AclOperation) : ofCode? x.code = some x := by cases x <;> rfl

@[simp] theorem code_inj {x y : AclOperation} : x.code = y.code ↔ x = y :=
  ⟨fun h => by simpa using congrArg ofCode? h, congrArg code⟩

/-- The operation of a name in any case, with `-` for `_` if so wished. `UNKNOWN` names none. -/
def ofName? (s : String) : Option AclOperation :=
  let wanted := (Text.asciiUpper s).map fun c => if c = '-' then '_' else c
  every.find? fun op => op ≠ unknown ∧ op.name = wanted

def decoder : Json.Decoder AclOperation := Json.Decoder.oneOf (every.map fun x => (x.name, x))

end AclOperation

inductive Permission where
  | unknown
  | any
  | deny
  | allow
  deriving DecidableEq, Repr

namespace Permission

def all : List Permission := [unknown, any, deny, allow]

def code : Permission → Int8
  | unknown => 0
  | any => 1
  | deny => 2
  | allow => 3

def name : Permission → String
  | unknown => "UNKNOWN"
  | any => "ANY"
  | deny => "DENY"
  | allow => "ALLOW"

/-- The name in running text. -/
def label : Permission → String
  | unknown => "Unknown"
  | any => "Any"
  | deny => "Deny"
  | allow => "Allow"

def ofCode? (c : Int8) : Option Permission := all.find? (·.code == c)

@[simp] theorem ofCode?_code (x : Permission) : ofCode? x.code = some x := by cases x <;> rfl

@[simp] theorem code_inj {x y : Permission} : x.code = y.code ↔ x = y :=
  ⟨fun h => by simpa using congrArg ofCode? h, congrArg code⟩

def decoder : Json.Decoder Permission := Json.Decoder.oneOf (all.map fun x => (x.name, x))

end Permission

/-- One rule of a list: what it lets or forbids a principal to do from a host. -/
structure AclEntry where
  principal : String
  host : String
  operation : AclOperation
  permission : Permission
  deriving DecidableEq, Repr

namespace AclEntry

/-- A rule for every host. -/
def anywhere (principal : String) (operation : AclOperation) (permission : Permission) : AclEntry :=
  ⟨principal, "*", operation, permission⟩

def text (e : AclEntry) : String :=
  s!"(principal={e.principal}, host={e.host}, operation={e.operation.name}, permission={e.permission.label})"

open Json.Reader in
def decoder : Json.Decoder AclEntry := Json.Decoder.record do
  let principal ← required ["principal"] Json.Decoder.text
  let host ← required ["host"] Json.Decoder.text
  let operation ← required ["operation"] AclOperation.decoder
  let permission ← required ["permission"] Permission.decoder
  return ⟨principal, host, operation, permission⟩

def toJson (e : AclEntry) : Json :=
  .object [("principal", .text e.principal), ("host", .text e.host),
    ("operation", .text e.operation.name), ("permission", .text e.permission.name)]

end AclEntry

/-- A pattern of resources and the rules bound to it. -/
structure AclResource where
  type : ResourceType
  name : String
  pattern : PatternType
  acls : List AclEntry
  deriving DecidableEq, Repr

namespace AclResource

/-- Whether the pattern takes in a topic. A literal `*` takes in every topic. -/
def covers (r : AclResource) (topic : String) : Bool :=
  match r.pattern with
  | .literal => r.name = topic || r.name = "*"
  | .prefixed => r.name.toList.isPrefixOf topic.toList
  | .any | .matched => true
  | .unknown => false

open Json.Reader in
def decoder : Json.Decoder AclResource := Json.Decoder.record do
  let type ← required ["resource_type"] ResourceType.decoder
  let name ← required ["name"] Json.Decoder.text
  let pattern ← required ["pattern_type"] PatternType.decoder
  let acls ← required ["acls"] (Json.Decoder.list AclEntry.decoder)
  return ⟨type, name, pattern, acls⟩

def toJson (r : AclResource) : Json :=
  .object [("resource_type", .text r.type.name), ("name", .text r.name),
    ("pattern_type", .text r.pattern.name), ("acls", .list (r.acls.map AclEntry.toJson))]

end AclResource

/-- Which rules to list. A field without a value asks for any. -/
structure AclFilter where
  type : ResourceType
  name : Option String
  pattern : PatternType
  principal : Option String
  host : Option String
  operation : AclOperation
  permission : Permission
  deriving DecidableEq, Repr

namespace AclFilter

/-- Every rule that could bear on a topic. -/
def forTopic (topic : String) : AclFilter :=
  ⟨.topic, some topic, .matched, none, none, .any, .any⟩

def toJson (f : AclFilter) : Json :=
  .object [("resource_type", .text f.type.name), ("resource_name", Json.ofText? f.name),
    ("pattern_type", .text f.pattern.name), ("principal", Json.ofText? f.principal),
    ("host", Json.ofText? f.host), ("operation", .text f.operation.name),
    ("permission", .text f.permission.name)]

end AclFilter

/-- A broker's answer to a filter. -/
structure AclListing where
  errorCode : Int16
  errorMessage : Option String
  resources : List AclResource
  deriving DecidableEq, Repr

end ClusterAdmin
