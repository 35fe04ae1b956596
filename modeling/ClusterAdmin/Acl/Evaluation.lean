import ClusterAdmin.Acl.Basic
import ClusterAdmin.Principal

namespace ClusterAdmin.Acl

/-- The names of all topic operations, in order. -/
def everyTopicOperation : List String :=
  (AclOperation.byName.filter (AclOperation.onTopics.contains ·)).map (·.name)

/-- Whether a rule binds a principal on every host. A rule for one host is never applied. -/
def binds (principal : String) (e : AclEntry) : Bool :=
  (e.principal = principal || e.principal = Principal.wildcard) && e.host = "*"

/-- Whether a rule speaks of an operation. A rule on all operations speaks of those on topics. -/
def speaksOf (op : AclOperation) (e : AclEntry) : Bool :=
  match e.operation with
  | .all => AclOperation.onTopics.contains op
  | .any | .unknown => false
  | o => o = op

/-- Whether one of the rules gives a permission for an operation. -/
def gives (permission : Permission) (entries : List AclEntry) (op : AclOperation) : Bool :=
  entries.any fun e => e.permission = permission && speaksOf op e

/-- The names, in order, of the operations that a principal may do to a topic. Where no pattern
takes it in, that is all of them. -/
def evaluate (topic principal : String) (resources : List AclResource) : List String :=
  let covering := resources.filter (·.covers topic)
  if covering.isEmpty then everyTopicOperation
  else
    let entries := (covering.flatMap (·.acls)).filter (binds principal)
    let granted := AclOperation.byName.filter fun op =>
      gives .allow entries op && !gives .deny entries op
    granted.map (·.name)

/-- The operations let on a topic, or that they cannot be told and perhaps why. -/
structure TopicAccess where
  operations : List String
  available : Bool
  error : Option String
  deriving DecidableEq, Repr

namespace TopicAccess

def ofOperations (operations : List String) : TopicAccess := ⟨operations, true, none⟩

def unavailable (why : String) : TopicAccess := ⟨[], false, some why⟩

def allows (a : TopicAccess) (op : AclOperation) : Bool := a.operations.contains op.name

open Json.Reader in
def decoder : Json.Decoder TopicAccess := Json.Decoder.record do
  let operations ← required ["authorizedOperations"] (Json.Decoder.list Json.Decoder.text)
  let available ← required ["aclsAvailable"] Json.Decoder.bool
  let error ← optional ["error"] Json.Decoder.text
  return ⟨operations, available, error⟩

def toJson (a : TopicAccess) : Json :=
  .object (("authorizedOperations", Json.ofTexts a.operations) ::
    ("aclsAvailable", .bool a.available) ::
    match a.error with
    | none => []
    | some why => [("error", .text why)])

end TopicAccess

end ClusterAdmin.Acl
