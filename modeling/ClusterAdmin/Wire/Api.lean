namespace ClusterAdmin.Wire

inductive Api where
  | metadata
  | saslHandshake
  | apiVersions
  | createTopics
  | deleteTopics
  | describeAcls
  | saslAuthenticate
  deriving DecidableEq, Repr

namespace Api

def every : List Api :=
  [metadata, saslHandshake, apiVersions, createTopics, deleteTopics, describeAcls,
    saslAuthenticate]

def key : Api → Int16
  | metadata => 3
  | saslHandshake => 17
  | apiVersions => 18
  | createTopics => 19
  | deleteTopics => 20
  | describeAcls => 29
  | saslAuthenticate => 36

def ofKey? (k : Int16) : Option Api := every.find? (·.key = k)

@[simp] theorem ofKey?_key (a : Api) : ofKey? a.key = some a := by cases a <;> rfl

def name : Api → String
  | metadata => "Metadata"
  | saslHandshake => "SaslHandshake"
  | apiVersions => "ApiVersions"
  | createTopics => "CreateTopics"
  | deleteTopics => "DeleteTopics"
  | describeAcls => "DescribeAcls"
  | saslAuthenticate => "SaslAuthenticate"

/-- The version in which the client sends the request. -/
def version : Api → Int16
  | metadata => 8
  | saslHandshake => 1
  | apiVersions => 0
  | createTopics => 4
  | deleteTopics => 3
  | describeAcls => 1
  | saslAuthenticate => 1

/-- The first version with tagged fields. A handshake has none. -/
def flexibleFrom? : Api → Option Int16
  | metadata => some 9
  | saslHandshake => none
  | apiVersions => some 3
  | createTopics => some 5
  | deleteTopics => some 4
  | describeAcls => some 2
  | saslAuthenticate => some 2

end Api

/-- Whether a version of a request has tagged fields. Requests that the client never sends count as
having none. -/
def isFlexible (key version : Int16) : Bool :=
  ((Api.ofKey? key).bind Api.flexibleFrom?).any (· ≤ version)

def requestHeaderVersion (key version : Int16) : Int16 := if isFlexible key version then 2 else 1

/-- Answers about versions keep the oldest header, so that every client can read them. -/
def responseHeaderVersion (key version : Int16) : Int16 :=
  if key ≠ Api.apiVersions.key && isFlexible key version then 1 else 0

end ClusterAdmin.Wire
