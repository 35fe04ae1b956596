import ClusterAdmin.Json.Record

namespace ClusterAdmin

/-- How a cluster is run and reached. -/
inductive ConnectionType where
  /-- Hosted, and reached through its REST endpoint only. -/
  | cloudManaged
  /-- Running on this machine for development. -/
  | selfHostedLocal
  /-- Reached at its bootstrap servers. -/
  | selfHostedDirect
  deriving DecidableEq, Repr

namespace ConnectionType

def name : ConnectionType → String
  | cloudManaged => "cloud-managed"
  | selfHostedLocal => "self-hosted-local"
  | selfHostedDirect => "self-hosted-direct"

def decoder : Json.Decoder ConnectionType :=
  Json.Decoder.oneOf ([cloudManaged, selfHostedLocal, selfHostedDirect].map fun x => (x.name, x))

end ConnectionType

/-- What this host can open. -/
inductive HostCapability where
  | nativeSockets
  | httpOnly
  deriving DecidableEq, Repr

namespace HostCapability

def name : HostCapability → String
  | nativeSockets => "native-sockets"
  | httpOnly => "http-only"

def decoder : Json.Decoder HostCapability :=
  Json.Decoder.oneOf ([nativeSockets, httpOnly].map fun x => (x.name, x))

end HostCapability

/-- What tells clusters apart. -/
structure ClusterKey where
  connectionId : String
  clusterId : String
  deriving DecidableEq, Repr

def ClusterKey.text (k : ClusterKey) : String := s!"{k.connectionId}/{k.clusterId}"

structure Cluster where
  connectionId : String
  clusterId : String
  connectionType : ConnectionType
  bootstrapServers : List String
  restUri : Option String
  capability : HostCapability
  deriving DecidableEq, Repr

namespace Cluster

def key (c : Cluster) : ClusterKey := ⟨c.connectionId, c.clusterId⟩

open Json.Reader in
def decoder : Json.Decoder Cluster := Json.Decoder.record do
  let connectionId ← required ["connectionId"] Json.Decoder.text
  let clusterId ← required ["clusterId"] Json.Decoder.text
  let connectionType ← required ["connectionType"] ConnectionType.decoder
  let bootstrapServers ← withDefault ["bootstrapServers"] (Json.Decoder.list Json.Decoder.text) []
  let restUri ← optional ["restUri"] Json.Decoder.text
  let capability ← withDefault ["capability"] HostCapability.decoder .nativeSockets
  return ⟨connectionId, clusterId, connectionType, bootstrapServers, restUri, capability⟩

def toJson (c : Cluster) : Json :=
  .object [("connectionId", .text c.connectionId), ("clusterId", .text c.clusterId),
    ("connectionType", .text c.connectionType.name),
    ("bootstrapServers", Json.ofTexts c.bootstrapServers), ("restUri", Json.ofText? c.restUri),
    ("capability", .text c.capability.name)]

end Cluster

end ClusterAdmin
