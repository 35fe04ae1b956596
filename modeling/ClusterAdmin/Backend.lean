import ClusterAdmin.Cluster

namespace ClusterAdmin

/-- The kind of a REST proxy. -/
inductive Flavor where
  /-- A proxy on its own. -/
  | legacy
  /-- The endpoint of a hosted cluster. -/
  | cloud
  /-- The proxy of a development cluster. -/
  | localProxy
  deriving DecidableEq, Repr

namespace Flavor

def name : Flavor → String
  | legacy => "legacy"
  | cloud => "cloud"
  | localProxy => "local"

def pathPrefix : Flavor → String
  | legacy | localProxy => "/v3"
  | cloud => "/kafka/v3"

/-- Whether the proxy knows the cluster under an identifier of its own. -/
def discoversClusterId : Flavor → Bool
  | localProxy => true
  | legacy | cloud => false

end Flavor

inductive Backend where
  | native
  | rest (flavor : Flavor)
  deriving DecidableEq, Repr

namespace Backend

/-- A local cluster is always served by its proxy, and a hosted one by its endpoint. A direct one is
reached natively unless the host can only make HTTP requests. -/
def ofCluster (c : Cluster) : Backend :=
  match c.connectionType, c.capability with
  | .cloudManaged, _ => .rest .cloud
  | .selfHostedLocal, _ => .rest .localProxy
  | .selfHostedDirect, .nativeSockets => .native
  | .selfHostedDirect, .httpOnly => .rest .cloud

def text : Backend → String
  | native => "native"
  | rest f => s!"rest/{f.name}"

def toJson : Backend → Json
  | native => .object [("backend", .text "native")]
  | rest f => .object [("backend", .text "rest"), ("flavor", .text f.name)]

end Backend

end ClusterAdmin
