import ClusterAdmin.Services.Native
import ClusterAdmin.Services.Proxy

namespace ClusterAdmin.Services

def listTopics (s : Services) (b : Backend) (c : Cluster) (includeInternal : Bool) :
    Except Failure (List TopicInfo) × Services :=
  match b with
  | .native => s.nativeList c includeInternal
  | .rest flavor => s.proxyList c flavor includeInternal

def describeTopic (s : Services) (b : Backend) (c : Cluster) (name : String) :
    Except Failure TopicInfo × Services :=
  match b with
  | .native => s.nativeDescribe c name
  | .rest flavor => s.proxyDescribe c flavor name

def topicExists (s : Services) (b : Backend) (c : Cluster) (name : String) :
    Except Failure Bool × Services :=
  match b with
  | .native => s.nativeExists c name
  | .rest flavor => s.proxyExists c flavor name

def createTopic (s : Services) (b : Backend) (c : Cluster) (r : TopicRequest) :
    Except Failure Unit × Services :=
  match b with
  | .native => s.nativeCreate c r
  | .rest flavor => s.proxyCreate c flavor r

def deleteTopic (s : Services) (b : Backend) (c : Cluster) (name : String) :
    Except Failure Unit × Services :=
  match b with
  | .native => s.nativeDelete c name
  | .rest flavor => s.proxyDelete c flavor name

end ClusterAdmin.Services
