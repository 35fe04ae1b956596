import ClusterAdmin.Failure
import ClusterAdmin.Json.Parser
import ClusterAdmin.Json.Printer
import ClusterAdmin.Json.Record
import ClusterAdmin.Rest.Agent
import ClusterAdmin.Rest.Authorization
import ClusterAdmin.Rest.Status
import ClusterAdmin.Rest.Url

namespace ClusterAdmin.Rest

inductive Method where
  | get
  | post
  | delete
  deriving DecidableEq, Repr

def Method.name : Method → String
  | get => "GET"
  | post => "POST"
  | delete => "DELETE"

structure HttpRequest where
  method : Method
  url : Url
  /-- The values of its Authorization headers. -/
  authorizations : List String
  body : Option Json
  deriving DecidableEq, Repr

inductive HttpReply where
  | answered (status : Nat) (body : String)
  /-- The request arrived, and no answer came. -/
  | unanswered
  /-- The request did not arrive. -/
  | unreachable
  deriving DecidableEq, Repr

/-- The proxies that requests go to: the reply to a request after those sent before, the latest of
them last. A reply is what the HTTP library returns in the end. The redirects that it follows on the
way are part of how the reply comes about, and are not requests of their own. -/
structure Web where
  reply : List HttpRequest → HttpRequest → HttpReply
  sent : List HttpRequest

namespace Web

/-- A web of which nothing can be reached. -/
def offline : Web := ⟨fun _ _ => .unreachable, []⟩

def exchange (w : Web) (r : HttpRequest) : HttpReply × Web :=
  (w.reply w.sent r, { w with sent := w.sent ++ [r] })

end Web

/-- The body of an error answer. -/
structure ErrorBody where
  code : Option Int
  message : Option String
  deriving DecidableEq, Repr

open Json.Reader in
def ErrorBody.decoder : Json.Decoder ErrorBody := Json.Decoder.record do
  let code ← optional ["error_code"] Json.Decoder.int64
  let message ← optional ["message"] Json.Decoder.text
  return ⟨code, message⟩

/-- What an error answer says: its message if it has one, else all of it, else the standard words
for its status. -/
def detail (status : Nat) (body : String) : String :=
  match (Json.parse? body).bind ErrorBody.decoder with
  | some ⟨some code, some message⟩ => s!"{message} (error code {code})"
  | some ⟨none, some message⟩ => message
  | _ => if body.isEmpty then (reasonOf? status).getD "request failed" else body

def httpFailure (category : Category) (text : String) : Failure :=
  (Failure.new category s!"HTTP request failed: {text}").causedBy text

/-- A request that was sent in vain. -/
def sendFailure (u : Url) : Failure :=
  httpFailure .transient s!"error sending request for url ({u.text})"

/-- A request that cannot even be made. -/
def buildFailure (of : Option Url) : Failure :=
  let text := match of with
    | none => "builder error"
    | some u => s!"builder error for url ({u.text})"
  httpFailure (Classifier.ofMessage text) text

/-- Whether a request to a URL can be sent: there are characters that a URL admits in the name of a
host and HTTP does not, and there is a limit to its length. -/
def isSendable (u : Url) : Bool :=
  (u.scheme = "http" || u.scheme = "https") &&
    u.authority.all (fun a => a.host.text.all (· ∉ ['"', '`', '\x7b', '\x7d'])) &&
    u.text.length ≤ 65534

/-- A request to an address. A login in the address is taken out of it and goes before the
authorization of the caller. -/
def HttpRequest.make (method : Method) (address : String) (authorization : Option String)
    (body : Option Json) : Except Failure HttpRequest :=
  match Url.parse? address with
  | none => .error (buildFailure none)
  | some whole =>
    let login := whole.authority.bind Authority.login?
    let u := if login.isSome then whole.anonymous else whole
    if !whole.hasHost then .error (buildFailure (some whole))
    else if !authorization.all isHeaderText then .error (buildFailure none)
    else if !isSendable u then .error (buildFailure (some u))
    else
      .ok ⟨method, u, (login.map fun (user, password) => basic (user, password.getD "")).toList ++
        authorization.toList, body⟩

def statusFailure (status : Nat) (body : String) : Failure :=
  Failure.new (categoryOfStatus status) s!"HTTP {status}: {detail status body}"

/-- The body of a reply that tells success. -/
def bodyOf (u : Url) : HttpReply → Except Failure String
  | .answered status body =>
    if isSuccess status then .ok body else .error (statusFailure status body)
  | .unanswered | .unreachable => .error (sendFailure u)

/-- Reads the body of an answer. -/
def decode {α : Type} (d : Json.Decoder α) (body : String) : Except Failure α :=
  match (Json.parse? body).bind d with
  | some a => .ok a
  | none => .error (httpFailure .unknown "error decoding response body")

/-- A list under `data`, which is empty where it is missing. -/
def listOf {α : Type} (item : Json.Decoder α) : Json.Decoder (List α) :=
  Json.Decoder.record (Json.Reader.withDefault ["data"] (Json.Decoder.list item) [])

def clusterId : Json.Decoder String :=
  Json.Decoder.record (Json.Reader.required ["cluster_id"] Json.Decoder.text)

def partitionId : Json.Decoder Int32 :=
  Json.Decoder.record (Json.Reader.required ["partition_id"] Json.Decoder.int32)

structure TopicData where
  name : String
  isInternal : Bool
  replicationFactor : Int32
  partitionCount : Int32
  operations : Option (List String)
  deriving DecidableEq, Repr

open Json.Reader in
def TopicData.decoder : Json.Decoder TopicData := Json.Decoder.record do
  let name ← required ["topic_name"] Json.Decoder.text
  let isInternal ← withDefault ["is_internal"] Json.Decoder.bool false
  let replicationFactor ← withDefault ["replication_factor"] Json.Decoder.int32 0
  let partitionCount ← withDefault ["partitions_count"] Json.Decoder.int32 0
  let operations ← optional ["authorized_operations"] (Json.Decoder.list Json.Decoder.text)
  return ⟨name, isInternal, replicationFactor, partitionCount, operations⟩

structure ReplicaData where
  broker : Int32
  isLeader : Bool
  inSync : Bool
  deriving DecidableEq, Repr

open Json.Reader in
def ReplicaData.decoder : Json.Decoder ReplicaData := Json.Decoder.record do
  let broker ← required ["broker_id"] Json.Decoder.int32
  let isLeader ← withDefault ["is_leader"] Json.Decoder.bool false
  let inSync ← withDefault ["is_in_sync"] Json.Decoder.bool false
  return ⟨broker, isLeader, inSync⟩

structure ConfigData where
  name : String
  value : Option String
  deriving DecidableEq, Repr

open Json.Reader in
def ConfigData.decoder : Json.Decoder ConfigData := Json.Decoder.record do
  let name ← required ["name"] Json.Decoder.text
  let value ← optional ["value"] Json.Decoder.text
  return ⟨name, value⟩

end ClusterAdmin.Rest
