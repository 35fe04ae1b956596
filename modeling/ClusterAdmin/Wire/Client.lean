import ClusterAdmin.Config.Basic
import ClusterAdmin.Scram.Client
import ClusterAdmin.Target
import ClusterAdmin.Wire.Address
import ClusterAdmin.Wire.Connection
import ClusterAdmin.Wire.Request
import ClusterAdmin.Wire.Response

namespace ClusterAdmin.Wire

/-- A request that was made: on which connection, and by which identifier. -/
structure Asked where
  connection : Nat
  id : Int32
  request : Request
  deriving DecidableEq, Repr

/-- A client with one connection at a time, on which it makes one request after another. -/
structure Client where
  target : Target
  settings : NativeConfig
  network : Network
  /-- The nonce of the login on each connection. -/
  nonce : Nat → String
  /-- The servers that were ever dialed, the latest last. -/
  dialed : List String
  /-- All connections ever made, the latest last. -/
  connections : List Connection
  /-- Which of them serves requests. -/
  current : Option Nat
  connected : Bool
  closed : Bool
  nextId : Int32
  /-- All requests ever made, the latest last. -/
  asked : List Asked

namespace Client

/-- A client that has not connected yet. -/
def make (target : Target) (settings : NativeConfig) (network : Network) (nonce : Nat → String) :
    Client :=
  ⟨target, settings, network, nonce, [], [], none, false, false, 0, []⟩

def isConnected (c : Client) : Bool := !c.closed && c.connected

/-- The server that serves requests now. -/
def broker? (c : Client) : Option String :=
  (c.current.bind fun i => c.connections[i]?).map (·.address)

def closedFailure (c : Client) : Failure :=
  Failure.transient s!"Admin client for {c.target.key.text} has been closed"

def notConnectedFailure (c : Client) : Failure :=
  Failure.transient s!"Not connected to cluster {c.target.key.text}"

def endOfFile (text : String) : Failure := Failure.ofIo ⟨.unexpectedEof, text⟩

/-- What a missing answer means for a request to a server. -/
def exchangeFailure (c : Client) (api : Api) (address : String) : ExchangeFault → Failure
  | .ended => endOfFile "unexpected end of file"
  | .endedWithin => endOfFile "early eof"
  | .socket (.failed e) => Failure.ofIo e
  | .socket .silent => Failure.transient
      s!"{api.name} request to {address} timed out after {c.settings.requestTimeoutMs}ms"
  | .badSize size => Failure.invalid
      s!"Response size {size} outside allowed range (max {c.settings.maxResponseBytes})"

/-- Reads an answer: the identifier of its request first, then the body. More octets are ignored. -/
def readAnswer {α : Type} (api : Api) (id : Int32) (read : Reader α) (frame : Bytes) :
    Except Failure α :=
  match readInt32 frame with
  | .error e => .error (Failure.invalid s!"decode {api.name} response header: {e.message}")
  | .ok (got, body) =>
    if got ≠ id then
      .error (Failure.transient
        s!"Correlation id mismatch for {api.name}: expected {id.toInt}, got {got.toInt}")
    else
      match read body with
      | .error e => .error (Failure.invalid s!"decode {api.name} response: {e.message}")
      | .ok (a, _) => .ok a

/-- Takes the next identifier for a request. Identifiers wrap around. -/
def takeId (c : Client) (i : Nat) (r : Request) : Int32 × Client :=
  (c.nextId, { c with nextId := c.nextId + 1, asked := c.asked ++ [⟨i, c.nextId, r⟩] })

def setConnection (c : Client) (i : Nat) (x : Connection) : Client :=
  { c with connections := c.connections.set i x }

/-- Sends a request on a connection and reads its answer. -/
def roundTrip {α : Type} (c : Client) (i : Nat) (r : Request) (read : Reader α) :
    Except Failure α × Client :=
  let (id, c) := c.takeId i r
  match r.frame id c.settings.clientId, c.connections[i]? with
  | .error f, _ => (.error f, c)
  | .ok _, none => (.error c.notConnectedFailure, c)
  | .ok frame, some x =>
    match x.exchange frame c.settings.maxResponseBytes with
    | (.error e, x) => (.error (c.exchangeFailure r.api x.address e), c.setConnection i x)
    | (.ok answer, x) => (readAnswer r.api id read answer, c.setConnection i x)

/-- The failure that a code stands for during a login, in the words given. -/
def loginFailure (code : Int16) (message : String) : Failure :=
  (Failure.ofBroker? code (some message)).getD (Failure.auth message)

/-- Names the mechanism to the server. -/
def handshake (c : Client) (i : Nat) (m : Mechanism) : Except Failure Unit × Client :=
  match c.roundTrip i (.saslHandshake m.wireName) HandshakeAnswer.read with
  | (.error f, c) => (.error f, c)
  | (.ok a, c) =>
    if a.errorCode = 0 then (.ok (), c)
    else
      let enabled := ", ".intercalate a.mechanisms
      (.error (loginFailure a.errorCode
        s!"{m.wireName} is not enabled on the broker (enabled: {enabled})"), c)

/-- Sends one message of a login and takes the server's. -/
def loginMessage (c : Client) (i : Nat) (payload : Bytes) : Except Failure Bytes × Client :=
  match c.roundTrip i (.saslAuthenticate payload) LoginAnswer.read with
  | (.error f, c) => (.error f, c)
  | (.ok a, c) =>
    if a.errorCode = 0 then (.ok a.payload, c)
    else (.error (loginFailure a.errorCode (a.errorMessage.getD "Authentication failed")), c)

/-- The messages of a SCRAM login. -/
def scramLogin (c : Client) (i : Nat) (s : Scram.Client) : Except Failure Unit × Client :=
  let (first, s) := s.first
  match c.loginMessage i (Bytes.ofText first) with
  | (.error f, c) => (.error f, c)
  | (.ok serverFirst, c) =>
    match s.onServerFirst serverFirst with
    | .error r => (.error r.toFailure, c)
    | .ok (last, s) =>
      match c.loginMessage i (Bytes.ofText last) with
      | (.error f, c) => (.error f, c)
      | (.ok serverFinal, c) =>
        match s.onServerFinal serverFinal with
        | .error r => (.error r.toFailure, c)
        | .ok _ => (.ok (), c)

/-- Logs in on a connection. -/
def authenticate (c : Client) (i : Nat) (s : SaslConfig) : Except Failure Unit × Client :=
  match c.handshake i s.mechanism with
  | (.error f, c) => (.error f, c)
  | (.ok (), c) =>
    match s.mechanism with
    | .plain =>
      match c.loginMessage i s.plainResponse with
      | (.error f, c) => (.error f, c)
      | (.ok _, c) => (.ok (), c)
    | .scramSha256 | .scramSha512 =>
      match Scram.Client.ofConfig s (c.nonce i) with
      | .error f => (.error f, c)
      | .ok scram => c.scramLogin i scram

def dialFailure (c : Client) (address : String) : DialFault → Failure
  | .failed e => (Failure.ofIo e).inContext "connect" address
  | .silent => Failure.transient
      s!"Connection to {address} timed out after {c.settings.connectTimeoutMs}ms"
  | .unusable operation e => (Failure.ofIo e).inContext operation address

/-- The client with one more server dialed. -/
def dialing (c : Client) (address : String) : Client :=
  { c with dialed := c.dialed ++ [address] }

/-- Dials an address if it is one. -/
def dial (c : Client) (address : String) : Except DialFault Peer × Client :=
  match Address.fault? address with
  | some e => (.error (.failed e), c.dialing address)
  | none => (c.network c.dialed address, c.dialing address)

/-- The client with one more connection. -/
def joined (c : Client) (address : String) (peer : Peer) : Client :=
  { c with connections := c.connections ++ [Connection.make address peer] }

/-- Connects to one server and logs in. Gives the connection's number. -/
def openBroker (c : Client) (address : String) : Except Failure Nat × Client :=
  match c.dial address with
  | (.error e, c) => (.error (c.dialFailure address e), c)
  | (.ok peer, c) =>
    let i := c.connections.length
    let c := c.joined address peer
    match c.target.sasl with
    | none => (.ok i, c)
    | some s =>
      match c.authenticate i s with
      | (.error f, c) => (.error f, c)
      | (.ok (), c) => (.ok i, c)

/-- Tries servers in order. A refused login is not tried again elsewhere; other failures are
forgotten but for the last. -/
def openAny (c : Client) : List String → Failure → Except Failure Nat × Client
  | [], last => (.error last, c)
  | address :: rest, _ =>
    match c.openBroker address with
    | (.ok i, c) => (.ok i, c)
    | (.error f, c) => if f.isAuth then (.error f, c) else c.openAny rest f

/-- The client without its connection. -/
def dropped (c : Client) : Client := { c with current := none, connected := false }

def noServersFailure : Failure := Failure.invalid "No bootstrap servers configured"

/-- Gives the present connection up and makes a new one. A closed client stays closed. -/
def reconnect (c : Client) : Except Failure Unit × Client :=
  if c.closed then (.error c.closedFailure, c)
  else
    match c.dropped.openAny c.target.servers noServersFailure with
    | (.error f, c) => (.error f, c)
    | (.ok i, c) => (.ok (), { c with current := some i, connected := true })

/-- A client's first connection. -/
def connect (target : Target) (settings : NativeConfig) (network : Network)
    (nonce : Nat → String) : Except Failure Unit × Client :=
  (make target settings network nonce).reconnect

/-- Gives the connection up for good. -/
def close (c : Client) : Client := { c.dropped with closed := true }

/-- Sends a request on the present connection, which is given up if that fails. -/
def send {α : Type} (c : Client) (r : Request) (read : Reader α) : Except Failure α × Client :=
  if c.closed then (.error c.closedFailure, c)
  else
    match c.current with
    | none => (.error c.notConnectedFailure, c)
    | some i =>
      match c.roundTrip i r read with
      | (.ok a, c) => (.ok a, c)
      | (.error f, c) => (.error f, c.dropped)

/-- Maps the value of a call. -/
def mapResult {α β : Type} (f : α → β) (r : Except Failure α × Client) :
    Except Failure β × Client :=
  (r.1.map f, r.2)

def describeAcls (c : Client) (filter : AclFilter) : Except Failure AclListing × Client :=
  mapResult AclsAnswer.content (c.send (.describeAcls filter) AclsAnswer.read)

def metadata (c : Client) (topics : Option (List String)) :
    Except Failure ClusterMetadata × Client :=
  mapResult MetadataAnswer.content (c.send (.metadata topics) MetadataAnswer.read)

def createTopics (c : Client) (topics : List NewTopic) (validateOnly : Bool) :
    Except Failure (List TopicOutcome) × Client :=
  mapResult CreationAnswer.content
    (c.send (.createTopics topics c.settings.topicOperationTimeoutMs validateOnly)
      CreationAnswer.read)

def deleteTopics (c : Client) (names : List String) :
    Except Failure (List TopicOutcome) × Client :=
  mapResult DeletionAnswer.content
    (c.send (.deleteTopics names c.settings.topicOperationTimeoutMs) DeletionAnswer.read)

end Client

end ClusterAdmin.Wire
