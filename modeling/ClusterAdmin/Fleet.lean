import ClusterAdmin.Acl.Basic
import ClusterAdmin.Metadata
import ClusterAdmin.Target

namespace ClusterAdmin

/-- An open or closed handle on one cluster. -/
structure Handle where
  /-- The cluster it was opened for. -/
  key : ClusterKey
  connected : Bool
  closed : Bool
  /-- What reconnecting fails with, if it does. -/
  reconnectFault : Option Failure
  deriving DecidableEq, Repr

/-- Something asked of a cluster or done to a handle. -/
inductive Request where
  | connect (target : Target)
  | reconnect (handle : Nat)
  | close (handle : Nat)
  | describeAcls (handle : Nat) (filter : AclFilter)
  | metadata (handle : Nat) (topics : Option (List String))
  | createTopics (handle : Nat) (topics : List NewTopic) (validateOnly : Bool)
  | deleteTopics (handle : Nat) (names : List String)
  deriving DecidableEq, Repr

/-- All handles ever made, numbered from zero, and what brokers will answer: a list of prepared
answers for each kind of request. -/
structure Fleet where
  handles : List Handle
  /-- How the next connections end: with a failure, or well. -/
  connects : List (Option Failure)
  describes : List (Except Failure AclListing)
  metadatas : List (Except Failure ClusterMetadata)
  creations : List (Except Failure (List TopicOutcome))
  deletions : List (Except Failure (List TopicOutcome))
  /-- What was asked, the latest last. -/
  log : List Request

namespace Fleet

def empty : Fleet := ⟨[], [], [], [], [], [], []⟩

def record (f : Fleet) (r : Request) : Fleet := { f with log := f.log ++ [r] }

/-- Changes one handle. -/
def update (f : Fleet) (h : Nat) (change : Handle → Handle) : Fleet :=
  { f with handles := f.handles.modify h change }

/-- Whether a handle believes its connection usable. -/
def isUp (f : Fleet) (h : Nat) : Bool :=
  match f.handles[h]? with
  | some x => x.connected && !x.closed
  | none => false

/-- Takes the next prepared end of a connection that is being opened. Success makes a new handle. -/
def accept (f : Fleet) (t : Target) : Except Failure Nat × Fleet :=
  match f.connects with
  | some e :: rest => (.error e, { f with connects := rest })
  | none :: rest =>
    (.ok f.handles.length,
      { f with connects := rest, handles := f.handles ++ [⟨t.key, true, false, none⟩] })
  | [] => (.ok f.handles.length, { f with handles := f.handles ++ [⟨t.key, true, false, none⟩] })

/-- Opens a connection. -/
def connect (f : Fleet) (t : Target) : Except Failure Nat × Fleet :=
  (f.record (.connect t)).accept t

/-- How reconnecting a handle ends. -/
def reaccept (f : Fleet) (h : Nat) : Except Failure Unit × Fleet :=
  match (f.handles[h]?).bind (·.reconnectFault) with
  | some e => (.error e, f)
  | none => (.ok (), f.update h fun x => { x with connected := true })

def reconnect (f : Fleet) (h : Nat) : Except Failure Unit × Fleet :=
  (f.record (.reconnect h)).reaccept h

def close (f : Fleet) (h : Nat) : Fleet :=
  (f.record (.close h)).update h fun x => { x with connected := false, closed := true }

/-- The connection of a handle breaks off. -/
def drop (f : Fleet) (h : Nat) : Fleet := f.update h fun x => { x with connected := false }

/-- Settles what reconnecting a handle will fail with, if it is to. -/
def setReconnectFault (f : Fleet) (h : Nat) (fault : Option Failure) : Fleet :=
  f.update h fun x => { x with reconnectFault := fault }

def describeAcls (f : Fleet) (h : Nat) (filter : AclFilter) : Except Failure AclListing × Fleet :=
  let f := f.record (.describeAcls h filter)
  match f.describes with
  | a :: rest => (a, { f with describes := rest })
  | [] => (.ok ⟨0, none, []⟩, f)

def metadata (f : Fleet) (h : Nat) (topics : Option (List String)) :
    Except Failure ClusterMetadata × Fleet :=
  let f := f.record (.metadata h topics)
  match f.metadatas with
  | a :: rest => (a, { f with metadatas := rest })
  | [] => (.ok ⟨none, -1, [], []⟩, f)

def createTopics (f : Fleet) (h : Nat) (topics : List NewTopic) (validateOnly : Bool) :
    Except Failure (List TopicOutcome) × Fleet :=
  let f := f.record (.createTopics h topics validateOnly)
  match f.creations with
  | a :: rest => (a, { f with creations := rest })
  | [] => (.ok [], f)

def deleteTopics (f : Fleet) (h : Nat) (names : List String) :
    Except Failure (List TopicOutcome) × Fleet :=
  let f := f.record (.deleteTopics h names)
  match f.deletions with
  | a :: rest => (a, { f with deletions := rest })
  | [] => (.ok [], f)

end Fleet

end ClusterAdmin
