import ClusterAdmin.Pool

namespace ClusterAdmin.Pool

/-- A slot and its lock. Only the call that holds the lock reads or writes the content. -/
structure Slot where
  content : Option PooledHandle
  holder : Option Nat
  /-- The calls that wait for the lock, the first to come first. -/
  waiting : List Nat
  deriving DecidableEq, Repr

namespace Slot

/-- A call asks for the lock and has it at once if it is free. -/
def request (i : Nat) (s : Slot) : Slot :=
  match s.holder with
  | none => { s with holder := some i }
  | some _ => { s with waiting := s.waiting ++ [i] }

/-- The lock goes to the call that has waited longest. -/
def release (s : Slot) : Slot := { s with holder := s.waiting.head?, waiting := s.waiting.tail }

end Slot

/-- How far a call for a handle has come. Slots are named by their number. -/
inductive GetStage where
  | asked
  | waiting (slot : Nat)
  | reconnecting (slot : Nat)
  | closing (slot : Nat)
  /-- The slot is empty and the cluster's stored connection is to be read. -/
  | reading (slot : Nat)
  | connecting (slot : Nat) (target : Target)
  | done (result : Except Failure Nat)

/-- How far a call that drops slots has come with the first of them. -/
inductive EvictStage where
  | next
  | waiting (slot : Nat)
  | closing (slot : Nat)

inductive MarkStage where
  | asked
  | waiting (slot : Nat)
  | done

/-- How far a search for idle handles has come: the slots still to look at, and how many handles
were closed. -/
inductive ReapStage where
  | asked
  | looking (left : List (ClusterKey × Nat)) (closed : Nat)
  | closing (key : ClusterKey) (slot : Nat) (left : List (ClusterKey × Nat)) (closed : Nat)

inductive Call where
  | get (cluster : Cluster) (stage : GetStage)
  | mark (cluster : Cluster) (stage : MarkStage)
  | evict (keys : List ClusterKey) (stage : EvictStage)
  | invalidateConnection (id : String)
  | dispose
  | reap (stage : ReapStage)

def Call.isDone : Call → Bool
  | .get _ (.done _) | .mark _ .done | .evict [] _ | .reap (.looking [] _) => true
  | _ => false

def Call.isConnecting : Call → Bool
  | .get _ (.connecting _ _) => true
  | _ => false

def Call.result? : Call → Option (Except Failure Nat)
  | .get _ (.done r) => some r
  | _ => none

/-- A pool under overlapping calls. A slot keeps its number also when its cluster gets another. -/
structure Overlap extends PoolCore where
  slots : List Slot
  /-- The number of each cluster's slot. -/
  current : Table ClusterKey Nat
  /-- The calls, named by their position. -/
  calls : List Call

namespace Overlap

/-- A pool with no call in progress. -/
def ofPool (p : Pool) : Overlap where
  toPoolCore := p.toPoolCore
  slots := p.slots.values.map fun content => (⟨content, none, []⟩ : Slot)
  current := Table.ofList (p.slots.keys.zipIdx)
  calls := []

def content (o : Overlap) (s : Nat) : Option PooledHandle := (o.slots[s]?).bind (·.content)

/-- The pool as calls that come one after another see it. -/
def toPool (o : Overlap) : Pool :=
  { toPoolCore := o.toPoolCore, slots := o.current.mapValues fun _ s => o.content s }

def setCall (o : Overlap) (i : Nat) (c : Call) : Overlap := { o with calls := o.calls.set i c }

def setCore (o : Overlap) (core : PoolCore) : Overlap := { o with toPoolCore := core }

def update (o : Overlap) (s : Nat) (change : Slot → Slot) : Overlap :=
  { o with slots := o.slots.modify s change }

def fill (o : Overlap) (s : Nat) (content : Option PooledHandle) : Overlap :=
  o.update s fun x => { x with content }

def release (o : Overlap) (s : Nat) : Overlap := o.update s Slot.release

def holds (o : Overlap) (i s : Nat) : Bool := (o.slots[s]?).bind (·.holder) = some i

/-- Drops a slot unless its cluster has another one by now. -/
def forget (o : Overlap) (k : ClusterKey) (s : Nat) : Overlap :=
  if o.current.find? k = some s then { o with current := o.current.erase k } else o

/-- Ends a call for a handle and gives the lock away. -/
def finish (o : Overlap) (i s : Nat) (c : Cluster) (r : Except Failure Nat) : Overlap :=
  (o.release s).setCall i (.get c (.done r))

/-- Asks for the lock of the cluster's slot, of a new one if it has none. -/
def claim (o : Overlap) (i : Nat) (c : Cluster) : Overlap :=
  match o.current.find? c.key with
  | some s => (o.update s (Slot.request i)).setCall i (.get c (.waiting s))
  | none =>
    let s := o.slots.length
    let fresh : Slot := ⟨none, some i, []⟩
    { o with slots := o.slots ++ [fresh], current := o.current.insert c.key s }.setCall i
      (.get c (.waiting s))

/-- What a call for a handle does once it has the lock. -/
def serve (o : Overlap) (i s : Nat) (c : Cluster) : Overlap :=
  if o.current.find? c.key ≠ some s then (o.release s).claim i c
  else if o.disposed then o.finish i s c (.error PoolCore.disposedFailure)
  else
    match o.content s with
    | none => o.setCall i (.get c (.reading s))
    | some e =>
      if o.isUsable e then
        ((o.setCore o.countReused).fill s (some { e with lastUsed := o.now })).finish i s c
          (.ok e.handle)
      else
        (({ o with fleet := o.fleet.record (.reconnect e.handle) }).fill s
          (some { e with connected := false })).setCall i (.get c (.reconnecting s))

def stepGet (o : Overlap) (i : Nat) (c : Cluster) : GetStage → Option Overlap
  | .asked =>
    match o.refusal? c with
    | some f => some (o.setCall i (.get c (.done (.error f))))
    | none => some (o.claim i c)
  | .waiting s => if o.holds i s then some (o.serve i s c) else none
  | .reconnecting s =>
    match o.content s with
    | none => none
    | some e =>
      match o.fleet.reaccept e.handle with
      | (.ok (), fleet) =>
        some (((o.setCore { o.countReconnected with fleet }).fill s
          (some { e with lastUsed := o.now, connected := true })).finish i s c (.ok e.handle))
      | (.error _, fleet) =>
        some ({ o with fleet := fleet.close e.handle }.setCall i (.get c (.closing s)))
  | .closing s =>
    some (((o.setCore o.countEvicted).fill s none).setCall i (.get c (.reading s)))
  | .reading s =>
    match Target.ofCluster o.store c with
    | .error f => some (o.finish i s c (.error f))
    | .ok t =>
      some ({ o with fleet := o.fleet.record (.connect t) }.setCall i (.get c (.connecting s t)))
  | .connecting s t =>
    match o.fleet.accept t with
    | (.error f, fleet) =>
      some ((o.setCore { o.countOpenFailure with fleet }).finish i s c
        (.error (PoolCore.openFailure c f)))
    | (.ok h, fleet) =>
      some (((o.setCore { o.countOpened with fleet }).fill s (some ⟨h, o.now, true⟩)).finish i s c
        (.ok h))
  | .done _ => none

def stepMark (o : Overlap) (i : Nat) (c : Cluster) : MarkStage → Option Overlap
  | .asked =>
    match o.current.find? c.key with
    | none => some (o.setCall i (.mark c .done))
    | some s => some ((o.update s (Slot.request i)).setCall i (.mark c (.waiting s)))
  | .waiting s =>
    if o.holds i s then
      let o := match o.content s with
        | some e => o.fill s (some { e with connected := false })
        | none => o
      some ((o.release s).setCall i (.mark c .done))
    else none
  | .done => none

def stepEvict (o : Overlap) (i : Nat) : List ClusterKey → EvictStage → Option Overlap
  | [], _ => none
  | k :: ks, .next =>
    match o.current.find? k with
    | none => some (o.setCall i (.evict ks .next))
    | some s => some ((o.update s (Slot.request i)).setCall i (.evict (k :: ks) (.waiting s)))
  | k :: ks, .waiting s =>
    if o.holds i s then
      match o.content s with
      | some e =>
        some (({ o with fleet := o.fleet.close e.handle }.fill s none).setCall i
          (.evict (k :: ks) (.closing s)))
      | none => some (((o.forget k s).release s).setCall i (.evict ks .next))
    else none
  | k :: ks, .closing s =>
    some ((((o.setCore o.countEvicted).forget k s).release s).setCall i (.evict ks .next))

def stepReap (o : Overlap) (i : Nat) : ReapStage → Option Overlap
  | .asked => some (o.setCall i (.reap (.looking o.current.entries 0)))
  | .looking [] _ => none
  | .looking ((k, s) :: left) closed =>
    if (o.slots[s]?).any (·.holder.isSome) || !o.isIdle (o.content s) then
      some (o.setCall i (.reap (.looking left closed)))
    else
      match o.content s with
      | some e =>
        some (((({ o with fleet := o.fleet.close e.handle }).update s (Slot.request i)).fill s
          none).setCall i (.reap (.closing k s left closed)))
      | none => some ((o.forget k s).setCall i (.reap (.looking left closed)))
  | .closing k s left closed =>
    some ((((o.setCore o.countEvicted).forget k s).release s).setCall i
      (.reap (.looking left (closed + 1))))

/-- One step of a call, if it has not ended and does not wait for a lock. -/
def step (o : Overlap) (i : Nat) : Option Overlap :=
  match o.calls[i]? with
  | none => none
  | some (.get c stage) => o.stepGet i c stage
  | some (.mark c stage) => o.stepMark i c stage
  | some (.evict ks stage) => o.stepEvict i ks stage
  | some (.invalidateConnection id) =>
    some (o.setCall i (.evict (o.current.keys.filter (·.connectionId = id)) .next))
  | some .dispose =>
    if o.disposed then some (o.setCall i (.evict [] .next))
    else some ({ o with disposed := true }.setCall i (.evict o.current.keys .next))
  | some (.reap stage) => o.stepReap i stage

def isConnecting (o : Overlap) (i : Nat) : Bool := (o.calls[i]?).any Call.isConnecting

def isDone (o : Overlap) (i : Nat) : Bool := (o.calls[i]?).any Call.isDone

/-- Takes up to `n` steps of a call. It stops where the call ends or waits, and where it has just
begun to connect. -/
def run (o : Overlap) (i : Nat) : Nat → Overlap
  | 0 => o
  | n + 1 =>
    match o.step i with
    | none => o
    | some o => if o.isConnecting i then o else o.run i n

/-- More steps than a call for a handle can take in one go, while no slot is dropped. -/
def turnLength : Nat := 8

/-- One turn of each call, in order. -/
def pass (o : Overlap) (calls : List Nat) : Overlap :=
  calls.foldl (fun o i => o.run i turnLength) o

def passes (o : Overlap) (calls : List Nat) : Nat → Overlap
  | 0 => o
  | n + 1 => if calls.all o.isDone then o else (o.pass calls).passes calls n

end Overlap

/-- Handles for clusters that are asked for together. The calls take turns in order; one that
connects has its answer in its next turn. Each pass after the first ends one call at least. -/
def getHandles (p : Pool) (cs : List Cluster) : List (Option (Except Failure Nat)) × Pool :=
  let o : Overlap := { Overlap.ofPool p with calls := cs.map (.get · .asked) }
  let o := o.passes (List.range cs.length) (cs.length + 1)
  (o.calls.map Call.result?, o.toPool)

end ClusterAdmin.Pool
