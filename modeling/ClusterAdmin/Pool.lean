import ClusterAdmin.Config.Basic
import ClusterAdmin.Fleet

namespace ClusterAdmin

/-- A handle that the pool keeps. -/
structure PooledHandle where
  handle : Nat
  lastUsed : Nat
  /-- Cleared when a request on the handle has failed. -/
  connected : Bool
  deriving DecidableEq, Repr

/-- What the pool has done so far. -/
structure PoolStats where
  opened : Nat
  reused : Nat
  reconnected : Nat
  evicted : Nat
  openFailures : Nat
  deriving DecidableEq, Repr

/-- All of a pool but its slots. -/
structure PoolCore where
  idleTtlMs : Nat
  /-- The clock, in milliseconds. -/
  now : Nat
  store : ConnectionStore
  fleet : Fleet
  stats : PoolStats
  disposed : Bool

/-- The slot of a cluster that was asked for holds its handle, or nothing if none is open. -/
structure Pool extends PoolCore where
  slots : Table ClusterKey (Option PooledHandle)

namespace PoolCore

def disposedFailure : Failure := Failure.invalid "Admin connection pool has been disposed"

def cloudFailure (c : Cluster) : Failure := Failure.invalid
  s!"Cluster {c.clusterId} is cloud-managed; use the REST proxy backend instead of a native admin connection"

def openFailure (c : Cluster) (f : Failure) : Failure :=
  f.inContext "open admin connection" c.key.text

/-- Why a call for a handle is turned away at once. -/
def refusal? (p : PoolCore) (c : Cluster) : Option Failure :=
  if p.disposed then some disposedFailure
  else if c.connectionType = .cloudManaged then some (cloudFailure c)
  else none

/-- Whether a kept handle can be handed out as it is. -/
def isUsable (p : PoolCore) (e : PooledHandle) : Bool := e.connected && p.fleet.isUp e.handle

/-- Whether a slot is empty or its handle has been idle for more than the allowed time. -/
def isIdle (p : PoolCore) : Option PooledHandle → Bool
  | none => true
  | some e => p.idleTtlMs < p.now - e.lastUsed

def countOpened (p : PoolCore) : PoolCore :=
  { p with stats := { p.stats with opened := p.stats.opened + 1 } }

def countReused (p : PoolCore) : PoolCore :=
  { p with stats := { p.stats with reused := p.stats.reused + 1 } }

def countReconnected (p : PoolCore) : PoolCore :=
  { p with stats := { p.stats with reconnected := p.stats.reconnected + 1 } }

def countEvicted (p : PoolCore) : PoolCore :=
  { p with stats := { p.stats with evicted := p.stats.evicted + 1 } }

def countOpenFailure (p : PoolCore) : PoolCore :=
  { p with stats := { p.stats with openFailures := p.stats.openFailures + 1 } }

end PoolCore

namespace Pool

def start (config : PoolConfig) (store : ConnectionStore) (fleet : Fleet) : Pool where
  idleTtlMs := config.idleTtlMs
  now := 0
  store := store
  fleet := fleet
  stats := ⟨0, 0, 0, 0, 0⟩
  disposed := false
  slots := .empty

def setSlot (p : Pool) (k : ClusterKey) (s : Option PooledHandle) : Pool :=
  { p with slots := p.slots.insert k s }

def dropSlot (p : Pool) (k : ClusterKey) : Pool := { p with slots := p.slots.erase k }

/-- What a cluster's slot holds. -/
def held (p : Pool) (k : ClusterKey) : Option PooledHandle := (p.slots.find? k).join

/-- Hands out a handle that is up, at the present time. -/
def reuse (p : Pool) (k : ClusterKey) (e : PooledHandle) : Pool :=
  { p with toPoolCore := p.countReused }.setSlot k (some { e with lastUsed := p.now })

/-- Hands out a handle that has just been reconnected. -/
def restore (p : Pool) (k : ClusterKey) (e : PooledHandle) : Pool :=
  { p with toPoolCore := p.countReconnected }.setSlot k
    (some { e with lastUsed := p.now, connected := true })

/-- Keeps a handle that has just been opened. -/
def keep (p : Pool) (k : ClusterKey) (h : Nat) : Pool :=
  { p with toPoolCore := p.countOpened }.setSlot k (some ⟨h, p.now, true⟩)

/-- Closes a handle and leaves its slot empty. -/
def discard (p : Pool) (k : ClusterKey) (e : PooledHandle) : Pool :=
  { p with toPoolCore := { p.countEvicted with fleet := p.fleet.close e.handle } }.setSlot k none

/-- Opens a handle into the empty slot of a cluster. -/
def openInto (p : Pool) (c : Cluster) : Except Failure Nat × Pool :=
  match Target.ofCluster p.store c with
  | .error f => (.error f, p)
  | .ok target =>
    match p.fleet.connect target with
    | (.error f, fleet) =>
      (.error (PoolCore.openFailure c f),
        { p with toPoolCore := { p.countOpenFailure with fleet } })
    | (.ok h, fleet) => (.ok h, { p with fleet }.keep c.key h)

/-- A handle for a cluster: the one at hand if it is up or can be reconnected, else a new one. -/
def getHandle (p : Pool) (c : Cluster) : Except Failure Nat × Pool :=
  match p.refusal? c with
  | some f => (.error f, p)
  | none =>
    match p.held c.key with
    | none => (p.setSlot c.key none).openInto c
    | some e =>
      if p.isUsable e then (.ok e.handle, p.reuse c.key e)
      else
        match p.fleet.reconnect e.handle with
        | (.ok (), fleet) => (.ok e.handle, { p with fleet }.restore c.key e)
        | (.error _, fleet) => ({ p with fleet }.discard c.key e).openInto c

/-- Notes that a request on the cluster's handle has failed, so that it is not simply reused. -/
def markDisconnected (p : Pool) (c : Cluster) : Pool :=
  match p.held c.key with
  | some e => p.setSlot c.key (some { e with connected := false })
  | none => p

/-- Closes the handle in a slot, if there is one, and drops the slot. -/
def evict (p : Pool) (k : ClusterKey) : Pool :=
  match p.held k with
  | some e => (p.discard k e).dropSlot k
  | none => p.dropSlot k

def evictAll (p : Pool) (ks : List ClusterKey) : Pool := ks.foldl evict p

def invalidateCluster (p : Pool) (c : Cluster) : Pool := p.evict c.key

def invalidateConnection (p : Pool) (id : String) : Pool :=
  p.evictAll (p.slots.keys.filter (·.connectionId = id))

/-- Drops the idle slots. Says how many handles were closed. -/
def reapIdle (p : Pool) : Nat × Pool :=
  let idle := p.slots.entries.filter fun e => p.isIdle e.2
  ((idle.filter (·.2.isSome)).length, p.evictAll (idle.map (·.1)))

/-- Closes everything for good. A second time does nothing. -/
def dispose (p : Pool) : Pool :=
  if p.disposed then p else { p with disposed := true }.evictAll p.slots.keys

/-- How many handles are kept. -/
def openCount (p : Pool) : Nat := (p.slots.values.filter Option.isSome).length

end Pool

end ClusterAdmin
