import ClusterAdmin.Acl.Evaluation
import ClusterAdmin.Cluster
import ClusterAdmin.Table

namespace ClusterAdmin.Acl

/-- A topic of a cluster. -/
structure TopicKey where
  cluster : ClusterKey
  topic : String
  deriving DecidableEq, Repr

structure CachedAccess where
  access : TopicAccess
  storedAt : Nat
  deriving DecidableEq, Repr

/-- What was looked up and asked so far. -/
structure AccessStats where
  hits : Nat
  misses : Nat
  queries : Nat
  deriving DecidableEq, Repr

structure AccessCache where
  ttlMs : Nat
  entries : Table TopicKey CachedAccess
  stats : AccessStats

namespace AccessCache

def empty (ttlMs : Nat) : AccessCache := ⟨ttlMs, .empty, ⟨0, 0, 0⟩⟩

/-- The remembered answer, if it is young enough. -/
def fresh? (c : AccessCache) (now : Nat) (k : TopicKey) : Option TopicAccess :=
  match c.entries.find? k with
  | some e => if now - e.storedAt < c.ttlMs then some e.access else none
  | none => none

/-- Looks an answer up and counts whether one was there. -/
def lookup (c : AccessCache) (now : Nat) (k : TopicKey) : Option TopicAccess × AccessCache :=
  match c.fresh? now k with
  | some a => (some a, { c with stats := { c.stats with hits := c.stats.hits + 1 } })
  | none => (none, { c with stats := { c.stats with misses := c.stats.misses + 1 } })

def countQuery (c : AccessCache) : AccessCache :=
  { c with stats := { c.stats with queries := c.stats.queries + 1 } }

def store (c : AccessCache) (now : Nat) (k : TopicKey) (a : TopicAccess) : AccessCache :=
  { c with entries := c.entries.insert k ⟨a, now⟩ }

def clearCluster (c : AccessCache) (k : ClusterKey) : AccessCache :=
  { c with entries := c.entries.filter fun t _ => t.cluster ≠ k }

def clearConnection (c : AccessCache) (id : String) : AccessCache :=
  { c with entries := c.entries.filter fun t _ => t.cluster.connectionId ≠ id }

def clear (c : AccessCache) : AccessCache := { c with entries := .empty }

end AccessCache

end ClusterAdmin.Acl
