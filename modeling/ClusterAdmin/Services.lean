import ClusterAdmin.Acl.Cache
import ClusterAdmin.Pool.Overlap
import ClusterAdmin.Rest.Exchange

namespace ClusterAdmin

/-- The services of one process. -/
structure Services where
  reaperIntervalMs : Nat
  pool : Pool
  access : Acl.AccessCache
  session : CloudSession
  web : Rest.Web
  /-- By which identifier a local proxy knows a cluster. -/
  proxyIds : Table String String

namespace Services

/-- Services that have done nothing yet. The HTTP client must be one that can be made. -/
def start (config : AdminConfig) (store : ConnectionStore) (session : CloudSession) (fleet : Fleet)
    (web : Rest.Web) : Except Failure Services := do
  Rest.checkAgent config.http
  return {
    reaperIntervalMs := config.pool.reaperIntervalMs
    pool := Pool.start config.pool store fleet
    access := Acl.AccessCache.empty config.acl.cacheTtlMs
    session
    web
    proxyIds := .empty }

def now (s : Services) : Nat := s.pool.now

/-- Drops all that is kept for one connection. -/
def forgetConnection (s : Services) (id : String) : Services :=
  { s with pool := s.pool.invalidateConnection id, access := s.access.clearConnection id }

/-- Forgets what was learnt from proxies. -/
def resetProxies (s : Services) : Services := { s with proxyIds := .empty }

def dispose (s : Services) : Services :=
  { s with pool := s.pool.dispose, access := s.access.clear, proxyIds := .empty }

def setNow (s : Services) (now : Nat) : Services := { s with pool := { s.pool with now } }

def reapIdle (s : Services) : Services := { s with pool := s.pool.reapIdle.2 }

/-- Lets time pass. If the reaper is due by then, it runs once, unless the pool is disposed. -/
def advance (s : Services) (ms : Nat) : Services :=
  let later := s.setNow (s.now + ms)
  if !s.pool.disposed && s.now / s.reaperIntervalMs < later.now / s.reaperIntervalMs then
    later.reapIdle
  else later

end Services

end ClusterAdmin
