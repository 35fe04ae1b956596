import ClusterAdmin.Json.Record

namespace ClusterAdmin

structure PoolConfig where
  idleTtlSecs : Nat := 300
  reaperIntervalSecs : Nat := 60
  deriving DecidableEq, Repr

structure AclCacheConfig where
  cacheTtlSecs : Nat := 60
  deriving DecidableEq, Repr

structure NativeConfig where
  clientId : String := "streamline-admin"
  connectTimeoutMs : Nat := 10000
  requestTimeoutMs : Nat := 30000
  /-- How long a broker may take over creating or deleting topics. -/
  topicOperationTimeoutMs : Int32 := 30000
  maxResponseBytes : Nat := 104857600
  deriving DecidableEq, Repr

structure HttpConfig where
  requestTimeoutMs : Nat := 30000
  userAgent : String := "streamline-admin/0.3.0"
  deriving DecidableEq, Repr

structure LoggingConfig where
  filter : String := "info,streamline_admin=debug"
  json : Bool := false
  deriving DecidableEq, Repr

structure AdminConfig where
  pool : PoolConfig := {}
  acl : AclCacheConfig := {}
  native : NativeConfig := {}
  http : HttpConfig := {}
  logging : LoggingConfig := {}
  deriving DecidableEq, Repr

namespace PoolConfig

/-- How long a handle may stay unused, in milliseconds. -/
def idleTtlMs (c : PoolConfig) : Nat := 1000 * c.idleTtlSecs

/-- How often unused handles are looked for, in milliseconds: once a second at most. -/
def reaperIntervalMs (c : PoolConfig) : Nat := 1000 * max c.reaperIntervalSecs 1

open Json.Reader in
def decoder : Json.Decoder PoolConfig := Json.Decoder.record do
  let idleTtlSecs ← withDefault ["idle_ttl_secs"] Json.Decoder.nat64 ({} : PoolConfig).idleTtlSecs
  let reaperIntervalSecs ←
    withDefault ["reaper_interval_secs"] Json.Decoder.nat64 ({} : PoolConfig).reaperIntervalSecs
  return { idleTtlSecs, reaperIntervalSecs }

def toFields (c : PoolConfig) : List (String × Json) :=
  [("idle_ttl_secs", .int c.idleTtlSecs), ("reaper_interval_secs", .int c.reaperIntervalSecs)]

end PoolConfig

namespace AclCacheConfig

/-- How long an answer may be used again, in milliseconds. -/
def cacheTtlMs (c : AclCacheConfig) : Nat := 1000 * c.cacheTtlSecs

open Json.Reader in
def decoder : Json.Decoder AclCacheConfig := Json.Decoder.record do
  let cacheTtlSecs ←
    withDefault ["cache_ttl_secs"] Json.Decoder.nat64 ({} : AclCacheConfig).cacheTtlSecs
  return { cacheTtlSecs }

def toFields (c : AclCacheConfig) : List (String × Json) := [("cache_ttl_secs", .int c.cacheTtlSecs)]

end AclCacheConfig

namespace NativeConfig

open Json.Reader in
def decoder : Json.Decoder NativeConfig := Json.Decoder.record do
  let d : NativeConfig := {}
  let clientId ← withDefault ["client_id"] Json.Decoder.text d.clientId
  let connectTimeoutMs ← withDefault ["connect_timeout_ms"] Json.Decoder.nat64 d.connectTimeoutMs
  let requestTimeoutMs ← withDefault ["request_timeout_ms"] Json.Decoder.nat64 d.requestTimeoutMs
  let topicOperationTimeoutMs ←
    withDefault ["topic_operation_timeout_ms"] Json.Decoder.int32 d.topicOperationTimeoutMs
  let maxResponseBytes ← withDefault ["max_response_bytes"] Json.Decoder.nat64 d.maxResponseBytes
  return { clientId, connectTimeoutMs, requestTimeoutMs, topicOperationTimeoutMs, maxResponseBytes }

def toFields (c : NativeConfig) : List (String × Json) :=
  [("client_id", .text c.clientId), ("connect_timeout_ms", .int c.connectTimeoutMs),
    ("request_timeout_ms", .int c.requestTimeoutMs),
    ("topic_operation_timeout_ms", .int c.topicOperationTimeoutMs.toInt),
    ("max_response_bytes", .int c.maxResponseBytes)]

end NativeConfig

namespace HttpConfig

open Json.Reader in
def decoder : Json.Decoder HttpConfig := Json.Decoder.record do
  let d : HttpConfig := {}
  let requestTimeoutMs ← withDefault ["request_timeout_ms"] Json.Decoder.nat64 d.requestTimeoutMs
  let userAgent ← withDefault ["user_agent"] Json.Decoder.text d.userAgent
  return { requestTimeoutMs, userAgent }

def toFields (c : HttpConfig) : List (String × Json) :=
  [("request_timeout_ms", .int c.requestTimeoutMs), ("user_agent", .text c.userAgent)]

end HttpConfig

namespace LoggingConfig

open Json.Reader in
def decoder : Json.Decoder LoggingConfig := Json.Decoder.record do
  let d : LoggingConfig := {}
  let filter ← withDefault ["filter"] Json.Decoder.text d.filter
  let json ← withDefault ["json"] Json.Decoder.bool d.json
  return { filter, json }

def toFields (c : LoggingConfig) : List (String × Json) :=
  [("filter", .text c.filter), ("json", .bool c.json)]

end LoggingConfig

namespace AdminConfig

open Json.Reader in
def decoder : Json.Decoder AdminConfig := Json.Decoder.record do
  let d : AdminConfig := {}
  let pool ← withDefault ["pool"] PoolConfig.decoder d.pool
  let acl ← withDefault ["acl"] AclCacheConfig.decoder d.acl
  let native ← withDefault ["native"] NativeConfig.decoder d.native
  let http ← withDefault ["http"] HttpConfig.decoder d.http
  let logging ← withDefault ["logging"] LoggingConfig.decoder d.logging
  return { pool, acl, native, http, logging }

/-- The sections with their settings, in order. -/
def sections (c : AdminConfig) : List (String × List (String × Json)) :=
  [("pool", c.pool.toFields), ("acl", c.acl.toFields), ("native", c.native.toFields),
    ("http", c.http.toFields), ("logging", c.logging.toFields)]

def toJson (c : AdminConfig) : Json :=
  .object (c.sections.map fun (name, fields) => (name, .object fields))

end AdminConfig

end ClusterAdmin
