import ClusterAdmin.Bytes
import ClusterAdmin.Credential.Diagnostic
import ClusterAdmin.Failure

namespace ClusterAdmin

inductive Mechanism where
  | plain
  | scramSha256
  | scramSha512
  deriving DecidableEq, Repr

namespace Mechanism

def name : Mechanism → String
  | plain => "plain"
  | scramSha256 => "scram-sha-256"
  | scramSha512 => "scram-sha-512"

/-- The name by which a client asks a broker for the mechanism. -/
def wireName : Mechanism → String
  | plain => "PLAIN"
  | scramSha256 => "SCRAM-SHA-256"
  | scramSha512 => "SCRAM-SHA-512"

def isScram : Mechanism → Bool
  | plain => false
  | scramSha256 | scramSha512 => true

/-- The mechanism of a hash algorithm's name: the longer hash if the ASCII letters and digits of the
name end in `SHA512` in any case, else the shorter one. -/
def ofHashAlgorithm (s : String) : Mechanism :=
  if "SHA512".toList.isSuffixOf (Text.asciiUpper (Text.asciiAlphanumeric s)).toList then scramSha512
  else scramSha256

end Mechanism

/-- A mechanism and who logs in with it. -/
structure SaslConfig where
  mechanism : Mechanism
  username : String
  password : String
  deriving DecidableEq, Repr

namespace SaslConfig

/-- The one message of the PLAIN mechanism. -/
def plainResponse (c : SaslConfig) : Bytes :=
  0 :: Bytes.ofText c.username ++ 0 :: Bytes.ofText c.password

/-- The SASL layer of a login. A login without one needs none, or authenticates by certificate. -/
def ofLogin : Login → Except Failure (Option SaslConfig)
  | .none | .mtls _ => .ok none
  | .basic l => .ok (some ⟨.plain, l.username, l.password⟩)
  | .apiKey l => .ok (some ⟨.plain, l.key, l.secret⟩)
  | .scram l => .ok (some ⟨.ofHashAlgorithm l.hashAlgorithm, l.username, l.password⟩)
  | .kerberos _ => .error (Failure.invalid
      "Kerberos (GSSAPI) authentication is not supported by the native admin client; use the REST proxy backend")
  | .oauth _ => .error (Failure.invalid
      "OAuth (OAUTHBEARER) authentication is not supported by the native admin client; use the REST proxy backend")

def ofCredential (c : Credential) : Except Failure (Option SaslConfig) := ofLogin c.resolved

/-- The layer in a diagnostic, with the password redacted. -/
def diagnostic (c : SaslConfig) : String :=
  let mechanism := match c.mechanism with
    | .plain => "Plain"
    | .scramSha256 => "ScramSha256"
    | .scramSha512 => "ScramSha512"
  Credential.showFields "SaslConfig"
    [("mechanism", mechanism), ("username", Text.quoted c.username),
      ("password", Text.quoted Credential.redacted)] false

end SaslConfig

end ClusterAdmin
