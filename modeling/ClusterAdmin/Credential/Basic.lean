import ClusterAdmin.Credential.Kind
import ClusterAdmin.Json.Basic

namespace ClusterAdmin

structure BasicLogin where
  username : String
  password : String
  deriving DecidableEq, Repr

structure ApiKeyLogin where
  key : String
  secret : String
  deriving DecidableEq, Repr

structure ScramLogin where
  hashAlgorithm : String
  username : String
  password : String
  deriving DecidableEq, Repr

/-- The keystore of a client certificate. -/
structure MtlsLogin where
  keystorePath : String
  keystorePassword : Option String
  keystoreType : Option String
  /-- Where the private key is, if not in the keystore. -/
  keyPath : Option String
  truststorePath : Option String
  deriving DecidableEq, Repr

structure OAuthLogin where
  tokensUrl : String
  clientId : String
  clientSecret : Option String
  scope : Option String
  deriving DecidableEq, Repr

structure KerberosLogin where
  principal : String
  keytabPath : String
  serviceName : Option String
  deriving DecidableEq, Repr

inductive Login where
  | none
  | basic (login : BasicLogin)
  | apiKey (login : ApiKeyLogin)
  | scram (login : ScramLogin)
  | mtls (login : MtlsLogin)
  | oauth (login : OAuthLogin)
  | kerberos (login : KerberosLogin)
  deriving DecidableEq, Repr

def Login.kind : Login → AuthKind
  | .none => .none
  | .basic _ => .basic
  | .apiKey _ => .apiKey
  | .scram _ => .scram
  | .mtls _ => .mtls
  | .oauth _ => .oauth
  | .kerberos _ => .kerberos

/-- The fields of a record whose shape is not trusted. -/
structure LegacyRecord where
  fields : List (String × Json)
  deriving DecidableEq, Repr

inductive Credential where
  | login (login : Login)
  | legacy (record : LegacyRecord)
  deriving DecidableEq, Repr

namespace FieldNames

def username : List String := ["username"]
def password : List String := ["password"]
def apiKey : List String := ["apiKey", "api_key"]
def apiSecret : List String := ["apiSecret", "api_secret"]
def hashAlgorithm : List String := ["hashAlgorithm", "hash_algorithm"]
def scramUsername : List String := ["username", "scramUsername", "scram_username"]
def scramPassword : List String := ["password", "scramPassword", "scram_password"]
/-- The names that only a SCRAM login has. -/
def scramOnly : List String :=
  ["scramUsername", "scram_username", "scramPassword", "scram_password"]
def keystorePath : List String := ["keystorePath", "keystore_path"]
def keystorePassword : List String := ["keystorePassword", "keystore_password"]
def keystoreType : List String := ["keystoreType", "keystore_type"]
def keyPath : List String := ["keyPath", "key_path"]
def truststorePath : List String := ["truststorePath", "truststore_path"]
def tokensUrl : List String := ["tokensUrl", "tokens_url", "tokenEndpoint", "token_endpoint"]
def clientId : List String := ["clientId", "client_id"]
def clientSecret : List String := ["clientSecret", "client_secret"]
def scope : List String := ["scope"]
def principal : List String := ["principal"]
def keytabPath : List String := ["keytabPath", "keytab_path"]
def serviceName : List String := ["serviceName", "service_name"]

end FieldNames

/-- The kind that a record names under `type`, if it names one. -/
def AuthKind.named? (fields : List (String × Json)) : Option AuthKind :=
  ((Json.lookup fields "type").bind Json.text?).bind AuthKind.ofDiscriminator?

namespace LegacyRecord

/-- Whether a field is there and not null. -/
def has (r : LegacyRecord) (name : String) : Bool :=
  match Json.lookup r.fields name with
  | some .null | none => false
  | some _ => true

def hasAny (r : LegacyRecord) (names : List String) : Bool := names.any r.has

/-- The first text among the named fields that is not empty. -/
def text? (r : LegacyRecord) (names : List String) : Option String :=
  (names.filterMap fun n => (Json.lookup r.fields n).bind Json.text?).find? (!·.isEmpty)

def textOrEmpty (r : LegacyRecord) (names : List String) : String := (r.text? names).getD ""

/-- The kind the record names, or else the first that its fields suffice for. -/
def kind (r : LegacyRecord) : AuthKind :=
  match AuthKind.named? r.fields with
  | some k => k
  | none =>
    if r.hasAny FieldNames.apiKey && r.hasAny FieldNames.apiSecret then .apiKey
    else if r.has "username" && r.has "password" && !r.hasAny FieldNames.hashAlgorithm then .basic
    else if r.hasAny FieldNames.hashAlgorithm || r.hasAny FieldNames.scramOnly then .scram
    else if r.hasAny FieldNames.tokensUrl && r.hasAny FieldNames.clientId then .oauth
    else if r.has "principal" && r.hasAny FieldNames.keytabPath then .kerberos
    else .none

/-- The login of the record's kind, each field the first text found under its names. -/
def toLogin (r : LegacyRecord) : Login :=
  match r.kind with
  | .none => .none
  | .basic => .basic ⟨r.textOrEmpty FieldNames.username, r.textOrEmpty FieldNames.password⟩
  | .apiKey => .apiKey ⟨r.textOrEmpty FieldNames.apiKey, r.textOrEmpty FieldNames.apiSecret⟩
  | .scram =>
    .scram ⟨r.textOrEmpty FieldNames.hashAlgorithm, r.textOrEmpty FieldNames.scramUsername,
      r.textOrEmpty FieldNames.scramPassword⟩
  | .mtls =>
    .mtls ⟨r.textOrEmpty FieldNames.keystorePath, r.text? FieldNames.keystorePassword,
      r.text? FieldNames.keystoreType, r.text? FieldNames.keyPath,
      r.text? FieldNames.truststorePath⟩
  | .oauth =>
    .oauth ⟨r.textOrEmpty FieldNames.tokensUrl, r.textOrEmpty FieldNames.clientId,
      r.text? FieldNames.clientSecret, r.text? FieldNames.scope⟩
  | .kerberos =>
    .kerberos ⟨r.textOrEmpty FieldNames.principal, r.textOrEmpty FieldNames.keytabPath,
      r.text? FieldNames.serviceName⟩

/-- The login that a record yields is of the record's kind. -/
theorem kind_toLogin (r : LegacyRecord) : r.toLogin.kind = r.kind := by
  unfold toLogin
  cases r.kind <;> rfl

end LegacyRecord

namespace Credential

/-- No authentication. -/
def none : Credential := .login .none

def kind : Credential → AuthKind
  | .login l => l.kind
  | .legacy r => r.kind

/-- The login that the credential stands for, whichever way it was stored. -/
def resolved : Credential → Login
  | .login l => l
  | .legacy r => r.toLogin

theorem kind_resolved (c : Credential) : c.resolved.kind = c.kind := by
  cases c with
  | login l => rfl
  | legacy r => exact r.kind_toLogin

/-- The kind of credential that a value holds, judged without decoding it. -/
def classify : Json → AuthKind
  | .object fields => LegacyRecord.kind ⟨fields⟩
  | _ => .none

end Credential

end ClusterAdmin
