import ClusterAdmin.Credential.Basic
import ClusterAdmin.Json.Record

namespace ClusterAdmin

namespace Login

open Json.Reader in
/-- The reader of the fields of one kind. -/
def reader : AuthKind → Json.Reader Login
  | .none => pure .none
  | .basic => do
    let username ← withDefault FieldNames.username Json.Decoder.text ""
    let password ← withDefault FieldNames.password Json.Decoder.text ""
    return .basic ⟨username, password⟩
  | .apiKey => do
    let key ← withDefault FieldNames.apiKey Json.Decoder.text ""
    let secret ← withDefault FieldNames.apiSecret Json.Decoder.text ""
    return .apiKey ⟨key, secret⟩
  | .scram => do
    let hashAlgorithm ← withDefault FieldNames.hashAlgorithm Json.Decoder.text ""
    let username ← withDefault FieldNames.scramUsername Json.Decoder.text ""
    let password ← withDefault FieldNames.scramPassword Json.Decoder.text ""
    return .scram ⟨hashAlgorithm, username, password⟩
  | .mtls => do
    let keystorePath ← withDefault FieldNames.keystorePath Json.Decoder.text ""
    let keystorePassword ← optional FieldNames.keystorePassword Json.Decoder.text
    let keystoreType ← optional FieldNames.keystoreType Json.Decoder.text
    let keyPath ← optional FieldNames.keyPath Json.Decoder.text
    let truststorePath ← optional FieldNames.truststorePath Json.Decoder.text
    return .mtls ⟨keystorePath, keystorePassword, keystoreType, keyPath, truststorePath⟩
  | .oauth => do
    let tokensUrl ← withDefault FieldNames.tokensUrl Json.Decoder.text ""
    let clientId ← withDefault FieldNames.clientId Json.Decoder.text ""
    let clientSecret ← optional FieldNames.clientSecret Json.Decoder.text
    let scope ← optional FieldNames.scope Json.Decoder.text
    return .oauth ⟨tokensUrl, clientId, clientSecret, scope⟩
  | .kerberos => do
    let principal ← withDefault FieldNames.principal Json.Decoder.text ""
    let keytabPath ← withDefault FieldNames.keytabPath Json.Decoder.text ""
    let serviceName ← optional FieldNames.serviceName Json.Decoder.text
    return .kerberos ⟨principal, keytabPath, serviceName⟩

/-- The login of a kind, from the fields of a record less its discriminator. -/
def ofFields? (kind : AuthKind) (fields : List (String × Json)) : Option Login :=
  ((reader kind).run (.fields (fields.filter (·.1 ≠ "type")))).map (·.1)

/-- A field that is written only if it is there. -/
def optionalField (name : String) : Option String → List (String × Json)
  | .none => []
  | .some s => [(name, .text s)]

/-- The fields of a login, without its discriminator. -/
def toFields : Login → List (String × Json)
  | .none => []
  | .basic l => [("username", .text l.username), ("password", .text l.password)]
  | .apiKey l => [("apiKey", .text l.key), ("apiSecret", .text l.secret)]
  | .scram l =>
    [("hashAlgorithm", .text l.hashAlgorithm), ("username", .text l.username),
      ("password", .text l.password)]
  | .mtls l =>
    ("keystorePath", .text l.keystorePath) ::
      (optionalField "keystorePassword" l.keystorePassword ++
        optionalField "keystoreType" l.keystoreType ++ optionalField "keyPath" l.keyPath ++
        optionalField "truststorePath" l.truststorePath)
  | .oauth l =>
    ("tokensUrl", .text l.tokensUrl) :: ("clientId", .text l.clientId) ::
      (optionalField "clientSecret" l.clientSecret ++ optionalField "scope" l.scope)
  | .kerberos l =>
    ("principal", .text l.principal) :: ("keytabPath", .text l.keytabPath) ::
      optionalField "serviceName" l.serviceName

def toJson (l : Login) : Json :=
  .object (("type", .text l.kind.discriminator) :: l.toFields)

end Login

namespace Credential

/-- The credential that a value stands for. What is no object, or an empty one, stands for none; an
object that names no kind, or whose fields do not decode, is a legacy record. -/
def ofJson : Json → Credential
  | .object [] => .none
  | .object fields =>
    match (AuthKind.named? fields).bind (Login.ofFields? · fields) with
    | some l => .login l
    | Option.none => .legacy ⟨fields⟩
  | _ => .none

def toJson : Credential → Json
  | .login l => l.toJson
  | .legacy r => .object r.fields

end Credential

end ClusterAdmin
