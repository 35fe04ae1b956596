import ClusterAdmin.Credential.Basic
import ClusterAdmin.Json.Basic
import ClusterAdmin.Text.Quoted

namespace ClusterAdmin.Credential

def redacted : String := "<redacted>"

/-- A named list of fields between braces; `partly` says that there are fields it does not show. -/
def showFields (name : String) (fields : List (String × String)) (partly : Bool) : String :=
  let body := ", ".intercalate (fields.map fun (n, v) => n ++ ": " ++ v)
  name ++ " \x7b " ++ body ++ (if partly then ", .. \x7d" else " \x7d")

def showOption : Option String → String
  | Option.none => "None"
  | some s => "Some(" ++ Text.quoted s ++ ")"

def showLogin : Login → String
  | .none => "None"
  | .basic l =>
    "Basic(" ++ showFields "BasicCredential"
      [("username", Text.quoted l.username), ("password", Text.quoted redacted)] false ++ ")"
  | .apiKey l =>
    "ApiKey(" ++ showFields "ApiKeyCredential"
      [("api_key", Text.quoted l.key), ("api_secret", Text.quoted redacted)] false ++ ")"
  | .scram l =>
    "Scram(" ++ showFields "ScramCredential"
      [("hash_algorithm", Text.quoted l.hashAlgorithm), ("username", Text.quoted l.username),
        ("password", Text.quoted redacted)] false ++ ")"
  | .mtls l =>
    "Mtls(" ++ showFields "MtlsCredential"
      [("keystore_path", Text.quoted l.keystorePath), ("keystore_type", showOption l.keystoreType),
        ("key_path", showOption l.keyPath), ("truststore_path", showOption l.truststorePath)]
      true ++ ")"
  | .oauth l =>
    "OAuth(" ++ showFields "OAuthCredential"
      [("tokens_url", Text.quoted l.tokensUrl), ("client_id", Text.quoted l.clientId),
        ("scope", showOption l.scope)] true ++ ")"
  | .kerberos l =>
    "Kerberos(" ++ showFields "KerberosCredential"
      [("principal", Text.quoted l.principal), ("keytab_path", Text.quoted l.keytabPath),
        ("service_name", showOption l.serviceName)] false ++ ")"

def diagnostic : Credential → String
  | .login l => showLogin l
  | .legacy r =>
    let names := ", ".intercalate (r.fields.map fun f => Text.quoted f.1)
    "Legacy(" ++ showFields "LegacyCredential" [("fields", "[" ++ names ++ "]")] false ++ ")"

end ClusterAdmin.Credential
