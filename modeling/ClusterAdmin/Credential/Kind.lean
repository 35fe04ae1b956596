import ClusterAdmin.Text.Basic

namespace ClusterAdmin

inductive AuthKind where
  | none
  | basic
  | apiKey
  | scram
  | mtls
  | oauth
  | kerberos
  deriving DecidableEq, Repr

namespace AuthKind

/-- The name that credentials carry under `type`. -/
def discriminator : AuthKind → String
  | none => "None"
  | basic => "Basic"
  | apiKey => "API"
  | scram => "SCRAM"
  | mtls => "mTLS"
  | oauth => "OAuth"
  | kerberos => "Kerberos"

/-- The name of the kind itself. -/
def name : AuthKind → String
  | none => "None"
  | basic => "Basic"
  | apiKey => "ApiKey"
  | scram => "Scram"
  | mtls => "Mtls"
  | oauth => "OAuth"
  | kerberos => "Kerberos"

/-- The kind that a discriminator names: case does not matter, nor does any character that is no
ASCII letter or digit. -/
def ofDiscriminator? (s : String) : Option AuthKind :=
  match Text.asciiLower (Text.asciiAlphanumeric s) with
  | "none" => some none
  | "basic" | "plain" => some basic
  | "api" | "apikey" => some apiKey
  | "scram" => some scram
  | "mtls" => some mtls
  | "oauth" | "oauth2" | "oauthbearer" => some oauth
  | "kerberos" | "gssapi" => some kerberos
  | _ => Option.none

end AuthKind

end ClusterAdmin
