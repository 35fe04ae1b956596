import ClusterAdmin.Credential.Basic

namespace ClusterAdmin

/-- A principal, or why none can be told. -/
inductive Principal where
  | user (principal : String)
  | underivable (reason : String)
  deriving DecidableEq, Repr

namespace Principal

/-- The principal that stands for every user. -/
def wildcard : String := "User:*"

/-- The principal of a user name that must not be empty. -/
def ofName (name missing : String) : Principal :=
  if name.isEmpty then .underivable missing else .user ("User:" ++ name)

def ofLogin : Login → Principal
  | .none => .underivable "No authentication configured for this connection"
  | .basic l => ofName l.username "Username is missing from the credentials"
  | .apiKey l => ofName l.key "API key is missing from the credentials"
  | .scram l => ofName l.username "SCRAM username is missing from the credentials"
  | .kerberos l => ofName l.principal "Kerberos principal is missing from the credentials"
  | .mtls _ =>
    .underivable
      "mTLS principals come from the client certificate subject, which is not accessible here"
  | .oauth _ =>
    .underivable "OAuth principals come from access token claims, which are not accessible here"

def ofCredential (c : Credential) : Principal := ofLogin c.resolved

def text : Principal → String
  | .user principal => principal
  | .underivable reason => s!"<underivable: {reason}>"

def toJson : Principal → Json
  | .user principal =>
    .object [("principal", .text principal), ("canDerive", .bool true), ("reason", .null)]
  | .underivable reason =>
    .object [("principal", .null), ("canDerive", .bool false), ("reason", .text reason)]

end Principal

end ClusterAdmin
