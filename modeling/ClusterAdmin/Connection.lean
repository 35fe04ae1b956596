import ClusterAdmin.Cluster
import ClusterAdmin.Credential.Codec
import ClusterAdmin.Failure
import ClusterAdmin.Table

namespace ClusterAdmin

/-- The stored settings of a direct connection. -/
structure ConnectionRecord where
  id : String
  name : String
  credential : Credential
  /-- Whether to use TLS; with no word on it, the credential decides. -/
  tls : Option Bool
  verifyServerCertificate : Bool
  truststorePath : Option String
  deriving DecidableEq, Repr

namespace ConnectionRecord

open Json.Reader in
def decoder : Json.Decoder ConnectionRecord := Json.Decoder.record do
  let id ← required ["id"] Json.Decoder.text
  let name ← withDefault ["name"] Json.Decoder.text ""
  let credential ← withDefault ["credential"] (fun v => some (Credential.ofJson v)) Credential.none
  let tls ← optional ["tls"] Json.Decoder.bool
  let verify ← withDefault ["verifyServerCertificate"] Json.Decoder.bool true
  let truststorePath ← optional ["truststorePath"] Json.Decoder.text
  return ⟨id, name, credential, tls, verify, truststorePath⟩

def toJson (r : ConnectionRecord) : Json :=
  .object [("id", .text r.id), ("name", .text r.name), ("credential", r.credential.toJson),
    ("tls", (r.tls.map Json.bool).getD .null),
    ("verifyServerCertificate", .bool r.verifyServerCertificate),
    ("truststorePath", Json.ofText? r.truststorePath)]

end ConnectionRecord

/-- The stored connections by identifier. -/
structure ConnectionStore where
  records : Table String ConnectionRecord
  /-- What every look-up fails with while the store cannot be read. -/
  fault : Option Failure

namespace ConnectionStore

def empty : ConnectionStore := ⟨.empty, none⟩

/-- Looks a connection up, which is no failure if there is none. -/
def find (s : ConnectionStore) (id : String) : Except Failure (Option ConnectionRecord) :=
  match s.fault with
  | some f => .error f
  | none => .ok (s.records.find? id)

/-- Stores a record in place of any of the same identifier. -/
def insert (s : ConnectionStore) (r : ConnectionRecord) : ConnectionStore :=
  { s with records := s.records.insert r.id r }

def erase (s : ConnectionStore) (id : String) : ConnectionStore :=
  { s with records := s.records.erase id }

def contains (s : ConnectionStore) (id : String) : Bool := s.records.contains id

def ofList (rs : List ConnectionRecord) : ConnectionStore := rs.foldl insert empty

end ConnectionStore

/-- Where access tokens for hosted clusters come from. -/
structure CloudSession where
  token : Cluster → Except Failure String

namespace CloudSession

/-- A session with one token for all clusters. -/
def signedIn (token : String) : CloudSession := ⟨fun _ => .ok token⟩

def signedOut : CloudSession :=
  ⟨fun _ => .error (Failure.auth "No cloud session; sign in to obtain an access token")⟩

end CloudSession

end ClusterAdmin
