import ClusterAdmin.Target
import ClusterAdmin.Tls.Pem

namespace ClusterAdmin.Tls

/-- What files hold, by path. -/
abbrev Files := String → Except Failure.IoError Bytes

def openFile (files : Files) (path : String) : Except Failure Bytes :=
  match files path with
  | .ok b => .ok b
  | .error e => .error ((Failure.ofIo e).inContext "open TLS file" path)

/-- The certificates of a file, at least one. -/
def certificatesOf (files : Files) (path : String) : Except Failure (List Bytes) := do
  match Pem.certificates? (← openFile files path) with
  | none => throw (Failure.invalid s!"Failed to parse certificates from {path}")
  | some [] => throw (Failure.invalid s!"No PEM certificates found in {path}")
  | some found => return found

def privateKeyOf (files : Files) (path : String) : Except Failure Bytes := do
  match Pem.privateKey (← openFile files path) with
  | .found key => return key
  | .missing => throw (Failure.invalid s!"No PEM private key found in {path}")
  | .fault => throw (Failure.invalid s!"Failed to parse private key from {path}")

/-- The octets of a length in the long form. -/
def lengthOf (octets : Bytes) : Nat := octets.foldl (fun n x => 256 * n + x.toNat) 0

/-- Whether octets are one DER sequence and nothing else, as certificates and keys are. -/
def isSequence : Bytes → Bool
  | 0x30 :: n :: rest =>
    if n < 0x80 then rest.length = n.toNat
    else
      let size := n.toNat - 0x80
      size ≤ rest.length && (rest.drop size).length = lengthOf (rest.take size)
  | _ => false

/-- The truststore's certificates must be certificates. -/
def checkTruststore (files : Files) (path : String) : Except Failure Unit := do
  if (← certificatesOf files path).all isSequence then return ()
  else throw (Failure.invalid s!"Invalid CA certificate in {path}")

/-- The certificate to show must be one, and its key too. -/
def checkCertificate (files : Files) (c : ClientCertificate) : Except Failure Unit := do
  let chain ← certificatesOf files c.certificatePath
  let key ← privateKeyOf files (c.keyPath.getD c.certificatePath)
  if chain.head?.any isSequence && isSequence key then return ()
  else throw (Failure.invalid "Invalid client certificate")

/-- Checks the files of the settings. A truststore matters only if the server is verified. -/
def check (files : Files) (s : TlsSettings) : Except Failure Unit := do
  if s.verify then
    if let some path := s.truststore then checkTruststore files path
  if let some c := s.certificate then checkCertificate files c

end ClusterAdmin.Tls
