import ClusterAdmin.Bytes
import ClusterAdmin.Text.Base64

namespace ClusterAdmin.Rest

def bearer (token : String) : String := "Bearer " ++ token

/-- A name and a password. -/
def basic (who : String × String) : String :=
  "Basic " ++ Text.Base64.encodeText (Bytes.ofText (who.1 ++ ":" ++ who.2))

end ClusterAdmin.Rest
