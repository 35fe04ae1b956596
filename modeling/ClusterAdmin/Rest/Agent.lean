import ClusterAdmin.Config.Basic
import ClusterAdmin.Failure

namespace ClusterAdmin.Rest

/-- Whether a text can be a header's value: no control characters but the tab. -/
def isHeaderText (s : String) : Bool :=
  s.toList.all fun c => c = '\t' || (32 ≤ c.toNat && c.toNat ≠ 127)

/-- An HTTP client can be made if its name can be sent. -/
def checkAgent (config : HttpConfig) : Except Failure Unit :=
  if isHeaderText config.userAgent then .ok ()
  else .error (Failure.invalid "Failed to create HTTP client: builder error")

end ClusterAdmin.Rest
