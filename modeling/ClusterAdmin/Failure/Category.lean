namespace ClusterAdmin

inductive Category where
  | transient
  | auth
  | invalid
  | notFound
  | alreadyExists
  | unknown
  deriving DecidableEq, Repr

namespace Category

def name : Category → String
  | transient => "TRANSIENT"
  | auth => "AUTH"
  | invalid => "INVALID"
  | notFound => "NOT_FOUND"
  | alreadyExists => "ALREADY_EXISTS"
  | unknown => "UNKNOWN"

def all : List Category := [transient, auth, invalid, notFound, alreadyExists, unknown]

/-- The category of a name; any other text names no kind in particular. -/
def ofName (s : String) : Category := (all.find? (·.name = s)).getD unknown

/-- Whether trying again may help when nothing more is known. -/
def retryable : Category → Bool
  | transient => true
  | _ => false

end Category

end ClusterAdmin
