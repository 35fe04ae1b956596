import ClusterAdmin.Rest.Domain
import ClusterAdmin.Rest.Host.Number
import ClusterAdmin.Text.Percent

namespace ClusterAdmin.Rest

inductive Host where
  /-- A name, which is empty where a URL leaves its host out. -/
  | name (text : List Char)
  | octets (address : UInt32)
  /-- Eight groups. -/
  | groups (address : List UInt16)
  deriving DecidableEq, Repr

namespace Host

def text : Host → List Char
  | name t => t
  | octets a => octetsText a
  | groups a => '[' :: addressText a ++ [']']

/-- The address between brackets. -/
def bracketed? (t : List Char) : Option Host :=
  if t.getLast? = some ']' then (address? (t.drop 1).dropLast).map groups else none

/-- A host that is known by a domain name. -/
def domain? (t : List Char) : Option Host :=
  if t.head? = some '[' then bracketed? t
  else do
    let decoded ← Bytes.toText? (Text.Percent.decode t)
    let name ← Domain.toAscii? decoded.toList
    if name.isEmpty then none
    else if endsInNumber name then (octets? name).map octets
    else some (Host.name name)

/-- ASCII characters that the name of no host may hold. -/
def isForbidden (c : Char) : Bool :=
  c ∈ ['\x00', '\t', '\n', '\r', ' ', '#', '/', ':', '<', '>', '?', '@', '[', '\\', ']', '^', '|']

/-- Characters that stand for themselves in a name of which nothing more is known. -/
def isPrintable (c : Char) : Bool := 32 ≤ c.toNat && c.toNat < 127

/-- A host whose kind of name is not known. -/
def other? (t : List Char) : Option Host :=
  if t.head? = some '[' then bracketed? t
  else if t.any isForbidden then none
  else some (name (Text.Percent.encode isPrintable t))

end Host

end ClusterAdmin.Rest
