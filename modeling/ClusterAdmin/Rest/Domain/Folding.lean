import ClusterAdmin.Rest.Domain.Folding.Chart

namespace ClusterAdmin.Rest.Domain

/-- The characters for which one stands in a domain name. -/
def fold? (c : Char) : Option (List Char) :=
  let n := c.toNat
  if n < 128 then some [c.toLower]
  else
    match (shifts.image? n).or (spellings.image? n) with
    | some image => some (image.map Char.ofNat)
    | none => if settled.has n then some [c] else none

/-- Whether a character stands for itself. -/
def isSettled (c : Char) : Bool := fold? c == some [c]

end ClusterAdmin.Rest.Domain
