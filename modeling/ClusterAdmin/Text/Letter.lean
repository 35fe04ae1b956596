import ClusterAdmin.Text.Letter.Runs

namespace ClusterAdmin.Text.Letter

def isUpper (c : Char) : Bool :=
  if c.toNat < 128 then c.isUpper else upperRuns.any (·.has c.toNat)

def isLower (c : Char) : Bool :=
  if c.toNat < 128 then c.isLower else lowerRuns.any (·.has c.toNat)

/-- A letter of any script, or a digit or other number of any script. -/
def isAlphanumeric (c : Char) : Bool :=
  if c.toNat < 128 then c.isAlphanum else alphanumericRuns.any (·.has c.toNat)

/-- The full lower-case form, which for the dotted capital I has two characters. -/
def toLower (c : Char) : List Char :=
  if c.toNat < 128 then [c.toLower]
  else if c = '\u0130' then ['i', '\u0307']
  else match lowerShifts.findSome? (·.shifted? c.toNat) with
    | some n => [Char.ofNat n]
    | none => [c]

end ClusterAdmin.Text.Letter
