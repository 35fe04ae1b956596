import ClusterAdmin.Rest.Domain.Composition
import ClusterAdmin.Rest.Domain.Direction
import ClusterAdmin.Rest.Domain.Folding
import ClusterAdmin.Rest.Domain.Joining
import ClusterAdmin.Rest.Domain.Punycode
import ClusterAdmin.Text.Basic

namespace ClusterAdmin.Rest.Domain

/-- ASCII characters that a name may not hold: those that mean something in a URL, and those that
cannot be seen. -/
def isForbidden (c : Char) : Bool :=
  c.toNat ≤ 32 || c.toNat = 127 ||
    c ∈ ['%', '#', '/', ':', '<', '>', '?', '@', '[', '\\', ']', '^', '|']

/-- What the ASCII form of a label starts with if the label is not ASCII itself. -/
def asciiLead : List Char := "xn--".toList

structure Label where
  shown : List Char
  ascii : List Char

namespace Label

/-- The label that an ASCII form stands for. It is folded and composed already, and is not itself an
ASCII form. -/
def ofAscii? (t : List Char) : Option Label := do
  let code := t.drop asciiLead.length
  if t.all (·.toNat < 128) ∧ code.getLast?.any (· ≠ '-') ∧ code.length ≤ 2000 then
    let shown ← Punycode.decode? code
    if shown.all isSettled ∧ composed shown = shown ∧ !asciiLead.isPrefixOf shown then
      some ⟨shown, t⟩
    else none
  else none

/-- The label of a folded and composed text. -/
def ofText? (t : List Char) : Option Label :=
  if asciiLead.isPrefixOf t then ofAscii? t
  else some ⟨t, if t.all (·.toNat < 128) then t else asciiLead ++ Punycode.encode t⟩

def isValid (l : Label) : Bool :=
  !l.shown.any isForbidden && !l.shown.head?.any isMark && joinersFit [] l.shown &&
    (l.shown.all (·.toNat < 128) || l.shown.length ≤ 1000)

end Label

/-- The name in ASCII, if it is a domain name. -/
def toAscii? (name : List Char) : Option (List Char) := do
  let folded ← name.mapM fold?
  let labels ← (Text.pieces '.' (composed folded.flatten)).mapM Label.ofText?
  if labels.all (·.isValid) ∧ Direction.agree (labels.map (·.shown)) then
    some (['.'].intercalate (labels.map (·.ascii)))
  else none

end ClusterAdmin.Rest.Domain
