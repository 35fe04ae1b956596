import ClusterAdmin.Failure.Category
import ClusterAdmin.Text.Letter

namespace ClusterAdmin.Classifier

structure Rule where
  category : Category
  needles : List String

/-- The rules in the order in which they are tried. -/
def rules : List Rule := [
  ⟨.auth, ["authenticat", "authoriz", "unauthorized", "unauthenticated", "sasl", "acl",
    "access denied", "forbidden", "permission denied", "invalid credentials", "bad credentials"]⟩,
  ⟨.notFound, ["unknown topic", "not found", "not exist", "no such", "unknown resource"]⟩,
  ⟨.alreadyExists, ["already exist", "exists already", "duplicate"]⟩,
  ⟨.invalid, ["invalid", "illegal", "bad request", "malformed", "unsupported",
    "policy violation"]⟩,
  ⟨.transient, ["connect", "disconnect", "timeout", "timed out", "etimedout", "econnrefused",
    "econnreset", "broker", "network", "not available", "unavailable", "leader",
    "not controller", "socket", "reset by peer", "broken pipe", "closed", "temporar",
    "retriable"]⟩]

/-- Lower case, with a blank for `_`, `-` and `.`, and one before a capital that follows a small
letter or a digit. `small` tells whether such a character came last. -/
def words (small : Bool) : List Char → List Char
  | [] => []
  | c :: r =>
    let lead := if Text.Letter.isUpper c && small then [' '] else []
    let body := if c = '_' ∨ c = '-' ∨ c = '.' then [' '] else Text.Letter.toLower c
    lead ++ body ++ words (Text.Letter.isLower c || c.isDigit) r

def normalize (message : String) : List Char := words false message.toList

/-- Whether a character before a needle lets a word start there. -/
def boundary : Option Char → Bool
  | none => true
  | some c => !Text.Letter.isAlphanumeric c

/-- Looks for a needle at the start of a word, `before` being the character in front of the text.
After an occurrence the search goes on behind it. -/
def startsWord (needle : List Char) (before : Option Char) (text : List Char) : Bool :=
  match text with
  | [] => false
  | c :: r =>
    if needle.isPrefixOf (c :: r) then
      boundary before || startsWord needle needle.getLast? (r.drop (needle.length - 1))
    else startsWord needle (some c) r
termination_by text.length
decreasing_by all_goals simp only [List.length_drop, List.length_cons]; omega

def Rule.fires (rule : Rule) (text : List Char) : Bool :=
  rule.needles.any fun n => startsWord n.toList none text

/-- The category of the first rule that fires on a normalized text. -/
def category? (text : List Char) : Option Category :=
  (rules.find? (·.fires text)).map (·.category)

/-- The category that the wording of a message suggests. -/
def ofMessage (message : String) : Category := (category? (normalize message)).getD .unknown

/-- As `ofMessage`, asking the name of the error first if it has one. -/
def ofNamed (name : Option String) (message : String) : Category :=
  ((name.bind fun n => category? (normalize n)).or (category? (normalize message))).getD .unknown

end ClusterAdmin.Classifier
