import ClusterAdmin.Rest.Host
import ClusterAdmin.Rest.Url.Path

namespace ClusterAdmin.Rest

/-- Whom a URL leads to, and as whom. -/
structure Authority where
  /-- The encoded name and password of a login, each empty if it is not given. -/
  user : List Char
  password : List Char
  host : Host
  /-- A port other than the one that the scheme implies. -/
  port : Option Nat
  deriving DecidableEq, Repr

structure Url where
  scheme : String
  authority : Option Authority
  path : Url.Path
  query : Option (List Char)
  fragment : Option (List Char)
  deriving DecidableEq, Repr

namespace Authority

def hasLogin (a : Authority) : Bool := !a.user.isEmpty || !a.password.isEmpty

def text (a : Authority) : List Char :=
  (if a.hasLogin then
      a.user ++ (if a.password.isEmpty then [] else ':' :: a.password) ++ ['@']
    else []) ++
    a.host.text ++ (a.port.map fun p => ':' :: Host.decimal p).getD []

/-- The name and the password that are given, if they are texts. -/
def login? (a : Authority) : Option (String × Option String) := do
  let user ← Bytes.toText? (Text.Percent.decode a.user)
  let password :=
    if a.password.isEmpty then none else Bytes.toText? (Text.Percent.decode a.password)
  if user.isEmpty ∧ password.isNone then none else some (user, password)

end Authority

namespace Url

/-- The text up to a character and the text after it, if it is there. -/
def split (c : Char) (t : List Char) : List Char × Option (List Char) :=
  match Text.cut? c t with
  | some (a, b) => (a, some b)
  | none => (t, none)

def isBlank (c : Char) : Bool := c.toNat ≤ 32

/-- The text without blanks around it, and without tabs and line ends in it. -/
def clean (t : List Char) : List Char :=
  ((t.dropWhile isBlank).reverse.dropWhile isBlank).reverse.filter fun c =>
    c ≠ '\t' ∧ c ≠ '\n' ∧ c ≠ '\r'

def isSchemeChar (c : Char) : Bool := c.isAlphanum || c = '+' || c = '-' || c = '.'

/-- The scheme in lower case and what follows its colon. -/
def scheme? (t : List Char) : Option (String × List Char) :=
  match Text.cut? ':' t with
  | some (s, r) =>
    if s.head?.any Char.isAlpha && s.all isSchemeChar then
      some (Text.asciiLower (String.ofList s), r)
    else none
  | none => none

/-- What stands before and after the last at sign. -/
def splitLogin (t : List Char) : Option (List Char) × List Char :=
  match t.reverse.dropWhile (· ≠ '@') with
  | [] => (none, t)
  | _ :: front => (some front.reverse, (t.reverse.takeWhile (· ≠ '@')).reverse)

/-- What stands before and after the first colon that is not between brackets. -/
def splitPort : (inside : Bool) → List Char → List Char × Option (List Char)
  | _, [] => ([], none)
  | inside, c :: r =>
    if c = ':' ∧ !inside then ([], some r)
    else ((splitPort (c = '[' || (inside && c ≠ ']')) r).map (c :: ·) id)

/-- The port in digits, unless it is left out or implied. -/
def port? (k : Kind) (digits : List Char) : Option (Option Nat) :=
  if digits.isEmpty then some none
  else if digits.all Char.isDigit then
    (Host.number? 10 digits).bind fun n =>
      if 65535 < n then none else some (if k = .server n then none else some n)
  else none

def host? (k : Kind) (t : List Char) : Option Host :=
  if k.isKnown then Host.domain? t else Host.other? t

/-- The authority at the start of a text, and what follows it. Only URLs of unknown schemes may
leave the host out, if they have neither login nor port. There, a port may end in a backslash. -/
def authority? (k : Kind) (t : List Char) : Option (Authority × List Char) := do
  let rest := t.dropWhile (!k.endsHost ·)
  let (login, place) := splitLogin (t.takeWhile (!k.endsHost ·))
  let (name, port) := splitPort false place
  let (digits, more) := split '\\' (port.getD [])
  let (user, password) := split ':' (login.getD [])
  let a : Authority :=
    ⟨Text.Percent.encode inLogin user, Text.Percent.encode inLogin (password.getD []),
      ← host? k name, ← port? k digits⟩
  if a.host = .name [] ∧
      (a.hasLogin ∨ port.isSome ∨ (login = some [] ∧ !rest.isEmpty)) then none
  else some (a, (more.map ('\\' :: ·)).getD [] ++ rest)

/-- The URL of a scheme, an authority and a text that starts with the path. -/
def finish (scheme : String) (authority : Option Authority) (path : List Char → Path)
    (t : List Char) : Url :=
  let (front, fragment) := split '#' t
  let (front, query) := split '?' front
  ⟨scheme, authority, path front,
    query.map (Text.Percent.encode (inQuery (Kind.ofScheme scheme))),
    fragment.map (Text.Percent.encode inFragment)⟩

/-- The path at a host. It starts with a slash, and may be missing if the scheme is unknown. -/
def pathAtHost (k : Kind) (t : List Char) : Path :=
  match t with
  | [] => .rooted (if k.isKnown then [[]] else [])
  | c :: r => .rooted (Path.segmentsOf k (if k.isSlash c then r else c :: r))

/-- A URL that names a host, from its authority on. -/
def located? (scheme : String) (t : List Char) : Option Url := do
  let k := Kind.ofScheme scheme
  let (a, rest) ← authority? k t
  some (finish scheme (some a) (pathAtHost k) rest)

/-- The URL of a file at a host. A path that starts with a drive is at no host. -/
def fileAt (host : Host) (t : List Char) : Url :=
  let host (ss : List (List Char)) : Host := if ss.head?.any isDrive then .name [] else host
  let u := finish "file" none (fun p => .rooted (Path.segmentsOf .file p)) t
  match u.path with
  | .rooted ss =>
    { u with authority := some ⟨[], [], host ss, none⟩, path := .rooted (Path.trimmed ss) }
  | .plain _ => u

/-- The URL of a file, from what follows the scheme on. -/
def file? (t : List Char) : Option Url :=
  let k := Kind.file
  match t with
  | a :: b :: r =>
    if k.isSlash a ∧ k.isSlash b then
      let name := r.takeWhile (!k.endsHost ·)
      let rest := r.dropWhile (!k.endsHost ·)
      if isDrive name then some (fileAt (.name []) r)
      else if name.isEmpty then some (fileAt (.name []) rest)
      else
        (Host.domain? name).map fun host =>
          if host = .name "localhost".toList then fileAt (.name []) rest
          else fileAt host (if rest.head?.any k.isSlash then rest.drop 1 else rest)
    else some (fileAt (.name []) (if k.isSlash a then b :: r else a :: b :: r))
  | [a] => some (fileAt (.name []) (if k.isSlash a then [] else [a]))
  | [] => some (fileAt (.name []) [])

/-- The URL that a text stands for. -/
def parse? (s : String) : Option Url := do
  let (scheme, r) ← scheme? (clean s.toList)
  match Kind.ofScheme scheme with
  | .server p => located? scheme (r.dropWhile (Kind.server p).isSlash)
  | .file => file? r
  | .other =>
    match r with
    | '/' :: '/' :: r => located? scheme r
    | '/' :: r => some (finish scheme none (fun p => .rooted (Path.segmentsOf .other p)) r)
    | r => some (finish scheme none (fun p => .plain (Text.Percent.encode Host.isPrintable p)) r)

/-- What stands before the path. A path without an authority must not look like one. -/
def lead (u : Url) : List Char :=
  match u.authority, u.path with
  | some a, _ => "//".toList ++ a.text
  | none, .rooted ([] :: _ :: _) => "/.".toList
  | none, _ => []

def text (u : Url) : String :=
  String.ofList (u.scheme.toList ++ [':'] ++ u.lead ++ u.path.text ++
    (u.query.map ('?' :: ·)).getD [] ++ (u.fragment.map ('#' :: ·)).getD [])

/-- Whether the URL names a host. -/
def hasHost (u : Url) : Bool := u.authority.any (·.host ≠ .name [])

/-- The URL without its login. -/
def anonymous (u : Url) : Url :=
  { u with authority := u.authority.map fun a => { a with user := [], password := [] } }

end Url

end ClusterAdmin.Rest
