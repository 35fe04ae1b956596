import ClusterAdmin.Text.Basic
import ClusterAdmin.Text.Percent

namespace ClusterAdmin.Rest.Url

/-- What is known of a scheme. -/
inductive Kind where
  /-- Its URLs name a server, which listens at this port unless another one is given. -/
  | server (port : Nat)
  | file
  | other
  deriving DecidableEq, Repr

namespace Kind

def ofScheme : String → Kind
  | "http" | "ws" => server 80
  | "https" | "wss" => server 443
  | "ftp" => server 21
  | "file" => file
  | _ => other

def isKnown (k : Kind) : Bool := k != other

/-- In a URL of a known kind, a backslash counts as a slash. -/
def isSlash (k : Kind) (c : Char) : Bool := c = '/' || (k.isKnown && c = '\\')

/-- What ends the part that names the host. -/
def endsHost (k : Kind) (c : Char) : Bool := k.isSlash c || c = '?' || c = '#'

end Kind

/-- Printable ASCII but for the blank. -/
def isVisible (c : Char) : Bool := 32 < c.toNat && c.toNat < 127

def inPath (c : Char) : Bool :=
  isVisible c && c ∉ ['"', '#', '<', '>', '?', '`', '\x7b', '\x7d']

def inLogin (c : Char) : Bool :=
  inPath c && c ∉ ['/', ':', ';', '=', '@', '[', '\\', ']', '^', '|']

def inQuery (k : Kind) (c : Char) : Bool :=
  isVisible c && c ∉ ['"', '#', '<', '>'] && !(k.isKnown && c = '\'')

def inFragment (c : Char) : Bool :=
  isVisible c && c ∉ ['"', '<', '>', '`']

/-- The pieces between slashes. -/
def segments (k : Kind) : List Char → List (List Char)
  | [] => [[]]
  | c :: r =>
    if k.isSlash c then [] :: segments k r
    else match segments k r with
      | [] => [[c]]
      | s :: ss => (c :: s) :: ss

def isDot (s : List Char) : Bool :=
  ["." , "%2e"].contains (Text.asciiLower (String.ofList s))

def isDoubleDot (s : List Char) : Bool :=
  ["..", ".%2e", "%2e.", "%2e%2e"].contains (Text.asciiLower (String.ofList s))

/-- Whether a segment is the letter of a drive. -/
def isDrive : List Char → Bool
  | [a, b] => a.isAlpha && (b = ':' || b = '|')
  | _ => false

/-- The segments, the last of them first, without the last one. There is no way up from a drive. -/
def parent : List (List Char) → List (List Char)
  | [] => []
  | s :: ss => if isDrive s then s :: ss else ss

/-- A segment as it stands in a path after those in front. The path of a file starts with a drive
and a colon if it starts with a drive. -/
def segment (k : Kind) (front : List (List Char)) (s : List Char) : List Char :=
  if k = .file ∧ front.isEmpty ∧ isDrive s then s.take 1 ++ [':']
  else Text.Percent.encode inPath s

/-- Resolves dot segments after those in front, which are given the last first. A dot segment at the
end leaves an empty one. -/
def resolve (k : Kind) : List (List Char) → List (List Char) → List (List Char)
  | front, [] => front.reverse
  | front, s :: rest =>
    if isDoubleDot s then
      if rest.isEmpty then ([] :: parent front).reverse else resolve k (parent front) rest
    else if isDot s then
      if rest.isEmpty then ([] :: front).reverse else resolve k front rest
    else resolve k (segment k front s :: front) rest

/-- Where a URL leads at its host. -/
inductive Path where
  /-- Segments with a slash before each. -/
  | rooted (segments : List (List Char))
  /-- A text that only its scheme gives a meaning to. -/
  | plain (text : List Char)
  deriving DecidableEq, Repr

namespace Path

def text : Path → List Char
  | rooted ss => ss.flatMap ('/' :: ·)
  | plain t => t

/-- The segments of a text whose first slash is left out. -/
def segmentsOf (k : Kind) (t : List Char) : List (List Char) := resolve k [] (segments k t)

/-- The segments without empty ones in front. One is left if there is nothing else. -/
def trimmed (ss : List (List Char)) : List (List Char) :=
  match ss.dropWhile List.isEmpty with
  | [] => [[]]
  | s :: rest => s :: rest

end Path

end ClusterAdmin.Rest.Url
