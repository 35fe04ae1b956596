import ClusterAdmin.Text.Base64

namespace ClusterAdmin.Tls.Pem

/-- A section by its label, with what its base64 stands for. -/
structure Section where
  label : String
  content : Bytes
  deriving DecidableEq, Repr

/-- The labels under which private keys are kept. -/
def keyLabels : List String := ["PRIVATE KEY", "RSA PRIVATE KEY", "EC PRIVATE KEY"]

def certificateLabel : String := "CERTIFICATE"

/-- The labels whose sections are read. -/
def knownLabels : List String :=
  certificateLabel :: keyLabels ++ ["PUBLIC KEY", "X509 CRL", "CERTIFICATE REQUEST", "ECHCONFIG"]

/-- The lines of a file, which end at a line feed or a carriage return. -/
def lines : Bytes → List Bytes
  | [] => [[]]
  | c :: r =>
    if c = 10 ∨ c = 13 then [] :: lines r
    else match lines r with
      | [] => [[c]]
      | l :: ls => (c :: l) :: ls

def opening : Bytes := Bytes.ofText "-----BEGIN "

/-- A line cut where its trailing dashes and spaces begin: what is before the first of those dashes,
and how many dashes there are. -/
def trailer (line : Bytes) : Bytes × Nat :=
  let tail := (line.reverse.takeWhile fun c => c = 45 ∨ c = 32).reverse
  let dashes := tail.dropWhile (· = 32)
  (line.take (line.length - dashes.length), (dashes.filter (· = 45)).length)

/-- The label of an opening line, which must have five dashes after it. -/
def labelOf? (line : Bytes) : Option Bytes :=
  let (head, dashes) := trailer line
  if dashes = 5 then some (head.drop opening.length) else none

/-- How the line starts that ends a section. -/
def closing (label : Bytes) : Bytes := Bytes.ofText "-----END " ++ label ++ Bytes.ofText "-----"

def isBlank (c : UInt8) : Bool := c = 32 || (9 ≤ c && c ≤ 13)

/-- What the body of a section stands for. Blanks in it do not count. -/
def decodeBody? (body : Bytes) : Option Bytes :=
  Text.Base64.decodeLoose? ((body.filter (!isBlank ·)).map fun c => Char.ofNat c.toNat)

/-- The label as text, if sections of it are read. -/
def knownLabel? (label : Bytes) : Option String :=
  knownLabels.find? fun l => Bytes.ofText l = label

/-- Reads lines, given the label of the section that is open and its body so far: the sections up to
the first fault, and whether there is one. A section may open within another, which it replaces
while the body goes on. -/
def scan : List Bytes → Option Bytes → Bytes → List Section × Bool
  | [], none, _ => ([], false)
  | [], some _, _ => ([], true)
  | line :: rest, current, body =>
    if opening.isPrefixOf line then
      match labelOf? line with
      | none => ([], true)
      | some label => scan rest (some label) body
    else
      match current with
      | none => scan rest none body
      | some label =>
        if (closing label).isPrefixOf line then
          match knownLabel? label with
          | none => scan rest none []
          | some name =>
            match decodeBody? body with
            | none => ([], true)
            | some content =>
              let (sections, fault) := scan rest none []
              (⟨name, content⟩ :: sections, fault)
        else scan rest (some label) (body ++ line)

/-- The sections of a file up to the first fault, and whether there is one. -/
def sections (file : Bytes) : List Section × Bool := scan (lines file) none []

/-- All certificates of a file, or none if it has a fault. -/
def certificates? (file : Bytes) : Option (List Bytes) :=
  let (found, fault) := sections file
  if fault then none
  else some ((found.filter (·.label = certificateLabel)).map (·.content))

/-- How the search for a private key ends. -/
inductive KeySearch where
  | found (key : Bytes)
  | missing
  | fault
  deriving DecidableEq, Repr

/-- The first private key of a file. Faults behind it do not matter. -/
def privateKey (file : Bytes) : KeySearch :=
  let (found, fault) := sections file
  match found.find? fun s => keyLabels.contains s.label with
  | some s => .found s.content
  | none => if fault then .fault else .missing

end ClusterAdmin.Tls.Pem
