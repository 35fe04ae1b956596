import ClusterAdmin.Bytes
import ClusterAdmin.Text.Basic

namespace ClusterAdmin.Rest.Host

/-- A number in digits of a base. No digits are zero. -/
def number? (base : Nat) (t : List Char) : Option Nat :=
  t.foldlM (fun n c => ((Bytes.hexValue? c).filter (· < base)).map (base * n + ·)) 0

/-- A number in the base that its first characters tell. -/
def basedNumber? : List Char → Option Nat
  | [] => none
  | '0' :: c :: r => if c = 'x' ∨ c = 'X' then number? 16 r else number? 8 (c :: r)
  | t => number? 10 t

/-- The labels of a name, without an empty one at its end. -/
def labels (name : List Char) : List (List Char) :=
  let all := Text.pieces '.' name
  if all.length > 1 ∧ all.getLast? = some [] then all.dropLast else all

/-- Whether the last label of a name is meant as a number, so that all of it has to be an
address. -/
def endsInNumber (name : List Char) : Bool :=
  (labels name).getLast?.any fun l =>
    (!l.isEmpty && l.all Char.isDigit) || (basedNumber? l).isSome

/-- The largest number that fills octets. -/
def filling : Nat → Nat
  | 0 => 0
  | n + 1 => 256 * filling n + 255

/-- The address that numbers make up: each is an octet, and the last fills the octets left. -/
def joinNumbers? : (octets : Nat) → List Nat → Option Nat
  | 0, _ | _, [] => none
  | octets, [n] => if n ≤ filling octets then some n else none
  | octets + 1, n :: ns =>
    if n ≤ 255 then (joinNumbers? octets ns).map (n * (filling octets + 1) + ·) else none

def octets? (name : List Char) : Option UInt32 :=
  ((labels name).mapM basedNumber?).bind fun ns => (joinNumbers? 4 ns).map UInt32.ofNat

def decimal (n : Nat) : List Char := Nat.toDigits 10 n

def octetsText (a : UInt32) : List Char :=
  ['.'].intercalate ((Bytes.ofUInt32 a).map fun b => decimal b.toNat)

/-- An octet in decimal digits, without zeros in front. -/
def octet? (t : List Char) : Option Nat :=
  match t with
  | '0' :: _ :: _ | [] => none
  | t => (number? 10 t).filter (· ≤ 255)

/-- The two groups that four octets between dots make up. -/
def dotted? (t : List Char) : Option (List UInt16) :=
  match (Text.pieces '.' t).mapM octet? with
  | some [a, b, c, d] => some [UInt16.ofNat (256 * a + b), UInt16.ofNat (256 * c + d)]
  | _ => none

def group? (t : List Char) : Option UInt16 :=
  if t.isEmpty ∨ 4 < t.length then none else (number? 16 t).map UInt16.ofNat

/-- Groups between colons. In place of the last two, four octets may stand at the end. -/
def groups? : List (List Char) → Option (List UInt16)
  | [] => some []
  | [t] => ((group? t).map ([·])).or (dotted? t)
  | t :: ts => do return (← group? t) :: (← groups? ts)

/-- The groups of a text that has no double colon. -/
def plainGroups? (t : List Char) : Option (List UInt16) :=
  if t.isEmpty then some [] else groups? (Text.pieces ':' t)

/-- What stands before and after the first double colon. -/
def cutAtZeros? : List Char → Option (List Char × List Char)
  | ':' :: ':' :: r => some ([], r)
  | c :: r => (cutAtZeros? r).map fun (a, b) => (c :: a, b)
  | [] => none

def address? (t : List Char) : Option (List UInt16) :=
  match cutAtZeros? t with
  | none => (plainGroups? t).filter (·.length = 8)
  | some (front, back) => do
    let a ← plainGroups? front
    let b ← plainGroups? back
    let zeros := 8 - (a.length + b.length)
    if front.contains '.' ∨ zeros = 0 then none else some (a ++ List.replicate zeros 0 ++ b)

/-- How many zeros the groups start with. -/
def leadingZeros (gs : List UInt16) : Nat := (gs.takeWhile (· = 0)).length

/-- How many zeros the longest run of zeros has. -/
def longestZeros : List UInt16 → Nat
  | [] => 0
  | g :: gs => max (leadingZeros (g :: gs)) (longestZeros gs)

def groupText (g : UInt16) : List Char := Nat.toDigits 16 g.toNat

/-- The groups before and after the first run of so many zeros. -/
def cutRun (n : Nat) : List UInt16 → List UInt16 × List UInt16
  | [] => ([], [])
  | g :: gs =>
    if leadingZeros (g :: gs) = n then ([], (g :: gs).drop n)
    else ((cutRun n gs).map (g :: ·) id)

def groupsText (gs : List UInt16) : List Char := [':'].intercalate (gs.map groupText)

/-- The address with a double colon for the first of its longest runs of zeros, if that is more than
one zero. -/
def addressText (gs : List UInt16) : List Char :=
  let n := longestZeros gs
  if n < 2 then groupsText gs
  else
    let (front, back) := cutRun n gs
    groupsText front ++ "::".toList ++ groupsText back

end ClusterAdmin.Rest.Host
