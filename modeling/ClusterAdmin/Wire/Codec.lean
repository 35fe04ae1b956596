import ClusterAdmin.Bytes

namespace ClusterAdmin.Wire

/-- A text of that many octets has no room in a two-octet length. -/
structure TooLong where
  size : Nat
  deriving DecidableEq, Repr

def TooLong.message (e : TooLong) : String :=
  s!"String is too long to encode ({e.size} bytes)"

abbrev Written := Except TooLong Bytes

def writeInt8 (n : Int8) : Bytes := [n.toUInt8]

def writeInt16 (n : Int16) : Bytes := Bytes.ofUInt16 n.toUInt16

def writeInt32 (n : Int32) : Bytes := Bytes.ofUInt32 n.toUInt32

def writeInt64 (n : Int64) : Bytes := Bytes.ofUInt64 n.toUInt64

def writeBool (b : Bool) : Bytes := [if b then 1 else 0]

def writeString (s : String) : Written :=
  let b := Bytes.ofText s
  if b.length ≤ 32767 then .ok (writeInt16 (Int16.ofNat b.length) ++ b) else .error ⟨b.length⟩

/-- A text or none, which has the length -1. -/
def writeNullable : Option String → Written
  | none => .ok (writeInt16 (-1))
  | some s => writeString s

def writeOctets (b : Bytes) : Bytes := writeInt32 (Int32.ofNat b.length) ++ b

/-- The values one after another. -/
def writeEach {α : Type} (write : α → Written) : List α → Written
  | [] => .ok []
  | a :: r => do return (← write a) ++ (← writeEach write r)

def writeArray {α : Type} (write : α → Written) (xs : List α) : Written := do
  return writeInt32 (Int32.ofNat xs.length) ++ (← writeEach write xs)

def writeInt32s (ns : List Int32) : Bytes :=
  writeInt32 (Int32.ofNat ns.length) ++ ns.flatMap writeInt32

/-- Why octets are no value. -/
inductive ReadFault where
  | short (wanted available : Nat)
  | negativeLength (n : Int)
  | notText
  deriving DecidableEq, Repr

def ReadFault.message : ReadFault → String
  | .short wanted available =>
    s!"Not enough bytes remaining in buffer to read value (requested {wanted} but only {available} available)"
  | .negativeLength n => s!"Length is negative ({n})"
  | .notText => "invalid utf-8 sequence"

/-- Reads a value from the front and leaves the rest. -/
abbrev Reader := StateT Bytes (Except ReadFault)

def readOctets (n : Nat) : Reader Bytes := fun b =>
  if n ≤ b.length then .ok (b.take n, b.drop n) else .error (.short n b.length)

def readInt8 : Reader Int8
  | a :: r => .ok (a.toInt8, r)
  | b => .error (.short 1 b.length)

def readInt16 : Reader Int16
  | x :: y :: r => .ok ((Bytes.toUInt16 x y).toInt16, r)
  | b => .error (.short 2 b.length)

def readInt32 : Reader Int32
  | x :: y :: z :: w :: r => .ok ((Bytes.toUInt32 x y z w).toInt32, r)
  | b => .error (.short 4 b.length)

def readInt64 : Reader Int64
  | x :: y :: z :: w :: x' :: y' :: z' :: w' :: r =>
    .ok ((Bytes.toUInt64 x y z w x' y' z' w').toInt64, r)
  | b => .error (.short 8 b.length)

/-- Any octet but zero is true. -/
def readBool : Reader Bool
  | a :: r => .ok (a ≠ 0, r)
  | b => .error (.short 1 b.length)

def readText (n : Nat) : Reader String := do
  let b ← readOctets n
  match b.toText? with
  | some s => return s
  | none => throw .notText

def readString : Reader String := do
  let n ← readInt16
  if n < 0 then throw (.negativeLength n.toInt) else readText n.toInt.toNat

def readNullable : Reader (Option String) := do
  let n ← readInt16
  if n = -1 then return none
  else if n < 0 then throw (.negativeLength n.toInt)
  else return some (← readText n.toInt.toNat)

def readLong : Reader Bytes := do
  let n ← readInt32
  if n < 0 then throw (.negativeLength n.toInt) else readOctets n.toInt.toNat

/-- As many values as asked for. -/
def readEach {α : Type} (read : Reader α) : Nat → Reader (List α)
  | 0 => return []
  | n + 1 => do return (← read) :: (← readEach read n)

def readArray {α : Type} (read : Reader α) : Reader (List α) := do
  let n ← readInt32
  if n < 0 then throw (.negativeLength n.toInt) else readEach read n.toInt.toNat

/-- An array or none, which has the count -1. -/
def readNullableArray {α : Type} (read : Reader α) : Reader (Option (List α)) := do
  let n ← readInt32
  if n = -1 then return none
  else if n < 0 then throw (.negativeLength n.toInt)
  else return some (← readEach read n.toInt.toNat)

end ClusterAdmin.Wire
