import ClusterAdmin.Bytes

namespace ClusterAdmin.Rest.Domain.Punycode

/-- The digits are the letters, then the ten digits. -/
def digit (n : Nat) : Char := if n < 26 then Char.ofNat (97 + n) else Char.ofNat (22 + n)

def value? (c : Char) : Option Nat :=
  if 'a' ≤ c ∧ c ≤ 'z' then some (c.toNat - 97)
  else if 'A' ≤ c ∧ c ≤ 'Z' then some (c.toNat - 65)
  else if '0' ≤ c ∧ c ≤ '9' then some (c.toNat - 22)
  else none

/-- A digit below this ends a number. `place` counts the digits in steps of 36. -/
def threshold (place bias : Nat) : Nat := max 1 (min 26 (place - bias))

theorem threshold_pos (place bias : Nat) : 0 < threshold place bias := by
  simp only [threshold]
  omega

/-- How often a distance is cut down before it is small, and what is left of it. -/
def reductions (delta : Nat) : Nat × Nat :=
  if 455 < delta then
    let (n, rest) := reductions (delta / 35)
    (n + 1, rest)
  else (0, delta)
termination_by delta
decreasing_by omega

/-- The bias for the distance after `delta`, of which there were `count` so far. -/
def adapt (delta count : Nat) (isFirst : Bool) : Nat :=
  let scaled := if isFirst then delta / 700 else delta / 2
  let (n, rest) := reductions (scaled + scaled / count)
  36 * n + 36 * rest / (rest + 38)

/-- A number in digits, the lowest first. -/
def digits (place bias n : Nat) : List Char :=
  let t := threshold place bias
  if n < t then [digit n]
  else digit (t + (n - t) % (36 - t)) :: digits (place + 36) bias ((n - t) / (36 - t))
termination_by n
decreasing_by
  have := Nat.div_le_self (n - threshold place bias) (36 - threshold place bias)
  have := threshold_pos place bias
  omega

structure Encoder where
  out : List Char
  /-- The distance since the last character written. -/
  delta : Nat
  bias : Nat
  /-- How many characters are written. -/
  count : Nat

/-- Passes a character of the label while those with the code point `n` are written. Of the label,
`start` characters were ASCII. -/
def Encoder.pass (start n : Nat) (e : Encoder) (c : Char) : Encoder :=
  if c.toNat < n then { e with delta := e.delta + 1 }
  else if c.toNat = n then
    ⟨e.out ++ digits 36 e.bias e.delta, 0, adapt e.delta (e.count + 1) (e.count == start),
      e.count + 1⟩
  else e

/-- Writes the characters of the label that have the code points given, which ascend from `n`. -/
def encodeFrom (label : List Char) (start : Nat) : Nat → Encoder → List Nat → Encoder
  | _, e, [] => e
  | n, e, m :: ms =>
    let e := { e with delta := e.delta + (m - n) * (e.count + 1) }
    let e := label.foldl (Encoder.pass start m) e
    encodeFrom label start (m + 1) { e with delta := e.delta + 1 } ms

def encode (label : List Char) : List Char :=
  let ascii := label.filter (·.toNat < 128)
  let others := ((label.map Char.toNat).filter (128 ≤ ·)).mergeSort.eraseReps
  let lead := if ascii.isEmpty then [] else ascii ++ ['-']
  lead ++ (encodeFrom label ascii.length 128 ⟨[], 0, 72, ascii.length⟩ others).out

structure Decoder where
  out : List Char
  /-- The code point of the last character inserted. -/
  point : Nat
  /-- Where the last one was inserted, and one more. -/
  index : Nat
  bias : Nat
  /-- The part read of the number at hand, and what the next digit counts. -/
  sum : Nat
  weight : Nat
  place : Nat

/-- Before the first digit of a number. -/
def Decoder.isIdle (d : Decoder) : Bool := d.place == 36

/-- Numbers stay below this. -/
def limit : Nat := 4294967296

/-- Puts the next character in its place. -/
def Decoder.insert (d : Decoder) (delta : Nat) : Option Decoder :=
  let count := d.out.length + 1
  let total := d.index + delta
  let point := d.point + total / count
  let slot := total % count
  if total < limit ∧ point.isValidChar then
    some ⟨d.out.take slot ++ Char.ofNat point :: d.out.drop slot, point, slot + 1,
      adapt delta count (d.index == 0), 0, 1, 36⟩
  else none

def Decoder.read (d : Decoder) (c : Char) : Option Decoder := do
  let v ← value? c
  let t := threshold d.place d.bias
  let sum := d.sum + v * d.weight
  if v < t then d.insert sum
  else if d.index + sum < limit ∧ d.weight * (36 - t) < limit then
    some { d with sum, weight := d.weight * (36 - t), place := d.place + 36 }
  else none

/-- What stands before and after the last hyphen, unless that is the first character. -/
def splitAtLast (t : List Char) : List Char × List Char :=
  let back := t.reverse
  match back.dropWhile (· ≠ '-') with
  | _ :: lead => if lead.isEmpty then ([], t) else (lead.reverse, (back.takeWhile (· ≠ '-')).reverse)
  | [] => ([], t)

/-- The label that has this ASCII form. -/
def decode? (t : List Char) : Option (List Char) := do
  let (ascii, rest) := splitAtLast t
  let d ← rest.foldlM Decoder.read ⟨ascii, 128, 0, 72, 0, 1, 36⟩
  if d.isIdle then some d.out else none

end ClusterAdmin.Rest.Domain.Punycode
