import ClusterAdmin.Double

namespace ClusterAdmin.Double

/-- Whether a decimal number, `n` times ten to the `k`, rounds to a double other than zero. Halfway
to a neighbour still counts if the mantissa is even. All is counted in quarters of the step between
doubles of this exponent. -/
def roundsTo (x : Double) (n : Nat) (k : Int) : Bool :=
  let below := if x.mantissa = 1 <<< 52 ∧ least < x.exponent then 1 else 2
  let (p, q) := quotient 1 (x.exponent - 2)
  let (a, b) := if 0 ≤ k then (n * Nat.pow 10 k.toNat, 1) else (n, Nat.pow 10 (-k).toNat)
  let low := (4 * x.mantissa - below) * p * b
  let high := (4 * x.mantissa + 2) * p * b
  let place := a * q
  if x.mantissa % 2 = 0 then low ≤ place && place ≤ high else low < place && place < high

/-- The whole numbers around the double divided by ten to the `k`, the nearer one first. -/
def around (x : Double) (k : Int) : List Nat :=
  let (p, q) := quotient x.mantissa x.exponent
  let (a, b) := if 0 ≤ k then (p, q * Nat.pow 10 k.toNat) else (p * Nat.pow 10 (-k).toNat, q)
  let low := a / b
  if 2 * (a % b) < b ∨ (2 * (a % b) = b ∧ low % 2 = 0) then [low, low + 1] else [low + 1, low]

/-- The shortest decimal number that rounds to a double other than zero, with powers of ten that go
down from `k`; seventeen digits always do. -/
def search (x : Double) (k : Int) : (steps : Nat) → Nat × Int
  | 0 => ((around x k).headD 0, k)
  | steps + 1 =>
    match (around x k).find? (roundsTo x · k) with
    | some n => (n, k)
    | none => search x (k - 1) steps

/-- Moves zeros from the end of a number to its power of ten. -/
def withoutZeros (n : Nat) (k : Int) : (steps : Nat) → Nat × Int
  | 0 => (n, k)
  | steps + 1 => if n % 10 = 0 then withoutZeros (n / 10) (k + 1) steps else (n, k)

/-- The digits of a double other than zero and the power of ten of the last one. -/
def digits (x : Double) : Nat × Int :=
  let (p, q) := quotient x.mantissa x.exponent
  let size : Int := ((Nat.toDigits 10 p).length : Int) - (Nat.toDigits 10 q).length
  let (n, k) := search x (size + 1) 20
  withoutZeros n k 20

/-- Numbers from a hundred thousandth up to ten to the sixteenth are written in full, and others
with an exponent. -/
def text (x : Double) : List Char :=
  if x.mantissa = 0 then ['0', '.', '0']
  else
    let (n, k) := digits x
    let ds := Nat.toDigits 10 n
    let point : Int := ds.length + k
    if 0 ≤ k ∧ point ≤ 16 then ds ++ List.replicate k.toNat '0' ++ ['.', '0']
    else if 0 < point ∧ point ≤ 16 then ds.take point.toNat ++ '.' :: ds.drop point.toNat
    else if -5 < point ∧ point ≤ 0 then
      ['0', '.'] ++ List.replicate (-point).toNat '0' ++ ds
    else
      let exponent := point - 1
      ds.take 1 ++ (if ds.length = 1 then [] else '.' :: ds.drop 1) ++ ['e'] ++
        (if exponent < 0 then '-' :: Nat.toDigits 10 exponent.natAbs
          else Nat.toDigits 10 exponent.natAbs)

end ClusterAdmin.Double
