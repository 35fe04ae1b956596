namespace ClusterAdmin

/-- The number `mantissa` times two to the `exponent`. The mantissa has 53 binary digits, or fewer
with the least exponent. -/
structure Double where
  mantissa : Nat
  exponent : Int
  deriving DecidableEq, Repr

namespace Double

/-- The exponent of the smallest doubles. -/
abbrev least : Int := -1074

/-- The exponent of the largest doubles. -/
abbrev greatest : Int := 971

def zero : Double := ⟨0, least⟩

/-- A quotient rounded to the nearest whole number, to the even one of two. -/
def nearest (a b : Nat) : Nat :=
  let q := a / b
  let twice := 2 * (a % b)
  if twice < b then q else if b < twice then q + 1 else q + q % 2

/-- The number `a` times two to the `e` as a quotient. -/
def quotient (a : Nat) (e : Int) : Nat × Nat :=
  if 0 ≤ e then (a <<< e.toNat, 1) else (a, 1 <<< (-e).toNat)

/-- The exponent of the largest power of two that is not above a quotient of positive numbers. -/
def log (a b : Nat) : Int :=
  let e : Int := (Nat.log2 a : Int) - Nat.log2 b
  let (p, q) := quotient b e
  if a * q < p then e - 1 else e

/-- The double nearest to `a` divided by `b` times two to the `e`, if there is one in range. -/
def ofQuotient? (a b : Nat) (e : Int) : Option Double :=
  if a = 0 then some zero
  else
    let exponent := max least (log a b + e - 52)
    let (p, q) := quotient a (e - exponent)
    let mantissa := nearest p (b * q)
    let whole := if mantissa = 1 <<< 53 then ⟨1 <<< 52, exponent + 1⟩ else ⟨mantissa, exponent⟩
    if greatest < whole.exponent then none else some whole

def ofNat? (n : Nat) : Option Double := ofQuotient? n 1 0

def mul? (x y : Double) : Option Double :=
  ofQuotient? (x.mantissa * y.mantissa) 1 (x.exponent + y.exponent)

/-- The quotient by a double other than zero. -/
def div? (x y : Double) : Option Double :=
  ofQuotient? x.mantissa y.mantissa (x.exponent - y.exponent)

/-- The double nearest to a power of ten. -/
def tenTo? (n : Nat) : Option Double := ofNat? (Nat.pow 10 n)

/-- The significand times a power of ten, rounded after each step. Steps of more than 308 powers are
not taken upwards, and one by one downwards; `steps` bounds how many. -/
def scale? (x : Double) (exponent : Int) : (steps : Nat) → Option Double
  | 0 => some zero
  | steps + 1 =>
    if exponent.natAbs ≤ 308 then do
      let power ← tenTo? exponent.natAbs
      if 0 ≤ exponent then x.mul? power else x.div? power
    else if x.mantissa = 0 then some zero
    else if 0 ≤ exponent then none
    else do
      let smaller ← x.div? (← tenTo? 308)
      scale? smaller (exponent + 308) steps

/-- The number that digits and a power of ten stand for. The digits fit a word of 64 bits, so three
steps downwards reach zero. -/
def ofDecimal? (significand : Nat) (exponent : Int) : Option Double := do
  scale? (← ofNat? significand) exponent 4

end Double

end ClusterAdmin
