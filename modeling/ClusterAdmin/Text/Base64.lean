import ClusterAdmin.Bytes

namespace ClusterAdmin.Text.Base64

/-- The character of a six-bit value. -/
def digit (n : Nat) : Char :=
  if n < 26 then Char.ofNat (65 + n)
  else if n < 52 then Char.ofNat (71 + n)
  else if n < 62 then Char.ofNat (n - 4)
  else if n = 62 then '+' else '/'

/-- The six-bit value of a character. -/
def value? (c : Char) : Option Nat :=
  if 'A' ≤ c ∧ c ≤ 'Z' then some (c.toNat - 65)
  else if 'a' ≤ c ∧ c ≤ 'z' then some (c.toNat - 71)
  else if '0' ≤ c ∧ c ≤ '9' then some (c.toNat + 4)
  else if c = '+' then some 62
  else if c = '/' then some 63
  else none

def encode : Bytes → List Char
  | [] => []
  | [a] => [digit (a.toNat / 4), digit (a.toNat % 4 * 16), '=', '=']
  | [a, b] =>
    [digit (a.toNat / 4), digit (a.toNat % 4 * 16 + b.toNat / 16), digit (b.toNat % 16 * 4), '=']
  | a :: b :: c :: r =>
    digit (a.toNat / 4) :: digit (a.toNat % 4 * 16 + b.toNat / 16) ::
      digit (b.toNat % 16 * 4 + c.toNat / 64) :: digit (c.toNat % 64) :: encode r

/-- The octet of a last group that ends in two pads. -/
def lastOne? (a b : Char) : Option Bytes := do
  let x ← value? a
  let y ← value? b
  if y % 16 = 0 then some [UInt8.ofNat (x * 4 + y / 16)] else none

/-- The two octets of a last group that ends in one pad. -/
def lastTwo? (a b c : Char) : Option Bytes := do
  let x ← value? a
  let y ← value? b
  let z ← value? c
  if z % 4 = 0 then some [UInt8.ofNat (x * 4 + y / 16), UInt8.ofNat (y * 16 + z / 4)] else none

/-- The three octets of a full group. -/
def group? (a b c d : Char) : Option (UInt8 × UInt8 × UInt8) := do
  let x ← value? a
  let y ← value? b
  let z ← value? c
  let w ← value? d
  return (UInt8.ofNat (x * 4 + y / 16), UInt8.ofNat (y * 16 + z / 4), UInt8.ofNat (z * 64 + w))

/-- Reads whole groups of four. The padding must be there, and the bits it stands for must be
zero. -/
def decode? : List Char → Option Bytes
  | [] => some []
  | [a, b, '=', '='] => lastOne? a b
  | [a, b, c, '='] => lastTwo? a b c
  | a :: b :: c :: d :: r => do
    let (x, y, z) ← group? a b c d
    return x :: y :: z :: (← decode? r)
  | _ => none

/-- As `decode?`, but the padding may be left out, and the bits after the last octet may be any. -/
def decodeLoose? : List Char → Option Bytes
  | [] => some []
  | [a, b] | [a, b, '=', '='] => do
    let x ← value? a
    let y ← value? b
    return [UInt8.ofNat (x * 4 + y / 16)]
  | [a, b, c] | [a, b, c, '='] => do
    let x ← value? a
    let y ← value? b
    let z ← value? c
    return [UInt8.ofNat (x * 4 + y / 16), UInt8.ofNat (y * 16 + z / 4)]
  | a :: b :: c :: d :: r => do
    let (x, y, z) ← group? a b c d
    return x :: y :: z :: (← decodeLoose? r)
  | _ => none

def encodeText (b : Bytes) : String := String.ofList (encode b)

theorem value?_digit {n : Nat} (h : n < 64) : value? (digit n) = some n := by
  have hall : ∀ m ∈ List.range 64, value? (digit m) = some m := by decide
  exact hall n (List.mem_range.mpr h)

theorem digit_ne_pad {n : Nat} (h : n < 64) : digit n ≠ '=' := by
  have hall : ∀ m ∈ List.range 64, digit m ≠ '=' := by decide
  exact hall n (List.mem_range.mpr h)

theorem lastOne?_digit (a : UInt8) :
    lastOne? (digit (a.toNat / 4)) (digit (a.toNat % 4 * 16)) = some [a] := by
  have ha := a.toNat_lt
  have hx : UInt8.ofNat (a.toNat / 4 * 4 + a.toNat % 4 * 16 / 16) = a := Bytes.octet_eq (by omega)
  rw [lastOne?, value?_digit (by omega), value?_digit (by omega)]
  simp only [Option.bind_eq_bind, Option.bind_some, hx, Nat.mul_mod_left, ↓reduceIte]

theorem lastTwo?_digit (a b : UInt8) :
    lastTwo? (digit (a.toNat / 4)) (digit (a.toNat % 4 * 16 + b.toNat / 16))
      (digit (b.toNat % 16 * 4)) = some [a, b] := by
  have ha := a.toNat_lt
  have hb := b.toNat_lt
  have hx : UInt8.ofNat (a.toNat / 4 * 4 + (a.toNat % 4 * 16 + b.toNat / 16) / 16) = a :=
    Bytes.octet_eq (by omega)
  have hy : UInt8.ofNat ((a.toNat % 4 * 16 + b.toNat / 16) * 16 + b.toNat % 16 * 4 / 4) = b :=
    Bytes.octet_eq (by omega)
  rw [lastTwo?, value?_digit (by omega), value?_digit (by omega), value?_digit (by omega)]
  simp only [Option.bind_eq_bind, Option.bind_some, hx, hy, Nat.mul_mod_left, ↓reduceIte]

theorem group?_digit (a b c : UInt8) :
    group? (digit (a.toNat / 4)) (digit (a.toNat % 4 * 16 + b.toNat / 16))
      (digit (b.toNat % 16 * 4 + c.toNat / 64)) (digit (c.toNat % 64)) = some (a, b, c) := by
  have ha := a.toNat_lt
  have hb := b.toNat_lt
  have hc := c.toNat_lt
  have hx : UInt8.ofNat (a.toNat / 4 * 4 + (a.toNat % 4 * 16 + b.toNat / 16) / 16) = a :=
    Bytes.octet_eq (by omega)
  have hy : UInt8.ofNat ((a.toNat % 4 * 16 + b.toNat / 16) * 16 +
      (b.toNat % 16 * 4 + c.toNat / 64) / 4) = b := Bytes.octet_eq (by omega)
  have hz : UInt8.ofNat ((b.toNat % 16 * 4 + c.toNat / 64) * 64 + c.toNat % 64) = c :=
    Bytes.octet_eq (by omega)
  rw [group?, value?_digit (by omega), value?_digit (by omega), value?_digit (by omega),
    value?_digit (by omega)]
  simp only [Option.bind_eq_bind, Option.bind_some, hx, hy, hz, Option.pure_def]

theorem decode?_group {a b c d : Char} (hd : d ≠ '=') (r : List Char) :
    decode? (a :: b :: c :: d :: r) =
      (group? a b c d).bind fun g => (decode? r).map fun t => g.1 :: g.2.1 :: g.2.2 :: t := by
  rw [decode?.eq_4]
  · cases group? a b c d <;> cases decode? r <;> rfl
  · rintro - rfl
    exact absurd rfl hd
  · rintro rfl
    exact absurd rfl hd

/-- What was written is read as what it was. -/
@[simp] theorem decode?_encode (b : Bytes) : decode? (encode b) = some b := by
  fun_induction encode b with
  | case1 => rfl
  | case2 a => rw [decode?, lastOne?_digit]
  | case3 a b =>
    have hb := b.toNat_lt
    rw [decode?, lastTwo?_digit]
    exact fun h => absurd h (digit_ne_pad (by omega))
  | case4 a b c r ih =>
    have hc := c.toNat_lt
    rw [decode?_group (digit_ne_pad (by omega)), group?_digit, ih]
    rfl

/-- Only digits and pads are written. -/
theorem forall_mem_encode {P : Char → Prop} (hpad : P '=') (hdigit : ∀ n < 64, P (digit n))
    (b : Bytes) : ∀ c ∈ encode b, P c := by
  fun_induction encode b with
  | case1 => simp
  | case2 a =>
    have ha := a.toNat_lt
    simp only [List.forall_mem_cons, hpad]
    exact ⟨hdigit _ (by omega), hdigit _ (by omega), trivial, trivial, by simp⟩
  | case3 a b =>
    have ha := a.toNat_lt
    have hb := b.toNat_lt
    simp only [List.forall_mem_cons, hpad]
    exact ⟨hdigit _ (by omega), hdigit _ (by omega), hdigit _ (by omega), trivial, by simp⟩
  | case4 a b c r ih =>
    have ha := a.toNat_lt
    have hb := b.toNat_lt
    have hc := c.toNat_lt
    simp only [List.forall_mem_cons]
    exact ⟨hdigit _ (by omega), hdigit _ (by omega), hdigit _ (by omega), hdigit _ (by omega), ih⟩

theorem comma_not_mem_encode (b : Bytes) : ',' ∉ encode b := by
  have hdigit : ∀ n ∈ List.range 64, digit n ≠ ',' := by decide
  have hall : ∀ c ∈ encode b, c ≠ ',' :=
    forall_mem_encode (by decide) (fun n hn => hdigit n (List.mem_range.mpr hn)) b
  exact fun h => hall ',' h rfl

end ClusterAdmin.Text.Base64
