namespace ClusterAdmin

/-- An octet string. -/
abbrev Bytes := List UInt8

namespace Bytes

/-- The UTF-8 form of a text. -/
def ofText (s : String) : Bytes := s.toUTF8.toList

/-- The text whose UTF-8 form this is, if there is one. -/
def toText? (b : Bytes) : Option String := String.fromUTF8? (ByteArray.mk b.toArray)

/-- The lower-case digit of a value below sixteen. -/
def hexDigit (n : Nat) : Char := if n < 10 then Char.ofNat (48 + n) else Char.ofNat (87 + n)

/-- Two lower-case digits for each octet. -/
def toHex (b : Bytes) : String :=
  String.ofList (b.flatMap fun x => [hexDigit (x.toNat / 16), hexDigit (x.toNat % 16)])

/-- The value of a hexadecimal digit of either case. -/
def hexValue? (c : Char) : Option Nat :=
  if '0' ≤ c ∧ c ≤ '9' then some (c.toNat - 48)
  else if 'a' ≤ c ∧ c ≤ 'f' then some (c.toNat - 87)
  else if 'A' ≤ c ∧ c ≤ 'F' then some (c.toNat - 55)
  else none

/-- Reads pairs of hexadecimal digits. -/
def ofHexDigits? : List Char → Option Bytes
  | [] => some []
  | [_] => none
  | a :: b :: r => do
    let x ← hexValue? a
    let y ← hexValue? b
    return UInt8.ofNat (16 * x + y) :: (← ofHexDigits? r)

def ofHex? (s : String) : Option Bytes := ofHexDigits? s.toList

/-- The two octets of a word, the high one first. -/
def ofUInt16 (w : UInt16) : Bytes := [UInt8.ofNat (w.toNat / 256), UInt8.ofNat w.toNat]

/-- The four octets of a word, the highest first. -/
def ofUInt32 (w : UInt32) : Bytes :=
  [UInt8.ofNat (w.toNat / 16777216), UInt8.ofNat (w.toNat / 65536), UInt8.ofNat (w.toNat / 256),
    UInt8.ofNat w.toNat]

/-- The eight octets of a word: its high half, then its low half. -/
def ofUInt64 (w : UInt64) : Bytes :=
  ofUInt32 (UInt32.ofNat (w.toNat / 4294967296)) ++ ofUInt32 (UInt32.ofNat w.toNat)

def toUInt16 (a b : UInt8) : UInt16 := UInt16.ofNat (256 * a.toNat + b.toNat)

def toUInt32 (a b c d : UInt8) : UInt32 :=
  UInt32.ofNat (16777216 * a.toNat + 65536 * b.toNat + 256 * c.toNat + d.toNat)

def toUInt64 (a b c d e f g h : UInt8) : UInt64 :=
  UInt64.ofNat
    (4294967296 * (toUInt32 a b c d).toNat + (toUInt32 e f g h).toNat)

@[simp] theorem length_ofUInt16 (w : UInt16) : (ofUInt16 w).length = 2 := rfl
@[simp] theorem length_ofUInt32 (w : UInt32) : (ofUInt32 w).length = 4 := rfl
@[simp] theorem length_ofUInt64 (w : UInt64) : (ofUInt64 w).length = 8 := rfl

theorem toUInt16_ofUInt16 (w : UInt16) :
    toUInt16 (UInt8.ofNat (w.toNat / 256)) (UInt8.ofNat w.toNat) = w := by
  apply UInt16.toNat_inj.mp
  have := w.toNat_lt
  simp [toUInt16]
  omega

theorem toUInt32_ofUInt32 (w : UInt32) :
    toUInt32 (UInt8.ofNat (w.toNat / 16777216)) (UInt8.ofNat (w.toNat / 65536))
      (UInt8.ofNat (w.toNat / 256)) (UInt8.ofNat w.toNat) = w := by
  apply UInt32.toNat_inj.mp
  have := w.toNat_lt
  simp [toUInt32]
  omega

theorem octet_eq {n : Nat} {a : UInt8} (h : n % 256 = a.toNat) : UInt8.ofNat n = a :=
  UInt8.toNat_inj.mp (by rw [UInt8.toNat_ofNat', h])

theorem ofUInt32_toUInt32 (x y z w : UInt8) : ofUInt32 (toUInt32 x y z w) = [x, y, z, w] := by
  have hx := x.toNat_lt
  have hy := y.toNat_lt
  have hz := z.toNat_lt
  have hw := w.toNat_lt
  have hn : (toUInt32 x y z w).toNat =
      16777216 * x.toNat + 65536 * y.toNat + 256 * z.toNat + w.toNat := by
    simp only [toUInt32, UInt32.toNat_ofNat']
    omega
  rw [ofUInt32, hn, octet_eq (a := x) (by omega), octet_eq (a := y) (by omega),
    octet_eq (a := z) (by omega), octet_eq (a := w) (by omega)]

theorem toList_loop (b : ByteArray) (i : Nat) (r : Bytes) :
    ByteArray.toList.loop b i r = r.reverse ++ b.data.toList.drop i := by
  fun_induction ByteArray.toList.loop b i r with
  | case1 i r h ih =>
    have hi : i < b.data.toList.length := by simpa using h
    have hget : b.get! i = b.data[i]! := by cases b; rfl
    rw [ih, List.drop_eq_getElem_cons hi, hget, getElem!_pos b.data i h]
    simp
  | case2 i r h =>
    rw [List.drop_eq_nil_of_le (by simpa using Nat.le_of_not_lt h), List.append_nil]

/-- A text is what its octets are read as. -/
@[simp] theorem toText?_ofText (s : String) : (ofText s).toText? = some s := by
  have h : ByteArray.mk (ofText s).toArray = s.toByteArray := by
    rw [ofText, ByteArray.toList, toList_loop]
    rfl
  rw [toText?, h, String.fromUTF8?, dif_pos s.isValidUTF8]
  rfl

end Bytes

end ClusterAdmin
