import ClusterAdmin.Json.Basic
import ClusterAdmin.Bytes
import ClusterAdmin.Double.Shortest
import ClusterAdmin.Word

namespace ClusterAdmin.Json

def isBlank (c : Char) : Bool := c = ' ' || c = '\n' || c = '\t' || c = '\r'

def skipBlanks (cs : List Char) : List Char := cs.dropWhile isBlank

/-- The value of four hexadecimal digits at the front. -/
def hex4? : List Char → Option (Nat × List Char)
  | a :: b :: c :: d :: r => do
    let w ← Bytes.hexValue? a
    let x ← Bytes.hexValue? b
    let y ← Bytes.hexValue? c
    let z ← Bytes.hexValue? d
    return (((w * 16 + x) * 16 + y) * 16 + z, r)
  | _ => none

/-- The character of an escape, after its backslash and `u`; two escapes make one pair. -/
def unicodeEscape? (cs : List Char) : Option (Char × List Char) := do
  let (n, r) ← hex4? cs
  if n < 0xD800 ∨ 0xE000 ≤ n then return (Char.ofNat n, r)
  else if n < 0xDC00 then
    match r with
    | '\\' :: 'u' :: r =>
      let (m, r) ← hex4? r
      if 0xDC00 ≤ m ∧ m < 0xE000 then
        return (Char.ofNat (0x10000 + (n - 0xD800) * 0x400 + (m - 0xDC00)), r)
      else none
    | _ => none
  else none

/-- What one backslash and letter stand for. -/
def simpleEscape? : Char → Option Char
  | '"' => some '"'
  | '\\' => some '\\'
  | '/' => some '/'
  | 'b' => some '\x08'
  | 'f' => some '\x0c'
  | 'n' => some '\n'
  | 'r' => some '\r'
  | 't' => some '\t'
  | _ => none

/-- The rest of a text, after its opening quote: `seen` holds its characters so far, the last first,
and `fuel` bounds how many may come. -/
def readText? : (fuel : Nat) → (seen : List Char) → List Char → Option (List Char × List Char)
  | 0, _, _ => none
  | fuel + 1, seen, cs =>
    match cs with
    | [] => none
    | '"' :: r => some (seen.reverse, r)
    | '\\' :: 'u' :: r =>
      match unicodeEscape? r with
      | some (c, r) => readText? fuel (c :: seen) r
      | none => none
    | '\\' :: e :: r =>
      match simpleEscape? e with
      | some c => readText? fuel (c :: seen) r
      | none => none
    | c :: r => if c.toNat < 32 ∨ c = '\\' then none else readText? fuel (c :: seen) r

def takeDigits (cs : List Char) : List Char × List Char := cs.span Char.isDigit

def decimalValue (ds : List Char) : Nat := ds.foldl (fun n d => 10 * n + (d.toNat - 48)) 0

/-- The digits of a fraction in front, none if there is no point. -/
def readFraction? : List Char → Option (List Char × List Char)
  | '.' :: r =>
    let (ds, r) := takeDigits r
    if ds.isEmpty then none else some (ds, r)
  | cs => some ([], cs)

/-- An exponent in front, if there is one. -/
def readExponent? : List Char → Option (Option Int × List Char)
  | [] => some (none, [])
  | e :: r =>
    if e = 'e' ∨ e = 'E' then
      let (negative, r) := match r with
        | '+' :: r => (false, r)
        | '-' :: r => (true, r)
        | _ => (false, r)
      let (ds, r) := takeDigits r
      let n : Int := decimalValue ds
      if ds.isEmpty then none else some (some (if negative then -n else n), r)
    else some (none, e :: r)

/-- The value of digits after those of which `n` is the value, as far as it fits 64 bits, and how
many digits are left over. -/
def gather (n : Nat) : List Char → Nat × Nat
  | [] => (n, 0)
  | d :: ds =>
    let m := 10 * n + (d.toNat - 48)
    if m ≤ Word.maxNat64 then gather m ds else (n, ds.length + 1)

/-- The double that digits stand for. Digits of the fraction that no longer fit are passed over. -/
def double? (whole fraction : List Char) (exponent : Int) : Option Double :=
  let (n, left) := gather 0 whole
  let (m, unused) := gather n fraction
  Double.ofDecimal? m (left + exponent - (fraction.length - unused))

/-- A number in front. A whole number outside 64 bits, and minus zero, count as decimals. -/
def readNumber? (cs : List Char) : Option (Json × List Char) := do
  let (negative, cs) := match cs with
    | '-' :: r => (true, r)
    | _ => (false, cs)
  let (whole, cs) := takeDigits cs
  if whole.isEmpty ∨ (whole.length > 1 ∧ whole.head? = some '0') then none
  else
    let (fraction, cs) ← readFraction? cs
    let (exponent, rest) ← readExponent? cs
    let n := decimalValue whole
    let isWhole := fraction.isEmpty ∧ exponent.isNone
    if isWhole ∧ negative ∧ 0 < n ∧ Word.minInt64 ≤ -(n : Int) then return (.int (-n), rest)
    else if isWhole ∧ ¬negative ∧ n ≤ Word.maxNat64 then return (.int n, rest)
    else
      let x ← double? whole fraction (exponent.getD 0)
      return (.decimal (String.ofList ((if negative then ['-'] else []) ++ x.text)), rest)

mutual

/-- A value in front, after blanks. `depth` is how many lists and objects may still open. -/
def readValue? : (fuel depth : Nat) → List Char → Option (Json × List Char)
  | 0, _, _ => none
  | fuel + 1, depth, cs =>
    match skipBlanks cs with
    | 'n' :: 'u' :: 'l' :: 'l' :: r => some (.null, r)
    | 't' :: 'r' :: 'u' :: 'e' :: r => some (.bool true, r)
    | 'f' :: 'a' :: 'l' :: 's' :: 'e' :: r => some (.bool false, r)
    | '"' :: r => (readText? (r.length + 1) [] r).map fun (s, r) => (.text (String.ofList s), r)
    | '[' :: r =>
      match depth with
      | 0 => none
      | depth + 1 =>
        match skipBlanks r with
        | ']' :: r => some (.list [], r)
        | r => (readItems? fuel depth r).map fun (xs, r) => (.list xs, r)
    | '\x7b' :: r =>
      match depth with
      | 0 => none
      | depth + 1 =>
        match skipBlanks r with
        | '\x7d' :: r => some (.object [], r)
        | r => (readFields? fuel depth r).map fun (fs, r) => (.object fs, r)
    | r => readNumber? r

/-- One or more items and the closing bracket. -/
def readItems? : (fuel depth : Nat) → List Char → Option (List Json × List Char)
  | 0, _, _ => none
  | fuel + 1, depth, cs => do
    let (x, r) ← readValue? fuel depth cs
    match skipBlanks r with
    | ',' :: r =>
      let (xs, r) ← readItems? fuel depth r
      return (x :: xs, r)
    | ']' :: r => return ([x], r)
    | _ => none

/-- One or more fields and the closing brace. -/
def readFields? : (fuel depth : Nat) → List Char → Option (List (String × Json) × List Char)
  | 0, _, _ => none
  | fuel + 1, depth, cs => do
    match skipBlanks cs with
    | '"' :: r =>
      let (name, r) ← readText? (r.length + 1) [] r
      match skipBlanks r with
      | ':' :: r =>
        let (v, r) ← readValue? fuel depth r
        let field := (String.ofList name, v)
        match skipBlanks r with
        | ',' :: r =>
          let (fs, r) ← readFields? fuel depth r
          return (field :: fs, r)
        | '\x7d' :: r => return ([field], r)
        | _ => none
      | _ => none
    | _ => none

end

/-- The value that a whole text stands for. At most 127 lists and objects may be open at once. -/
def parse? (s : String) : Option Json := do
  let cs := s.toList
  let (v, rest) ← readValue? (2 * cs.length + 2) 127 cs
  if (skipBlanks rest).isEmpty then some v else none

end ClusterAdmin.Json
