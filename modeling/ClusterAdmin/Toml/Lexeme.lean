import ClusterAdmin.Json.Parser
import ClusterAdmin.Word

namespace ClusterAdmin.Toml

/-- A reader of the front of a text. -/
abbrev Lexer (α : Type) := List Char → Option (α × List Char)

def isSpace (c : Char) : Bool := c = ' ' || c = '\t'

def skipSpaces (cs : List Char) : List Char := cs.dropWhile isSpace

/-- A character that may stand in a comment: no control character but the tab. -/
def isPlain (c : Char) : Bool := c = '\t' || (32 ≤ c.toNat && c.toNat ≠ 127)

/-- What follows a line feed, alone or after a carriage return. -/
def newline? : List Char → Option (List Char)
  | '\n' :: r => some r
  | '\r' :: '\n' :: r => some r
  | _ => none

/-- A comment, if one starts here; none of its line's end is taken. -/
def skipComment : List Char → List Char
  | '#' :: r => r.dropWhile isPlain
  | cs => cs

/-- What follows the end of a line, which may have spaces and a comment before it. -/
def lineEnd? (cs : List Char) : Option (List Char) :=
  match skipComment (skipSpaces cs) with
  | [] => some []
  | r => newline? r

/-- Skips spaces, comments and ends of lines. `fuel` bounds the lines. -/
def skipLines : (fuel : Nat) → List Char → List Char
  | 0, cs => cs
  | fuel + 1, cs =>
    let r := skipComment (skipSpaces cs)
    match newline? r with
    | some r => skipLines fuel r
    | none => r

/-- The value of `n` hexadecimal digits at the front, after those of which `seen` is the value. -/
def hexDigits? : (n : Nat) → (seen : Nat) → Lexer Nat
  | 0, seen, cs => some (seen, cs)
  | n + 1, seen, c :: r => do
    let d ← Bytes.hexValue? c
    hexDigits? n (16 * seen + d) r
  | _ + 1, _, [] => none

/-- The character of a code point that has one. -/
def scalar? (n : Nat) : Option Char :=
  if n < 0xD800 ∨ (0xE000 ≤ n ∧ n < 0x110000) then some (Char.ofNat n) else none

/-- An escape, after its backslash. -/
def escape? : Lexer Char
  | 'b' :: r => some ('\x08', r)
  | 't' :: r => some ('\t', r)
  | 'n' :: r => some ('\n', r)
  | 'f' :: r => some ('\x0c', r)
  | 'r' :: r => some ('\r', r)
  | '"' :: r => some ('"', r)
  | '\\' :: r => some ('\\', r)
  | 'u' :: r => do
    let (n, r) ← hexDigits? 4 0 r
    return (← scalar? n, r)
  | 'U' :: r => do
    let (n, r) ← hexDigits? 8 0 r
    return (← scalar? n, r)
  | _ => none

/-- The rest of a text between quotes on one line. -/
def basic? : (fuel : Nat) → (seen : List Char) → Lexer (List Char)
  | 0, _, _ => none
  | _ + 1, seen, '"' :: r => some (seen.reverse, r)
  | fuel + 1, seen, '\\' :: r =>
    match escape? r with
    | some (c, r) => basic? fuel (c :: seen) r
    | none => none
  | fuel + 1, seen, c :: r => if isPlain c then basic? fuel (c :: seen) r else none
  | _ + 1, _, [] => none

/-- The rest of a text between apostrophes on one line. -/
def literal? : (seen : List Char) → Lexer (List Char)
  | _, [] => none
  | seen, c :: r =>
    if c = '\'' then some (seen.reverse, r)
    else if isPlain c then literal? (c :: seen) r
    else none

/-- The end of a text of many lines. Up to two of its own quotes may stand before the three that
close it. -/
def close? (quote : Char) (seen : List Char) (cs : List Char) : Option (List Char × List Char) :=
  let run := (cs.takeWhile (· = quote)).length
  if run < 3 then none
  else
    let own := min (run - 3) 2
    some ((List.replicate own quote ++ seen).reverse, cs.drop (own + 3))

/-- The rest of a text of many lines between triple quotes. A backslash at the end of a line drops
all blanks up to the next character. -/
def multiBasic? : (fuel : Nat) → (seen : List Char) → Lexer (List Char)
  | 0, _, _ => none
  | fuel + 1, seen, cs =>
    match close? '"' seen cs with
    | some found => some found
    | none =>
      match cs with
      | [] => none
      | '\\' :: r =>
        match escape? r with
        | some (c, r) => multiBasic? fuel (c :: seen) r
        | none =>
          match newline? (skipSpaces r) with
          | some r => multiBasic? fuel seen (skipBreaks fuel r)
          | none => none
      | c :: r =>
        match newline? (c :: r) with
        | some r => multiBasic? fuel ('\n' :: seen) r
        | none => if isPlain c then multiBasic? fuel (c :: seen) r else none
where
  /-- Skips spaces and ends of lines. -/
  skipBreaks : Nat → List Char → List Char
    | 0, cs => cs
    | fuel + 1, cs =>
      match newline? (skipSpaces cs) with
      | some r => skipBreaks fuel r
      | none => skipSpaces cs

/-- The rest of a text of many lines between triple apostrophes. -/
def multiLiteral? : (fuel : Nat) → (seen : List Char) → Lexer (List Char)
  | 0, _, _ => none
  | fuel + 1, seen, cs =>
    match close? '\'' seen cs with
    | some found => some found
    | none =>
      match cs with
      | [] => none
      | c :: r =>
        match newline? (c :: r) with
        | some r => multiLiteral? fuel ('\n' :: seen) r
        | none => if isPlain c then multiLiteral? fuel (c :: seen) r else none

/-- Drops the end of the line that opens a text of many lines. -/
def skipFirstBreak (cs : List Char) : List Char := (newline? cs).getD cs

/-- A text in any of its forms. -/
def text? : Lexer String
  | '"' :: '"' :: '"' :: r =>
    (multiBasic? (r.length + 1) [] (skipFirstBreak r)).map fun (s, r) => (String.ofList s, r)
  | '"' :: r => (basic? (r.length + 1) [] r).map fun (s, r) => (String.ofList s, r)
  | '\'' :: '\'' :: '\'' :: r =>
    (multiLiteral? (r.length + 1) [] (skipFirstBreak r)).map fun (s, r) => (String.ofList s, r)
  | '\'' :: r => (literal? [] r).map fun (s, r) => (String.ofList s, r)
  | _ => none

def isBareKey (c : Char) : Bool := c.isAlphanum || c = '_' || c = '-'

/-- One part of a key: bare, or a text on one line. -/
def keyPart? : Lexer String
  | '"' :: r => (basic? (r.length + 1) [] r).map fun (s, r) => (String.ofList s, r)
  | '\'' :: r => (literal? [] r).map fun (s, r) => (String.ofList s, r)
  | cs =>
    let (name, r) := cs.span isBareKey
    if name.isEmpty then none else some (String.ofList name, r)

/-- A key of one or more parts with points between them, and the spaces around it. -/
def key? : (fuel : Nat) → Lexer (List String)
  | 0, _ => none
  | fuel + 1, cs => do
    let (part, r) ← keyPart? (skipSpaces cs)
    match skipSpaces r with
    | '.' :: r =>
      let (rest, r) ← key? fuel r
      return (part :: rest, r)
    | r => return ([part], r)

/-- A key of less than eighty parts. -/
def path? : Lexer (List String) := fun cs => do
  let (path, r) ← key? (cs.length + 1) cs
  if path.length < 80 then some (path, r) else none

/-- Digits, with single underscores allowed between them. -/
def digits? (isDigit : Char → Bool) : (fuel : Nat) → Lexer (List Char)
  | 0, _ => none
  | fuel + 1, cs =>
    let (ds, r) := cs.span isDigit
    if ds.isEmpty then none
    else match r with
      | '_' :: r => (digits? isDigit fuel r).map fun (more, r) => (ds ++ more, r)
      | r => some (ds, r)

def decimals? (cs : List Char) : Option (List Char × List Char) :=
  digits? Char.isDigit (cs.length + 1) cs

/-- A sign if there is one: whether it is a minus, and the rest. -/
def sign : List Char → Bool × List Char
  | '-' :: r => (true, r)
  | '+' :: r => (false, r)
  | cs => (false, cs)

/-- A decimal whole number without needless zeros in front. -/
def wholeDigits? : Lexer (List Char) := fun cs => do
  let (ds, r) ← decimals? cs
  if ds.length > 1 ∧ ds.head? = some '0' then none else some (ds, r)

/-- A number in another base, after its two-character mark. -/
def based? (base : Nat) (isDigit : Char → Bool) : Lexer Int := fun cs => do
  let (ds, r) ← digits? isDigit (cs.length + 1) cs
  let n := ds.foldl (fun n d => base * n + (Bytes.hexValue? d).getD 0) 0
  if (n : Int) ≤ Word.maxInt64 then some ((n : Int), r) else none

/-- A whole number that fits 64 bits with a sign. -/
def integer? : Lexer Int
  | '0' :: 'x' :: r => based? 16 (fun c => (Bytes.hexValue? c).isSome) r
  | '0' :: 'o' :: r => based? 8 (fun c => '0' ≤ c && c ≤ '7') r
  | '0' :: 'b' :: r => based? 2 (fun c => c = '0' || c = '1') r
  | cs => do
    let (negative, r) := sign cs
    let (ds, r) ← wholeDigits? r
    let n : Int := Json.decimalValue ds
    let n := if negative then -n else n
    if Word.minInt64 ≤ n ∧ n ≤ Word.maxInt64 then some (n, r) else none

/-- Whether a number with these digits and this decimal exponent rounds to no double. -/
def overflows (digits : List Char) (exponent : Int) : Bool :=
  let m := Json.decimalValue digits
  let size : Int := (toString m).length + exponent
  if m = 0 ∨ size < 309 then false
  else if 309 < size then true
  else if 0 ≤ exponent then limit ≤ m * Nat.pow 10 exponent.toNat
  else limit * Nat.pow 10 (-exponent).toNat ≤ m
where
  /-- The middle between the largest double and the next power of two. -/
  limit : Nat := 1 <<< 1024 - 1 <<< 970

/-- A number with a fraction, an exponent or both, or one that is not finite; as it was written. -/
def float? (cs : List Char) : Option (String × List Char) := do
  let (negative, r) := sign cs
  let rest ← match r with
    | 'i' :: 'n' :: 'f' :: r => some r
    | 'n' :: 'a' :: 'n' :: r => some r
    | _ => do
      let (whole, r) ← wholeDigits? r
      let (fraction, r) ← match r with
        | '.' :: r => decimals? r
        | r => if (exponent? r).isSome then some ([], r) else none
      let (power, r) := (exponent? r).getD (0, r)
      if !negative && overflows (whole ++ fraction) (power - fraction.length) then none
      else some r
  return (String.ofList (cs.take (cs.length - rest.length)), rest)
where
  /-- An exponent. -/
  exponent? : Lexer Int
    | e :: r =>
      if e = 'e' ∨ e = 'E' then
        let (negative, r) := sign r
        (decimals? r).map fun (ds, r) =>
          let n : Int := Json.decimalValue ds
          (if negative then -n else n, r)
      else none
    | [] => none

/-- A number of exactly `n` digits from `low` to `high`. -/
def field? (n low high : Nat) : Lexer Nat := fun cs =>
  let ds := cs.take n
  let v := Json.decimalValue ds
  if ds.length = n ∧ ds.all Char.isDigit ∧ low ≤ v ∧ v ≤ high then some (v, cs.drop n) else none

def isLeap (year : Nat) : Bool := year % 4 = 0 && (year % 100 ≠ 0 || year % 400 = 0)

def daysIn (year month : Nat) : Nat :=
  if month = 2 then (if isLeap year then 29 else 28)
  else if month = 4 ∨ month = 6 ∨ month = 9 ∨ month = 11 then 30 else 31

/-- What follows a date. -/
def date? (cs : List Char) : Option (List Char) := do
  let (year, r) ← field? 4 0 9999 cs
  let '-' :: r := r | none
  let (month, r) ← field? 2 1 12 r
  let '-' :: r := r | none
  let (_, r) ← field? 2 1 (daysIn year month) r
  return r

/-- What follows a time of day. -/
def time? (cs : List Char) : Option (List Char) := do
  let (_, r) ← field? 2 0 23 cs
  let ':' :: r := r | none
  let (_, r) ← field? 2 0 59 r
  let ':' :: r := r | none
  let (_, r) ← field? 2 0 60 r
  match r with
  | '.' :: r =>
    let (ds, r) := r.span Char.isDigit
    if ds.isEmpty then none else some r
  | r => some r

/-- What follows an offset from universal time, or the time itself without one. -/
def offset? : List Char → Option (List Char)
  | c :: r =>
    if c = 'Z' ∨ c = 'z' then some r
    else if c = '+' ∨ c = '-' then do
      let (_, r) ← field? 2 0 23 r
      let ':' :: r := r | none
      let (_, r) ← field? 2 0 59 r
      return r
    else some (c :: r)
  | [] => some []

/-- A date, a time or both, as it was written. -/
def dateTime? (cs : List Char) : Option (String × List Char) := do
  let rest ← match date? cs with
    | some (c :: r) =>
      if c = 'T' ∨ c = 't' ∨ c = ' ' then
        match time? r with
        | some r => offset? r
        | none => if c = ' ' then some (c :: r) else none
      else some (c :: r)
    | some [] => some []
    | none => time? cs
  return (String.ofList (cs.take (cs.length - rest.length)), rest)

end ClusterAdmin.Toml
