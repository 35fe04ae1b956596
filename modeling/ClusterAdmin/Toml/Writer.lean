import ClusterAdmin.Bytes

namespace ClusterAdmin.Toml

/-- A form of a text: the quote around it, and whether it may take many lines. -/
inductive Form where
  | basic
  | literal
  | multiBasic
  | multiLiteral
  deriving DecidableEq, Repr

/-- A control character that only an escape can show. -/
def isControl (c : Char) : Bool := (c.toNat < 32 && c ≠ '\t' && c ≠ '\n') || c.toNat = 127

/-- The length of the longest run of a character, after `run` of them. -/
def longestRun (quote : Char) : (run : Nat) → List Char → Nat
  | run, [] => run
  | run, c :: r =>
    if c = quote then longestRun quote (run + 1) r else max run (longestRun quote 0 r)

/-- The form in which a text is written. -/
def Form.of (cs : List Char) : Form :=
  let newline := cs.contains '\n'
  let escape := cs.contains '\\'
  let quotes := longestRun '"' 0 cs
  let apostrophes := longestRun '\'' 0 cs
  if cs.any isControl then if newline then .multiBasic else .basic
  else if !escape && quotes = 0 && !newline then .basic
  else if apostrophes = 0 && !newline then .literal
  else if !escape && quotes ≤ 2 then .multiBasic
  else if apostrophes ≤ 2 then .multiLiteral
  else if newline then .multiBasic else .basic

/-- The escape of a character that is not a quote, or the character itself. -/
def escaped (c : Char) : List Char :=
  if c = '\x08' then ['\\', 'b']
  else if c = '\t' then ['\\', 't']
  else if c = '\x0c' then ['\\', 'f']
  else if c = '\r' then ['\\', 'r']
  else if c = '\\' then ['\\', '\\']
  else if isControl c then
    ['\\', 'u', '0', '0', (Bytes.hexDigit (c.toNat / 16)).toUpper,
      (Bytes.hexDigit (c.toNat % 16)).toUpper]
  else [c]

/-- What stands between quotes. `own` quotes in a row may stand as they are, of which `seen` have
just been written; the next one is escaped. -/
def writeEscaped (own : Nat) : (seen : Nat) → List Char → List Char
  | _, [] => []
  | seen, c :: r =>
    if c = '"' then
      if seen < own then '"' :: writeEscaped own (seen + 1) r
      else '\\' :: '"' :: writeEscaped own 0 r
    else escaped c ++ writeEscaped own 0 r

def writeChars (cs : List Char) : List Char :=
  let first := if cs.contains '\n' then ['\n'] else []
  match Form.of cs with
  | .basic => ['"'] ++ writeEscaped 0 0 cs ++ ['"']
  | .literal => ['\''] ++ cs ++ ['\'']
  | .multiBasic => "\"\"\"".toList ++ first ++ writeEscaped 2 0 cs ++ "\"\"\"".toList
  | .multiLiteral => "'''".toList ++ first ++ cs ++ "'''".toList

def writeText (s : String) : String := String.ofList (writeChars s.toList)

end ClusterAdmin.Toml
