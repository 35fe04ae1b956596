import ClusterAdmin.Json.Basic
import ClusterAdmin.Bytes

namespace ClusterAdmin.Json

/-- A character inside a text. -/
def escaped (c : Char) : List Char :=
  if c = '"' then ['\\', '"']
  else if c = '\\' then ['\\', '\\']
  else if c = '\x08' then ['\\', 'b']
  else if c = '\t' then ['\\', 't']
  else if c = '\n' then ['\\', 'n']
  else if c = '\x0c' then ['\\', 'f']
  else if c = '\r' then ['\\', 'r']
  else if c.toNat < 32 then
    ['\\', 'u', '0', '0', Bytes.hexDigit (c.toNat / 16), Bytes.hexDigit (c.toNat % 16)]
  else [c]

def printText (s : String) : List Char := '"' :: s.toList.flatMap escaped ++ ['"']

mutual

def print : Json → List Char
  | .null => ['n', 'u', 'l', 'l']
  | .bool true => ['t', 'r', 'u', 'e']
  | .bool false => ['f', 'a', 'l', 's', 'e']
  | .int n => (toString n).toList
  | .decimal s => s.toList
  | .text s => printText s
  | .list [] => ['[', ']']
  | .list (x :: xs) => '[' :: print x ++ printItems xs
  | .object [] => ['\x7b', '\x7d']
  | .object ((n, v) :: fs) => '\x7b' :: printText n ++ ':' :: print v ++ printFields fs

/-- The items after the first, and the closing bracket. -/
def printItems : List Json → List Char
  | [] => [']']
  | x :: xs => ',' :: print x ++ printItems xs

/-- The fields after the first, and the closing brace. -/
def printFields : List (String × Json) → List Char
  | [] => ['\x7d']
  | (n, v) :: fs => ',' :: printText n ++ ':' :: print v ++ printFields fs

end

def render (v : Json) : String := String.ofList v.print

end ClusterAdmin.Json
