import ClusterAdmin.Bytes
import ClusterAdmin.Text.Basic

namespace ClusterAdmin.Text

/-- What is known of every `step`-th code point from `first` to `last`. -/
structure ChartEntry where
  first : Nat
  last : Nat
  step : Nat
  content : List Nat

abbrev Chart := List ChartEntry

def ChartEntry.has (e : ChartEntry) (n : Nat) : Bool :=
  e.first ≤ n && n ≤ e.last && (n - e.first) % e.step == 0

/-- The value of hexadecimal digits. -/
def hexNumber (t : List Char) : Nat := t.foldl (fun n c => 16 * n + (Bytes.hexValue? c).getD 0) 0

def ChartEntry.ofText (word : List Char) : ChartEntry :=
  let (codes, content) := (cut? '=' word).getD (word, [])
  let (range, step) := (cut? '/' codes).getD (codes, ['1'])
  let (first, last) := (cut? '-' range).getD (range, range)
  ⟨hexNumber first, hexNumber last, hexNumber step,
    if content.isEmpty then [] else (pieces '.' content).map hexNumber⟩

namespace Chart

/-- Reads a chart. An entry names a code point, a run of them or every second one of a run in
hexadecimal digits, and may say after an equals sign what it has there: `61`, `61-7a`,
`100-12e/2=101`. -/
def ofText (s : String) : Chart :=
  ((pieces ' ' (s.toList.map fun c => if c = '\n' then ' ' else c)).filter (!·.isEmpty)).map
    ChartEntry.ofText

def find? (c : Chart) (n : Nat) : Option ChartEntry := List.find? (·.has n) c

def has (c : Chart) (n : Nat) : Bool := List.any c (·.has n)

/-- What the chart has for a code point. -/
def content? (c : Chart) (n : Nat) : Option (List Nat) := (c.find? n).map (·.content)

/-- What the chart has for a code point, where the members of a run move on in step. -/
def image? (c : Chart) (n : Nat) : Option (List Nat) :=
  (c.find? n).map fun e => e.content.map (· + (n - e.first))

end Chart

end ClusterAdmin.Text
