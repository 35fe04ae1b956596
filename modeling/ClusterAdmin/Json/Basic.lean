namespace ClusterAdmin

/-- A JSON value. An object keeps its fields in order and may repeat a name. -/
inductive Json where
  | null
  | bool (b : Bool)
  | int (n : Int)
  /-- Any other number, in decimal digits. -/
  | decimal (literal : String)
  | text (s : String)
  | list (items : List Json)
  | object (fields : List (String × Json))
  deriving Inhabited, Repr

namespace Json

mutual

def decEq : (a b : Json) → Decidable (a = b)
  | .null, .null => isTrue rfl
  | .bool a, .bool b => if h : a = b then isTrue (by rw [h]) else isFalse (by simpa using h)
  | .int a, .int b => if h : a = b then isTrue (by rw [h]) else isFalse (by simpa using h)
  | .decimal a, .decimal b => if h : a = b then isTrue (by rw [h]) else isFalse (by simpa using h)
  | .text a, .text b => if h : a = b then isTrue (by rw [h]) else isFalse (by simpa using h)
  | .list a, .list b =>
    match decEqItems a b with
    | isTrue h => isTrue (by rw [h])
    | isFalse h => isFalse (by simpa using h)
  | .object a, .object b =>
    match decEqFields a b with
    | isTrue h => isTrue (by rw [h])
    | isFalse h => isFalse (by simpa using h)
  | .null, .bool _ | .null, .int _ | .null, .decimal _ | .null, .text _ | .null, .list _
  | .null, .object _ | .bool _, .null | .bool _, .int _ | .bool _, .decimal _ | .bool _, .text _
  | .bool _, .list _ | .bool _, .object _ | .int _, .null | .int _, .bool _ | .int _, .decimal _
  | .int _, .text _ | .int _, .list _ | .int _, .object _ | .decimal _, .null
  | .decimal _, .bool _ | .decimal _, .int _ | .decimal _, .text _ | .decimal _, .list _
  | .decimal _, .object _ | .text _, .null | .text _, .bool _ | .text _, .int _
  | .text _, .decimal _ | .text _, .list _ | .text _, .object _ | .list _, .null
  | .list _, .bool _ | .list _, .int _ | .list _, .decimal _ | .list _, .text _
  | .list _, .object _ | .object _, .null | .object _, .bool _ | .object _, .int _
  | .object _, .decimal _ | .object _, .text _ | .object _, .list _ => isFalse nofun

def decEqItems : (a b : List Json) → Decidable (a = b)
  | [], [] => isTrue rfl
  | [], _ :: _ => isFalse nofun
  | _ :: _, [] => isFalse nofun
  | x :: xs, y :: ys =>
    match decEq x y, decEqItems xs ys with
    | isTrue h, isTrue t => isTrue (by rw [h, t])
    | isFalse h, _ => isFalse (by intro e; exact h (List.cons.inj e).1)
    | _, isFalse t => isFalse (by intro e; exact t (List.cons.inj e).2)

def decEqFields : (a b : List (String × Json)) → Decidable (a = b)
  | [], [] => isTrue rfl
  | [], _ :: _ => isFalse nofun
  | _ :: _, [] => isFalse nofun
  | (m, x) :: xs, (n, y) :: ys =>
    match decEq x y, decEqFields xs ys with
    | isTrue h, isTrue t =>
      if k : m = n then isTrue (by rw [h, t, k])
      else isFalse (by intro e; exact k (Prod.mk.inj (List.cons.inj e).1).1)
    | isFalse h, _ => isFalse (by intro e; exact h (Prod.mk.inj (List.cons.inj e).1).2)
    | _, isFalse t => isFalse (by intro e; exact t (List.cons.inj e).2)

end

instance : DecidableEq Json := decEq

/-- Puts a field in its place among fields in order, instead of one of the same name. -/
def insertField (name : String) (value : Json) : List (String × Json) → List (String × Json)
  | [] => [(name, value)]
  | (n, v) :: r =>
    if name = n then (name, value) :: r
    else if name < n then (name, value) :: (n, v) :: r
    else (n, v) :: insertField name value r

mutual

/-- The value read as a map: names in order, and of a repeated name the last. -/
def sorted : Json → Json
  | .list items => .list (sortedItems items)
  | .object fields => .object (sortedFields fields [])
  | .null => .null
  | .bool b => .bool b
  | .int n => .int n
  | .decimal s => .decimal s
  | .text s => .text s

def sortedItems : List Json → List Json
  | [] => []
  | x :: xs => x.sorted :: sortedItems xs

/-- Moves the fields one by one into those placed already. -/
def sortedFields : List (String × Json) → List (String × Json) → List (String × Json)
  | [], placed => placed
  | (n, v) :: r, placed => sortedFields r (insertField n v.sorted placed)

end

/-- The first value under a name. -/
def lookup (fields : List (String × Json)) (name : String) : Option Json :=
  (fields.find? (·.1 = name)).map (·.2)

/-- A member of an object; none of any other value. -/
def get? : Json → String → Option Json
  | .object fields, name => lookup fields name
  | _, _ => none

def text? : Json → Option String
  | .text s => some s
  | _ => none

def int? : Json → Option Int
  | .int n => some n
  | _ => none

def bool? : Json → Option Bool
  | .bool b => some b
  | _ => none

def list? : Json → Option (List Json)
  | .list xs => some xs
  | _ => none

/-- The text of a value that is one, and null for none. -/
def ofText? : Option String → Json
  | none => .null
  | some s => .text s

def ofTexts (xs : List String) : Json := .list (xs.map .text)

end Json

end ClusterAdmin
