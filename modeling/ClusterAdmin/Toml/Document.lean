import ClusterAdmin.Toml.Lexeme

namespace ClusterAdmin.Toml

/-- How a table came to be. -/
inductive Origin where
  /-- Named only on the way to a table inside it; its own header may still come. -/
  | implied
  | header
  /-- Named by dotted keys, which alone may add to it. -/
  | dotted
  deriving DecidableEq

/-- What a key of a document has. -/
inductive Node where
  | value (v : Json)
  | table (origin : Origin) (fields : List (String × Node))
  /-- Tables in a list; the last comes first. -/
  | tables (items : List (List (String × Node)))

/-- The fields of a table. -/
abbrev Fields := List (String × Node)

def find? (fields : Fields) (name : String) : Option Node := (fields.find? (·.1 = name)).map (·.2)

/-- Puts a node under a name, in place of one that is there. -/
def put (name : String) (node : Node) : Fields → Fields
  | [] => [(name, node)]
  | (n, v) :: r => if n = name then (n, node) :: r else (n, v) :: put name node r

mutual

def Node.toJson : Node → Json
  | .value v => v
  | .table _ fields => .object (fieldsToJson fields)
  | .tables items => .list (tablesToJson items []).reverse

def fieldsToJson : Fields → List (String × Json)
  | [] => []
  | (n, v) :: r => (n, v.toJson) :: fieldsToJson r

def tablesToJson : List Fields → List Json → List Json
  | [], done => done
  | fs :: r, done => .object (fieldsToJson fs) :: tablesToJson r done

end

/-- A change of the fields that a path leads to. -/
abbrev Change := Fields → Option Fields

/-- Makes a change at the end of a path of headers. What the path names first comes to be on the
way; a list of tables stands for its last. -/
def underHeaders : (path : List String) → Change → Change
  | [], change, fields => change fields
  | name :: path, change, fields =>
    match find? fields name with
    | none => (underHeaders path change []).map fun fs => put name (.table .implied fs) fields
    | some (.table origin fs) =>
      (underHeaders path change fs).map fun fs => put name (.table origin fs) fields
    | some (.tables (last :: rest)) =>
      (underHeaders path change last).map fun fs => put name (.tables (fs :: rest)) fields
    | _ => none

/-- Gives a value to a dotted key. No table on the way may have had a header, and the one that takes
the value must be new or have been named by dotted keys. -/
def assign : (path : List String) → Json → Change
  | [], _, _ => none
  | [name], v, fields =>
    match find? fields name with
    | none => some (put name (.value v) fields)
    | some _ => none
  | name :: path, v, fields =>
    match find? fields name with
    | none => (assign path v []).map fun fs => put name (.table .dotted fs) fields
    | some (.table origin fs) =>
      if origin = .header ∨ (origin = .implied ∧ path.length = 1) then none
      else (assign path v fs).map fun fs => put name (.table origin fs) fields
    | some (.tables (last :: rest)) =>
      if path.length = 1 then none
      else (assign path v last).map fun fs => put name (.tables (fs :: rest)) fields
    | _ => none

/-- Opens the table of a header, which nothing but deeper headers may have named before. -/
def openTable (path : List String) : Change :=
  match path.reverse with
  | [] => fun _ => none
  | name :: parents => underHeaders parents.reverse fun fields =>
    match find? fields name with
    | none => some (put name (.table .header []) fields)
    | some (.table .implied fs) => some (put name (.table .header fs) fields)
    | _ => none

/-- Adds an empty table to a list of tables. -/
def openListed (path : List String) : Change :=
  match path.reverse with
  | [] => fun _ => none
  | name :: parents => underHeaders parents.reverse fun fields =>
    match find? fields name with
    | none => some (put name (.tables [[]]) fields)
    | some (.tables items) => some (put name (.tables ([] :: items)) fields)
    | _ => none

mutual

/-- A value. `depth` is how many lists and inline tables may still open. -/
def value? : (fuel depth : Nat) → Lexer Json
  | 0, _, _ => none
  | fuel + 1, depth, cs =>
    match cs with
    | 't' :: 'r' :: 'u' :: 'e' :: r => some (.bool true, r)
    | 'f' :: 'a' :: 'l' :: 's' :: 'e' :: r => some (.bool false, r)
    | '[' :: r =>
      match depth with
      | 0 => none
      | depth + 1 => (items? fuel depth (skipLines (r.length + 1) r)).map
          fun (xs, r) => (.list xs, r)
    | '\x7b' :: r =>
      match depth with
      | 0 => none
      | depth + 1 =>
        match skipSpaces r with
        | '\x7d' :: r => some (.object [], r)
        | r => (pairs? fuel depth [] r).map fun (fs, r) => (.object (fieldsToJson fs), r)
    | c :: _ =>
      if c = '"' ∨ c = '\'' then (text? cs).map fun (s, r) => (.text s, r)
      else match dateTime? cs with
        | some (s, r) => some (.object [("date", .text s)], r)
        | none =>
          match float? cs with
          | some (s, r) => some (.decimal s, r)
          | none => (integer? cs).map fun (n, r) => (.int n, r)
    | [] => none

/-- The items of a list and its closing bracket, blanks skipped before. -/
def items? : (fuel depth : Nat) → Lexer (List Json)
  | 0, _, _ => none
  | fuel + 1, depth, cs =>
    match cs with
    | ']' :: r => some ([], r)
    | cs => do
      let (x, r) ← value? fuel depth cs
      match skipLines (r.length + 1) r with
      | ',' :: r =>
        let (xs, r) ← items? fuel depth (skipLines (r.length + 1) r)
        return (x :: xs, r)
      | ']' :: r => return ([x], r)
      | _ => none

/-- The pairs of an inline table and its closing brace. -/
def pairs? : (fuel depth : Nat) → Fields → Lexer Fields
  | 0, _, _, _ => none
  | fuel + 1, depth, fields, cs => do
    let (path, r) ← path? cs
    let '=' :: r := r | none
    let (v, r) ← value? fuel depth (skipSpaces r)
    let fields ← assign path v fields
    match skipSpaces r with
    | ',' :: r => pairs? fuel depth fields r
    | '\x7d' :: r => return (fields, r)
    | _ => none

end

/-- A header: its path, whether it adds to a list, and the next line. -/
def header? : Lexer (Bool × List String)
  | '[' :: '[' :: r => do
    let (path, r) ← path? r
    let ']' :: ']' :: r := r | none
    return ((true, path), ← lineEnd? r)
  | '[' :: r => do
    let (path, r) ← path? r
    let ']' :: r := r | none
    return ((false, path), ← lineEnd? r)
  | _ => none

/-- A key and its value on a line of their own. -/
def pair? (cs : List Char) : Option ((List String × Json) × List Char) := do
  let (path, r) ← path? cs
  let '=' :: r := r | none
  let (v, r) ← value? (2 * r.length + 2) 79 (skipSpaces r)
  return ((path, v), ← lineEnd? r)

/-- Reads lines into the document; `here` is the path of the header they stand under. -/
def lines? : (fuel : Nat) → (here : List String) → Fields → List Char → Option Fields
  | 0, _, _, _ => none
  | fuel + 1, here, document, cs =>
    match skipLines (cs.length + 1) cs with
    | [] => some document
    | '[' :: r => do
      let ((listed, path), r) ← header? ('[' :: r)
      let document ← if listed then openListed path document else openTable path document
      lines? fuel path document r
    | r => do
      let ((path, v), r) ← pair? r
      let document ← underHeaders here (assign path v) document
      lines? fuel here document r

/-- The document that a text holds, which may start with a byte order mark. -/
def parse? (s : String) : Option Json := do
  let cs := match s.toList with
    | '\ufeff' :: r => r
    | cs => cs
  let document ← lines? (cs.length + 1) [] [] cs
  return .object (fieldsToJson document)

end ClusterAdmin.Toml
