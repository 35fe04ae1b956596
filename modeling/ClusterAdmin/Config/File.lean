import ClusterAdmin.Config.Basic
import ClusterAdmin.Failure
import ClusterAdmin.Text.Quoted
import ClusterAdmin.Toml.Document
import ClusterAdmin.Toml.Writer
import ClusterAdmin.Word

namespace ClusterAdmin.AdminConfig

/-- A setting on its line. A number must fit 64 bits with a sign. -/
def writeSetting? (name : String) : Json → Option String
  | .text s => some (name ++ " = " ++ Toml.writeText s ++ "\n")
  | .bool b => some (name ++ " = " ++ (if b then "true" else "false") ++ "\n")
  | .int n => if n ≤ Word.maxInt64 then some (name ++ " = " ++ toString n ++ "\n") else none
  | _ => none

/-- A section: its header and its settings. -/
def writeSection? (name : String) (fields : List (String × Json)) : Option String := do
  let lines ← fields.mapM fun (n, v) => writeSetting? n v
  return "[" ++ name ++ "]\n" ++ String.join lines

/-- The settings as a text, with an empty line between the sections. -/
def toToml (c : AdminConfig) : Except Failure String :=
  match c.sections.mapM fun (name, fields) => writeSection? name fields with
  | some texts => .ok ("\n".intercalate texts)
  | none =>
    .error ((Failure.invalid "Failed to serialize config: out-of-range value for u64 type").causedBy
      "out-of-range value for u64 type")

/-- A section may be a list of its settings in order. What goes beyond the last is not read. -/
def trimSection (name : String) (v : Json) : Json :=
  match v, ({} : AdminConfig).sections.find? (·.1 = name) with
  | .list xs, some (_, settings) => .list (xs.take settings.length)
  | v, _ => v

/-- Reads settings from a document; what it does not give has its default. -/
def ofDocument? : Json → Option AdminConfig
  | .object sections => decoder (.object (sections.map fun (n, v) => (n, trimSection n v)))
  | v => decoder v

/-- Reads settings from a text. -/
def ofToml (s : String) : Except Failure AdminConfig :=
  match (Toml.parse? s).bind ofDocument? with
  | some c => .ok c
  | none => .error ((Failure.invalid "Failed to parse config: TOML parse error").causedBy
      "TOML parse error")

/-- Reads settings from a file, given what reading the file gave. -/
def ofFile (path : String) (contents : Except Failure.IoError String) : Except Failure AdminConfig :=
  match contents with
  | .error e =>
    .error ((Failure.invalid
      ("Failed to read config file " ++ Text.quoted path ++ ": " ++ e.text)).causedBy e.text)
  | .ok s => (ofToml s).mapError (·.inContext "load config" path)

end ClusterAdmin.AdminConfig
