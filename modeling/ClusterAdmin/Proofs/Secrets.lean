import Mathlib.Data.List.Basic
import ClusterAdmin.Proofs.Decoding
import ClusterAdmin.Sasl

namespace ClusterAdmin

/-- The names of the fields that hold secrets. -/
def FieldNames.secret : List String :=
  password ++ apiSecret ++ scramPassword ++ keystorePassword ++ clientSecret

namespace Json

mutual

/-- The value with every text emptied that stands under the name of a secret. -/
def withoutSecrets : Json → Json
  | .list items => .list (itemsWithoutSecrets items)
  | .object fields => .object (fieldsWithoutSecrets fields)
  | .null => .null
  | .bool b => .bool b
  | .int n => .int n
  | .decimal s => .decimal s
  | .text s => .text s

def itemsWithoutSecrets : List Json → List Json
  | [] => []
  | x :: xs => x.withoutSecrets :: itemsWithoutSecrets xs

def fieldsWithoutSecrets : List (String × Json) → List (String × Json)
  | [] => []
  | (n, v) :: fs =>
    (n, if n ∈ FieldNames.secret ∧ v.text?.isSome then .text "" else v.withoutSecrets) ::
      fieldsWithoutSecrets fs

end

/-- What a field's value is without the secrets in it. -/
def emptied (name : String) (v : Json) : Json :=
  if name ∈ FieldNames.secret ∧ v.text?.isSome then .text "" else v.withoutSecrets

theorem fieldsWithoutSecrets_eq (fs : List (String × Json)) :
    fieldsWithoutSecrets fs = fs.map fun f => (f.1, f.2.emptied f.1) := by
  induction fs with
  | nil => rfl
  | cons f fs ih => rw [fieldsWithoutSecrets, ih, List.map_cons, emptied]

variable {n : String} {names : List String} {v : Json}

@[simp] theorem text?_withoutSecrets (v : Json) : v.withoutSecrets.text? = v.text? := by
  cases v <;> rfl

theorem text?_emptied (h : n ∉ FieldNames.secret) (v : Json) : (v.emptied n).text? = v.text? := by
  simp [emptied, h]

@[simp] theorem emptied_eq_null_iff : v.emptied n = .null ↔ v = .null := by
  rw [emptied]
  split
  · rename_i h
    cases v <;> simp_all [text?]
  · cases v <;> simp [withoutSecrets]

theorem lookup_withoutSecrets (fs : List (String × Json)) (n : String) :
    lookup (fieldsWithoutSecrets fs) n = (lookup fs n).map (emptied n) := by
  induction fs with
  | nil => rfl
  | cons f fs ih =>
    obtain ⟨m, v⟩ := f
    rw [fieldsWithoutSecrets, ← emptied, lookup_cons, lookup_cons, ih]
    split
    · rename_i h
      simp [h]
    · rfl

namespace Reader

/-- A field is read without the secrets as it is read with them, up to what becomes of its value. -/
theorem pick_withoutSecrets {α : Type} {decode : Decoder α} {absent : α} {change : α → α}
    (habsent : change absent = absent)
    (hdecode : ∀ n ∈ names, ∀ v, decode (v.emptied n) = (decode v).map change)
    (fs : List (String × Json)) :
    pick names decode absent (fieldsWithoutSecrets fs) =
      (pick names decode absent fs).map change := by
  have hgiven : given names (fieldsWithoutSecrets fs) =
      (fs.filter fun f => names.contains f.1).map fun f => f.2.emptied f.1 := by
    simp [given, fieldsWithoutSecrets_eq, List.filter_map, Function.comp_def]
  rw [pick, pick, hgiven, given]
  cases hfs : fs.filter fun f => names.contains f.1 with
  | nil => simp [habsent]
  | cons f rest =>
    cases rest with
    | nil =>
      have hf : f ∈ fs.filter fun f => names.contains f.1 := hfs ▸ List.mem_singleton_self f
      have hn : f.1 ∈ names := by simpa using (List.mem_filter.mp hf).2
      exact hdecode f.1 hn f.2
    | cons g rest => rfl

section

variable (hpublic : ∀ n ∈ names, n ∉ FieldNames.secret) (fs : List (String × Json))

include hpublic

/-- What is no secret is read as it is. -/
theorem textOf?_public : textOf? names (fieldsWithoutSecrets fs) = textOf? names fs := by
  have h : pick names Decoder.text "" (fieldsWithoutSecrets fs) =
      (pick names Decoder.text "" fs).map id :=
    pick_withoutSecrets rfl
      (fun n hn v => by simpa [Decoder.text] using text?_emptied (hpublic n hn) v) fs
  simpa [textOf?] using h

theorem perhapsText?_public :
    perhapsText? names (fieldsWithoutSecrets fs) = perhapsText? names fs := by
  have hdecode : ∀ n ∈ names, ∀ v,
      Decoder.text.nullable (v.emptied n) = Decoder.text.nullable v := by
    intro n hn v
    have hsecret := hpublic n hn
    cases v <;> simp [emptied, hsecret, withoutSecrets, Decoder.nullable, Decoder.text, text?]
  have h : pick names Decoder.text.nullable none (fieldsWithoutSecrets fs) =
      (pick names Decoder.text.nullable none fs).map id :=
    pick_withoutSecrets rfl (fun n hn v => by simpa using hdecode n hn v) fs
  simpa [perhapsText?] using h

end

section

variable (hsecret : ∀ n ∈ names, n ∈ FieldNames.secret) (fs : List (String × Json))

include hsecret

/-- A secret is read as the empty text. -/
theorem textOf?_secret :
    textOf? names (fieldsWithoutSecrets fs) = (textOf? names fs).map fun _ => "" := by
  refine pick_withoutSecrets rfl (fun n hn v => ?_) fs
  cases v <;> simp [emptied, hsecret n hn, withoutSecrets, Decoder.text, text?]

theorem perhapsText?_secret : perhapsText? names (fieldsWithoutSecrets fs) =
    (perhapsText? names fs).map (Option.map fun _ => "") := by
  refine pick_withoutSecrets rfl (fun n hn v => ?_) fs
  cases v <;>
    simp [emptied, hsecret n hn, withoutSecrets, Decoder.nullable, Decoder.text, text?]

end

end Reader

end Json

/-- The login without the secrets in it. -/
def Login.withoutSecrets : Login → Login
  | .basic l => .basic { l with password := "" }
  | .apiKey l => .apiKey { l with secret := "" }
  | .scram l => .scram { l with password := "" }
  | .mtls l => .mtls { l with keystorePassword := Option.none }
  | .oauth l => .oauth { l with clientSecret := Option.none }
  | l => l

open Json Json.Reader

/-- Whether the fields of a kind can be read does not hang on the secrets, and nothing does of the
login but its own. -/
theorem Login.ofFields?_withoutSecrets (kind : AuthKind) (fs : List (String × Json)) :
    (ofFields? kind (fieldsWithoutSecrets fs)).map withoutSecrets =
      (ofFields? kind fs).map withoutSecrets := by
  rw [ofFields?, ofFields?]
  cases kind
  case none => rfl
  all_goals
    simp (disch := decide) only [reader, run_text_bind, run_perhaps_bind, textOf?_filter,
      perhapsText?_filter, textOf?_public, textOf?_secret, perhapsText?_public,
      perhapsText?_secret]
    simp [Option.map_bind, Option.bind_map, Function.comp_def, withoutSecrets]

namespace LegacyRecord

theorem named?_withoutSecrets (fs : List (String × Json)) :
    AuthKind.named? (fieldsWithoutSecrets fs) = AuthKind.named? fs := by
  rw [AuthKind.named?, AuthKind.named?, lookup_withoutSecrets, Option.bind_map]
  congr 2
  funext v
  exact text?_emptied (by decide) v

theorem has_withoutSecrets (fs : List (String × Json)) (n : String) :
    has ⟨fieldsWithoutSecrets fs⟩ n = has ⟨fs⟩ n := by
  rw [Bool.eq_iff_iff, has_iff, has_iff, lookup_withoutSecrets]
  simp [Option.map_eq_some_iff]

/-- Of what kind a record is does not hang on its secrets. -/
theorem kind_withoutSecrets (fs : List (String × Json)) :
    kind ⟨fieldsWithoutSecrets fs⟩ = kind ⟨fs⟩ := by
  have hany : ∀ names, hasAny ⟨fieldsWithoutSecrets fs⟩ names = hasAny ⟨fs⟩ names := by
    intro names
    rw [hasAny, hasAny, funext (has_withoutSecrets fs)]
  rw [kind, kind, named?_withoutSecrets]
  simp only [hany, has_withoutSecrets]

theorem text?_withoutSecrets {names : List String} (hpublic : ∀ n ∈ names, n ∉ FieldNames.secret)
    (fs : List (String × Json)) : text? ⟨fieldsWithoutSecrets fs⟩ names = text? ⟨fs⟩ names := by
  rw [text?, text?]
  congr 1
  apply List.filterMap_congr
  intro n hn
  rw [lookup_withoutSecrets, Option.bind_map]
  congr 1
  funext v
  exact text?_emptied (hpublic n hn) v

/-- The login that a record yields has the same fields but for its secrets. -/
theorem toLogin_withoutSecrets (fs : List (String × Json)) :
    (toLogin ⟨fieldsWithoutSecrets fs⟩).withoutSecrets = (toLogin ⟨fs⟩).withoutSecrets := by
  rw [toLogin, toLogin, kind_withoutSecrets]
  cases kind ⟨fs⟩ <;>
    simp (disch := decide) only [Login.withoutSecrets, textOrEmpty, text?_withoutSecrets]

end LegacyRecord

/-- Nothing that is shown of a login is a secret. -/
theorem Credential.showLogin_withoutSecrets (l : Login) :
    showLogin l.withoutSecrets = showLogin l := by
  cases l <;> rfl

theorem SaslConfig.diagnostic_withoutSecrets (l : Login) :
    (ofLogin l.withoutSecrets).map (·.map diagnostic) = (ofLogin l).map (·.map diagnostic) := by
  cases l <;> rfl

namespace Credential

theorem ofJson_of_ne_nil {fs : List (String × Json)} (h : fs ≠ []) :
    ofJson (.object fs) =
      ((AuthKind.named? fs).bind (Login.ofFields? · fs)).elim (.legacy ⟨fs⟩) .login := by
  cases fs with
  | nil => exact absurd rfl h
  | cons f fs =>
    cases hread : (AuthKind.named? (f :: fs)).bind (Login.ofFields? · (f :: fs)) <;>
      simp [ofJson, hread]

/-- Without the secrets in it a record stands for what it stood for, up to the secrets. -/
theorem ofJson_withoutSecrets (v : Json) :
    (ofJson v.withoutSecrets).diagnostic = (ofJson v).diagnostic ∧
      (ofJson v.withoutSecrets).resolved.withoutSecrets = (ofJson v).resolved.withoutSecrets := by
  cases v with
  | object fs =>
    by_cases hnil : fs = []
    · rw [hnil]
      exact ⟨rfl, rfl⟩
    · have hnil' : fieldsWithoutSecrets fs ≠ [] := by simp [fieldsWithoutSecrets_eq, hnil]
      have hread : ((AuthKind.named? (fieldsWithoutSecrets fs)).bind
            (Login.ofFields? · (fieldsWithoutSecrets fs))).map Login.withoutSecrets =
          ((AuthKind.named? fs).bind (Login.ofFields? · fs)).map Login.withoutSecrets := by
        rw [LegacyRecord.named?_withoutSecrets, Option.map_bind, Option.map_bind]
        congr 1
        funext kind
        exact Login.ofFields?_withoutSecrets kind fs
      rw [Json.withoutSecrets, ofJson_of_ne_nil hnil, ofJson_of_ne_nil hnil']
      cases hl : (AuthKind.named? fs).bind (Login.ofFields? · fs) with
      | none =>
        rw [hl, Option.map_none, Option.map_eq_none_iff] at hread
        rw [hread]
        refine ⟨?_, LegacyRecord.toLogin_withoutSecrets fs⟩
        simp [diagnostic, fieldsWithoutSecrets_eq, Function.comp_def]
      | some l =>
        rw [hl, Option.map_some, Option.map_eq_some_iff] at hread
        obtain ⟨l', hl', hsame⟩ := hread
        rw [hl']
        refine ⟨?_, hsame⟩
        change showLogin l' = showLogin l
        rw [← showLogin_withoutSecrets, hsame, showLogin_withoutSecrets]
  | null | bool | int | decimal | text | list => exact ⟨rfl, rfl⟩

/-- Two values that differ in secrets only cannot be told apart by what is shown of the credential,
the login that it stands for and its SASL layer. -/
theorem diagnostics_of_withoutSecrets {v w : Json} (h : v.withoutSecrets = w.withoutSecrets) :
    (ofJson v).diagnostic = (ofJson w).diagnostic ∧
      (login (ofJson v).resolved).diagnostic = (login (ofJson w).resolved).diagnostic ∧
      (SaslConfig.ofCredential (ofJson v)).map (·.map SaslConfig.diagnostic) =
        (SaslConfig.ofCredential (ofJson w)).map (·.map SaslConfig.diagnostic) := by
  obtain ⟨hv, hv'⟩ := ofJson_withoutSecrets v
  obtain ⟨hw, hw'⟩ := ofJson_withoutSecrets w
  rw [h] at hv hv'
  have hlogin := hv'.symm.trans hw'
  refine ⟨hv.symm.trans hw, ?_, ?_⟩
  · rw [diagnostic, diagnostic, ← showLogin_withoutSecrets, hlogin, showLogin_withoutSecrets]
  · rw [SaslConfig.ofCredential, SaslConfig.ofCredential, ← SaslConfig.diagnostic_withoutSecrets,
      hlogin, SaslConfig.diagnostic_withoutSecrets]

/-- A SCRAM login as it is imported, with a password under either of two names. -/
def scramRecord (first second : String) : Json :=
  .object [("hash_algorithm", .text "SCRAM-SHA-512"), ("scramPassword", .text first),
    ("scram_password", .text second), ("username", .text "alice")]

/-- Which password is taken hangs on whether the first is empty, and yet shows nowhere. -/
theorem diagnostics_of_withoutSecrets_scram :
    let v := scramRecord "hunter2" "swordfish"
    let w := scramRecord "" "swordfish"
    (ofJson v).resolved ≠ (ofJson w).resolved ∧
      (ofJson v).diagnostic = (ofJson w).diagnostic ∧
      (login (ofJson v).resolved).diagnostic = (login (ofJson w).resolved).diagnostic ∧
      (SaslConfig.ofCredential (ofJson v)).map (·.map SaslConfig.diagnostic) =
        (SaslConfig.ofCredential (ofJson w)).map (·.map SaslConfig.diagnostic) := by
  intro v w
  have hsame : v.withoutSecrets = w.withoutSecrets := by
    decide +kernel
  exact ⟨by decide +kernel, diagnostics_of_withoutSecrets hsame⟩

end Credential

end ClusterAdmin
