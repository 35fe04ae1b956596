import Mathlib.Data.List.Nodup
import ClusterAdmin.Principal
import ClusterAdmin.Proofs.Decoding
import ClusterAdmin.Sasl

namespace ClusterAdmin

/-- The names that stand for each other in a record; those of a SCRAM login do if the record has a
hash algorithm. -/
def FieldNames.synonyms (hashed : Bool) : List (List String) :=
  [apiKey, apiSecret, hashAlgorithm, tokensUrl, clientId, keytabPath] ++
    if hashed then [scramUsername, scramPassword] else []

/-- A record's fields stay or go to synonyms of their names, if the record has no other of them. -/
def Respelling (fs : List (String × Json)) (rename : String → String) : Prop :=
  ∀ n ∈ fs.map (·.1), rename n = n ∨
    ∃ names ∈ FieldNames.synonyms (LegacyRecord.hasAny ⟨fs⟩ FieldNames.hashAlgorithm),
      n ∈ names ∧ rename n ∈ names ∧ ∀ m ∈ names, m ∈ fs.map (·.1) → m = n

def respell (rename : String → String) (fs : List (String × Json)) : List (String × Json) :=
  fs.map fun f => (rename f.1, f.2)

/-- The fields with a kind named under `type`, whatever was there; or as they are. -/
def nameKind (type : Option String) (fs : List (String × Json)) : List (String × Json) :=
  match type with
  | none => fs
  | some s => ("type", .text s) :: fs.filter (·.1 ≠ "type")

/-- The names of a field that other names can only be taken for as a whole. -/
def FieldNames.Closed (hashed : Bool) (names : List String) : Prop :=
  ∀ group ∈ synonyms hashed, names = group ∨ ∀ n ∈ group, n ∉ names

instance (hashed : Bool) (names : List String) : Decidable (FieldNames.Closed hashed names) :=
  inferInstanceAs (Decidable (∀ group ∈ _, _))

theorem FieldNames.closed_of_mem_synonyms (hashed : Bool) :
    ∀ names ∈ synonyms hashed, Closed hashed names := by
  cases hashed <;> decide

/-- Under the names of a field that a record has once, its one value is given. -/
theorem Json.Reader.given_eq_singleton {fs : List (String × Json)} {names : List String}
    {n : String} {v : Json} (object : (fs.map (·.1)).Nodup) (hm : (n, v) ∈ fs) (hn : n ∈ names)
    (alone : ∀ m ∈ names, m ∈ fs.map (·.1) → m = n) : given names fs = [v] := by
  induction fs with
  | nil => cases hm
  | cons f fs ih =>
    obtain ⟨m, w⟩ := f
    rw [List.map_cons, List.nodup_cons] at object
    rcases List.mem_cons.mp hm with he | hm
    · obtain ⟨rfl, rfl⟩ := Prod.mk.inj he
      have hrest : given names fs = [] := by
        apply List.eq_nil_iff_forall_not_mem.mpr
        intro w hw
        obtain ⟨m, hmem, hf⟩ := mem_given.mp hw
        have hkey : m ∈ fs.map (·.1) := List.mem_map_of_mem hf
        exact object.1 (alone m hmem (List.mem_cons_of_mem _ hkey) ▸ hkey)
      rw [given_cons, if_pos hn, hrest]
    · have hne : m ∉ names := by
        intro hmem
        obtain rfl := alone m hmem List.mem_cons_self
        exact object.1 (List.mem_map.mpr ⟨(m, v), hm, rfl⟩)
      rw [given_cons, if_neg hne]
      exact ih object.2 hm fun k hk hkey => alone k hk (List.mem_cons_of_mem _ hkey)

namespace LegacyRecord

theorem text?_congr {r r' : LegacyRecord} {names : List String}
    (h : ∀ n ∈ names, Json.lookup r'.fields n = Json.lookup r.fields n) :
    r'.text? names = r.text? names := by
  rw [text?, text?]
  congr 1
  exact List.filterMap_congr fun n hn => by rw [h n hn]

theorem hasAny_congr {r r' : LegacyRecord} {names : List String}
    (h : ∀ n ∈ names, Json.lookup r'.fields n = Json.lookup r.fields n) :
    r'.hasAny names = r.hasAny names := by
  rw [Bool.eq_iff_iff, hasAny, hasAny, List.any_eq_true, List.any_eq_true]
  constructor
  · rintro ⟨n, hn, hv⟩
    exact ⟨n, hn, by rw [has, ← h n hn]; exact hv⟩
  · rintro ⟨n, hn, hv⟩
    exact ⟨n, hn, by rw [has, h n hn]; exact hv⟩

end LegacyRecord

namespace Respelling

variable {fs : List (String × Json)} {rename : String → String} {names : List String}

theorem mem_iff (h : Respelling fs rename)
    (closed : FieldNames.Closed (LegacyRecord.hasAny ⟨fs⟩ FieldNames.hashAlgorithm) names)
    {n : String} (hn : n ∈ fs.map (·.1)) : rename n ∈ names ↔ n ∈ names := by
  rcases h n hn with he | ⟨group, hc, hold, hnew, -⟩
  · rw [he]
  · rcases closed group hc with rfl | hout
    · exact iff_of_true hnew hold
    · exact iff_of_false (hout _ hnew) (hout _ hold)

/-- Names that have no synonyms are not changed. -/
theorem eq_self (h : Respelling fs rename)
    (closed : FieldNames.Closed (LegacyRecord.hasAny ⟨fs⟩ FieldNames.hashAlgorithm) names)
    (unique : names ∉ FieldNames.synonyms (LegacyRecord.hasAny ⟨fs⟩ FieldNames.hashAlgorithm))
    {n : String} (hkey : n ∈ fs.map (·.1)) (hn : n ∈ names) : rename n = n := by
  rcases h n hkey with he | ⟨group, hg, hold, -, -⟩
  · exact he
  · rcases closed group hg with rfl | hout
    · exact absurd hg unique
    · exact absurd hn (hout n hold)

/-- Two fields never come under one name. -/
theorem injective (h : Respelling fs rename) {n m : String} (hn : n ∈ fs.map (·.1))
    (hm : m ∈ fs.map (·.1)) (he : rename n = rename m) : n = m := by
  have hclosed := FieldNames.closed_of_mem_synonyms
    (LegacyRecord.hasAny ⟨fs⟩ FieldNames.hashAlgorithm)
  rcases h n hn with hfix | ⟨names, hc, -, hnew, alone⟩
  · rcases h m hm with hfix' | ⟨names, hc, -, hnew, alone⟩
    · rw [← hfix, ← hfix', he]
    · exact alone n ((h.mem_iff (hclosed names hc) hn).mp (he ▸ hnew)) hn
  · exact (alone m ((h.mem_iff (hclosed names hc) hm).mp (he ▸ hnew)) hm).symm

theorem nodup (h : Respelling fs rename) (object : (fs.map (·.1)).Nodup) :
    ((respell rename fs).map (·.1)).Nodup := by
  have hmap : (respell rename fs).map (·.1) = (fs.map (·.1)).map rename := by
    simp [respell, Function.comp_def]
  rw [hmap]
  exact List.Nodup.map_on (fun n hn m hm => h.injective hn hm) object

/-- Under the names of a field the same is given. -/
theorem given (h : Respelling fs rename)
    (closed : FieldNames.Closed (LegacyRecord.hasAny ⟨fs⟩ FieldNames.hashAlgorithm) names) :
    Json.Reader.given names (respell rename fs) = Json.Reader.given names fs := by
  have hsame : fs.filter (fun f => names.contains (rename f.1)) =
      fs.filter fun f => names.contains f.1 := by
    apply List.filter_congr
    intro f hf
    rw [Bool.eq_iff_iff, List.contains_iff_mem, List.contains_iff_mem]
    exact h.mem_iff closed (List.mem_map_of_mem hf)
  rw [Json.Reader.given, Json.Reader.given, respell, List.filter_map, List.map_map, ← hsame]
  rfl

/-- Names of which none is changed find what they found. -/
theorem lookup_eq (h : Respelling fs rename) (object : (fs.map (·.1)).Nodup)
    (closed : FieldNames.Closed (LegacyRecord.hasAny ⟨fs⟩ FieldNames.hashAlgorithm) names)
    (fixed : ∀ n ∈ fs.map (·.1), n ∈ names → rename n = n) {n : String} (hn : n ∈ names) :
    Json.lookup (respell rename fs) n = Json.lookup fs n := by
  apply Option.ext
  intro v
  rw [Json.lookup_eq_some_iff (h.nodup object), Json.lookup_eq_some_iff object, respell,
    List.mem_map]
  constructor
  · rintro ⟨f, hf, he⟩
    obtain ⟨hr, rfl⟩ := Prod.mk.inj he
    have hkey : f.1 ∈ fs.map (·.1) := List.mem_map_of_mem hf
    have hin : f.1 ∈ names := (h.mem_iff closed hkey).mp (hr ▸ hn)
    rw [← hr, fixed _ hkey hin]
    exact hf
  · intro hm
    exact ⟨(n, v), hm, by rw [fixed n (List.mem_map_of_mem hm) hn]⟩

/-- A field has the same text: it is changed only if it is given once, and then it is still. -/
theorem text?_eq (h : Respelling fs rename) (object : (fs.map (·.1)).Nodup)
    (closed : FieldNames.Closed (LegacyRecord.hasAny ⟨fs⟩ FieldNames.hashAlgorithm) names) :
    LegacyRecord.text? ⟨respell rename fs⟩ names = LegacyRecord.text? ⟨fs⟩ names := by
  by_cases fixed : ∀ n ∈ fs.map (·.1), n ∈ names → rename n = n
  · exact LegacyRecord.text?_congr fun n hn => h.lookup_eq object closed fixed hn
  -- Where a name is changed it was the only one of its field, so the order of look-up is no matter.
  · simp only [not_forall] at fixed
    obtain ⟨n, hkey, hn, hmoved⟩ := fixed
    obtain ⟨group, hg, hold, -, alone⟩ := (h n hkey).resolve_left hmoved
    obtain rfl : names = group := (closed group hg).resolve_right fun hout => hout n hold hn
    obtain ⟨f, hf, rfl⟩ := List.mem_map.mp hkey
    have hone := Json.Reader.given_eq_singleton (v := f.2) object hf hn alone
    rw [LegacyRecord.text?_of_one (r := ⟨fs⟩) hone,
      LegacyRecord.text?_of_one (r := ⟨respell rename fs⟩) ((h.given closed).trans hone)]

theorem hasAny_eq (h : Respelling fs rename) (object : (fs.map (·.1)).Nodup)
    (closed : FieldNames.Closed (LegacyRecord.hasAny ⟨fs⟩ FieldNames.hashAlgorithm) names) :
    LegacyRecord.hasAny ⟨respell rename fs⟩ names = LegacyRecord.hasAny ⟨fs⟩ names := by
  rw [Bool.eq_iff_iff, LegacyRecord.hasAny_iff (r := ⟨respell rename fs⟩) (h.nodup object),
    LegacyRecord.hasAny_iff (r := ⟨fs⟩) object, h.given closed]

end Respelling

section

variable {type : Option String} {fs : List (String × Json)}

theorem lookup_nameKind {n : String} (hn : n ≠ "type") :
    Json.lookup (nameKind type fs) n = Json.lookup fs n := by
  cases type with
  | none => rfl
  | some s =>
    have hfilter := Table.lookup_filter (fun m : String => decide (m ≠ "type")) n fs
    rw [nameKind, Json.lookup_cons, if_neg hn.symm, Json.lookup_eq, Json.lookup_eq, hfilter,
      if_pos (by simpa using hn)]

theorem nodup_nameKind (object : (fs.map (·.1)).Nodup) :
    ((nameKind type fs).map (·.1)).Nodup := by
  cases type with
  | none => exact object
  | some s =>
    rw [nameKind, List.map_cons, List.nodup_cons]
    refine ⟨?_, object.sublist (List.filter_sublist.map _)⟩
    intro hm
    obtain ⟨f, hf, he⟩ := List.mem_map.mp hm
    simp [he] at hf

end

/-- The names of all fields of a login of a kind. -/
def AuthKind.fields : AuthKind → List (List String)
  | .none => []
  | .basic => [FieldNames.username, FieldNames.password]
  | .apiKey => [FieldNames.apiKey, FieldNames.apiSecret]
  | .scram => [FieldNames.hashAlgorithm, FieldNames.scramUsername, FieldNames.scramPassword]
  | .mtls => FieldNames.keystorePath :: AuthKind.mtls.optionalFields
  | .oauth => FieldNames.tokensUrl :: FieldNames.clientId :: AuthKind.oauth.optionalFields
  | .kerberos => FieldNames.principal :: FieldNames.keytabPath :: AuthKind.kerberos.optionalFields

namespace LegacyRecord

variable {r r' : LegacyRecord}

theorem toLogin_congr (kind : r'.kind = r.kind)
    (h : ∀ names ∈ r.kind.fields, r'.text? names = r.text? names) : r'.toLogin = r.toLogin := by
  rw [toLogin, toLogin, kind]
  cases hk : r.kind with
  | none => rfl
  | _ =>
    rw [hk] at h
    simp only [AuthKind.fields, AuthKind.optionalFields, List.forall_mem_cons] at h
    simp [textOrEmpty, h]

/-- The kind of a record that names none, as a matter of which fields it has. -/
theorem kind_of_unnamed (unnamed : AuthKind.named? r.fields = none) :
    r.kind =
      if r.hasAny FieldNames.apiKey && r.hasAny FieldNames.apiSecret then .apiKey
      else if r.hasAny FieldNames.username && r.hasAny FieldNames.password &&
          !r.hasAny FieldNames.hashAlgorithm then .basic
      else if r.hasAny FieldNames.hashAlgorithm || r.hasAny FieldNames.scramOnly then .scram
      else if r.hasAny FieldNames.tokensUrl && r.hasAny FieldNames.clientId then .oauth
      else if r.hasAny FieldNames.principal && r.hasAny FieldNames.keytabPath then .kerberos
      else .none := by
  rw [kind, unnamed]
  simp [hasAny, FieldNames.username, FieldNames.password, FieldNames.principal]

/-- A record with a hash algorithm that names no kind has an API key or is a SCRAM login. -/
theorem kind_of_hashed (unnamed : AuthKind.named? r.fields = none)
    (hashed : r.hasAny FieldNames.hashAlgorithm = true) : r.kind = .apiKey ∨ r.kind = .scram := by
  rw [kind_of_unnamed unnamed, hashed]
  split
  · exact .inl rfl
  · exact .inr (by simp)

/-- The fields of the kind are closed under synonyms. -/
theorem closed_fields (unnamed : AuthKind.named? r.fields = none) :
    ∀ names ∈ r.kind.fields,
      "type" ∉ names ∧ FieldNames.Closed (r.hasAny FieldNames.hashAlgorithm) names := by
  cases hashed : r.hasAny FieldNames.hashAlgorithm with
  | true =>
    rcases kind_of_hashed unnamed hashed with hk | hk
    all_goals
      rw [hk]
      decide
  | false => cases r.kind <;> decide

end LegacyRecord

namespace Respelling

variable {fs gs : List (String × Json)} {rename : String → String} {type : Option String}
  {names : List String}

/-- Naming the kind and moving fields about leaves what is found under other names. -/
theorem lookup_stored (h : Respelling fs rename) (object : (fs.map (·.1)).Nodup)
    (same : gs.Perm (nameKind type (respell rename fs))) {n : String} (hn : n ≠ "type") :
    Json.lookup gs n = Json.lookup (respell rename fs) n := by
  rw [Json.lookup_perm (nodup_nameKind (h.nodup object)) same.symm, lookup_nameKind hn]

theorem text?_stored (h : Respelling fs rename) (object : (fs.map (·.1)).Nodup)
    (same : gs.Perm (nameKind type (respell rename fs))) (htype : "type" ∉ names)
    (closed : FieldNames.Closed (LegacyRecord.hasAny ⟨fs⟩ FieldNames.hashAlgorithm) names) :
    LegacyRecord.text? ⟨gs⟩ names = LegacyRecord.text? ⟨fs⟩ names := by
  rw [← h.text?_eq object closed]
  exact LegacyRecord.text?_congr fun n hn => h.lookup_stored object same fun he => htype (he ▸ hn)

theorem hasAny_stored (h : Respelling fs rename) (object : (fs.map (·.1)).Nodup)
    (same : gs.Perm (nameKind type (respell rename fs))) (htype : "type" ∉ names)
    (closed : FieldNames.Closed (LegacyRecord.hasAny ⟨fs⟩ FieldNames.hashAlgorithm) names) :
    LegacyRecord.hasAny ⟨gs⟩ names = LegacyRecord.hasAny ⟨fs⟩ names := by
  rw [← h.hasAny_eq object closed]
  exact LegacyRecord.hasAny_congr fun n hn =>
    h.lookup_stored object same fun he => htype (he ▸ hn)

theorem kind_stored (h : Respelling fs rename) (object : (fs.map (·.1)).Nodup)
    (unnamed : AuthKind.named? fs = none)
    (named : ∀ s ∈ type, AuthKind.ofDiscriminator? s = some (LegacyRecord.kind ⟨fs⟩))
    (same : gs.Perm (nameKind type (respell rename fs))) :
    LegacyRecord.kind ⟨gs⟩ = LegacyRecord.kind ⟨fs⟩ := by
  have hnodup : ((nameKind type (respell rename fs)).map (·.1)).Nodup :=
    nodup_nameKind (h.nodup object)
  cases type with
  | some s =>
    have hnamed : AuthKind.named? gs = some (LegacyRecord.kind ⟨fs⟩) := by
      rw [AuthKind.named?, Json.lookup_perm hnodup same.symm, nameKind, Json.lookup_cons,
        if_pos rfl]
      exact named s rfl
    rw [LegacyRecord.kind, hnamed]
  | none =>
    have hunnamed : AuthKind.named? gs = none := by
      have htype : FieldNames.Closed (LegacyRecord.hasAny ⟨fs⟩ FieldNames.hashAlgorithm) ["type"] ∧
          ["type"] ∉ FieldNames.synonyms (LegacyRecord.hasAny ⟨fs⟩ FieldNames.hashAlgorithm) := by
        cases LegacyRecord.hasAny ⟨fs⟩ FieldNames.hashAlgorithm <;> decide
      have hlookup := h.lookup_eq object htype.1 (fun n => h.eq_self htype.1 htype.2)
        (List.mem_singleton_self "type")
      rw [← unnamed, AuthKind.named?, AuthKind.named?, Json.lookup_perm hnodup same.symm, nameKind,
        hlookup]
    have hany : ∀ names, "type" ∉ names →
        FieldNames.Closed (LegacyRecord.hasAny ⟨fs⟩ FieldNames.hashAlgorithm) names →
        LegacyRecord.hasAny ⟨gs⟩ names = LegacyRecord.hasAny ⟨fs⟩ names :=
      fun _ htype closed => h.hasAny_stored object same htype closed
    rw [LegacyRecord.kind_of_unnamed hunnamed, LegacyRecord.kind_of_unnamed unnamed]
    cases hashed : LegacyRecord.hasAny ⟨fs⟩ FieldNames.hashAlgorithm with
    | true =>
      rw [hashed] at hany
      simp (disch := decide) only [hany, hashed, Bool.not_true, Bool.and_false, Bool.true_or,
        Bool.false_eq_true, ↓reduceIte]
    | false =>
      rw [hashed] at hany
      simp (disch := decide) only [hany, hashed]

theorem toLogin_stored (h : Respelling fs rename) (object : (fs.map (·.1)).Nodup)
    (unnamed : AuthKind.named? fs = none)
    (named : ∀ s ∈ type, AuthKind.ofDiscriminator? s = some (LegacyRecord.kind ⟨fs⟩))
    (same : gs.Perm (nameKind type (respell rename fs))) :
    LegacyRecord.toLogin ⟨gs⟩ = LegacyRecord.toLogin ⟨fs⟩ := by
  apply LegacyRecord.toLogin_congr (h.kind_stored object unnamed named same)
  intro names hnames
  obtain ⟨htype, hclosed⟩ := LegacyRecord.closed_fields (r := ⟨fs⟩) unnamed names hnames
  exact h.text?_stored object same htype hclosed

end Respelling

/-- The principal of a login does not hang on its optional texts. -/
theorem Principal.ofLogin_dropEmpty (l : Login) : ofLogin l.dropEmpty = ofLogin l := by
  cases l <;> rfl

theorem SaslConfig.ofLogin_dropEmpty (l : Login) : ofLogin l.dropEmpty = ofLogin l := by
  cases l <;> rfl

namespace Credential

/-- Two objects whose records come to one login stand for one kind, principal and SASL layer. -/
theorem alike_of_toLogin {fs gs : List (String × Json)}
    (h : LegacyRecord.toLogin ⟨gs⟩ = LegacyRecord.toLogin ⟨fs⟩) :
    (ofJson (.object gs)).kind = (ofJson (.object fs)).kind ∧
      Principal.ofCredential (ofJson (.object gs)) = Principal.ofCredential (ofJson (.object fs)) ∧
      SaslConfig.ofCredential (ofJson (.object gs)) =
        SaslConfig.ofCredential (ofJson (.object fs)) := by
  rw [← dropEmpty_resolved, ← dropEmpty_resolved] at h
  refine ⟨?_, ?_, ?_⟩
  · rw [← kind_resolved, ← Login.kind_dropEmpty, h, Login.kind_dropEmpty, kind_resolved]
  · rw [Principal.ofCredential, ← Principal.ofLogin_dropEmpty, h, Principal.ofLogin_dropEmpty]
    rfl
  · rw [SaslConfig.ofCredential, ← SaslConfig.ofLogin_dropEmpty, h, SaslConfig.ofLogin_dropEmpty]
    rfl

/-- An object that names no kind, and any object with the same fields under synonyms of their names
that names the same kind or none, stand for credentials of one kind, with one principal and one
SASL layer. -/
theorem alike_of_respelling {fs gs : List (String × Json)} {rename : String → String}
    {type : Option String} (object : (fs.map (·.1)).Nodup)
    (unnamed : AuthKind.named? fs = Option.none)
    (respelling : Respelling fs rename)
    (named : ∀ s ∈ type, AuthKind.ofDiscriminator? s = some (ofJson (.object fs)).kind)
    (same : gs.Perm (nameKind type (respell rename fs))) :
    (ofJson (.object gs)).kind = (ofJson (.object fs)).kind ∧
      Principal.ofCredential (ofJson (.object gs)) = Principal.ofCredential (ofJson (.object fs)) ∧
      SaslConfig.ofCredential (ofJson (.object gs)) =
        SaslConfig.ofCredential (ofJson (.object fs)) := by
  rw [kind_ofJson] at named
  exact alike_of_toLogin (respelling.toLogin_stored object unnamed named same)

/-- A SCRAM login as it is imported, and as it is stored now. -/
def importedScram : List (String × Json) :=
  [("hash_algorithm", .text "SCRAM-SHA-512"), ("scramPassword", .text "pw"),
    ("scram_username", .text "alice")]

def storedScram : List (String × Json) :=
  [("hashAlgorithm", .text "SCRAM-SHA-512"), ("password", .text "pw"), ("type", .text "scram"),
    ("username", .text "alice")]

def preferredName : String → String
  | "hash_algorithm" => "hashAlgorithm"
  | "scramPassword" => "password"
  | "scram_username" => "username"
  | n => n

theorem alike_of_respelling_scram :
    Principal.ofCredential (ofJson (.object storedScram)) = .user "User:alice" ∧
      SaslConfig.ofCredential (ofJson (.object storedScram)) =
        .ok (some ⟨.scramSha512, "alice", "pw"⟩) := by
  have hrespelling : Respelling importedScram preferredName := by
    intro n hn
    right
    revert n
    decide +kernel
  have hnamed : ∀ s ∈ some "scram",
      AuthKind.ofDiscriminator? s = some (ofJson (.object importedScram)).kind := by
    rintro s ⟨⟩
    decide +kernel
  have hsame :
      storedScram.Perm (nameKind (some "scram") (respell preferredName importedScram)) := by
    decide +kernel
  obtain ⟨-, hprincipal, hsasl⟩ :=
    alike_of_respelling (by decide) (by decide +kernel) hrespelling hnamed hsame
  have hlogin : (ofJson (.object importedScram)).resolved =
      .scram ⟨"SCRAM-SHA-512", "alice", "pw"⟩ := by decide +kernel
  have hmechanism : Mechanism.ofHashAlgorithm "SCRAM-SHA-512" = .scramSha512 := by decide +kernel
  rw [hprincipal, hsasl, Principal.ofCredential, SaslConfig.ofCredential, hlogin,
    SaslConfig.ofLogin, hmechanism]
  exact ⟨by decide, rfl⟩

end Credential

end ClusterAdmin
