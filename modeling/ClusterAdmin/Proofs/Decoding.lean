import ClusterAdmin.Credential.Codec
import ClusterAdmin.Proofs.Objects

namespace ClusterAdmin

namespace Json.Reader

/-- What an object's field is read as: its one value decoded, or a default if there is none. -/
def pick {α : Type} (names : List String) (decode : Decoder α) (absent : α)
    (fs : List (String × Json)) : Option α :=
  match given names fs with
  | [] => some absent
  | [v] => decode v
  | _ => none

theorem run_field_bind {α β : Type} (names : List String) (decode : Decoder α) (absent : α)
    (inList : Option α) (next : α → Reader β) (fs : List (String × Json)) :
    (field names decode (some absent) inList >>= next).run (.fields fs) =
      (pick names decode absent fs).bind fun a => (next a).run (.fields fs) := by
  have hrun : (field names decode (some absent) inList).run (.fields fs) =
      (pick names decode absent fs).map (·, .fields fs) := by
    simp only [StateT.run, field, pick]
    split <;> simp [*]
  rw [StateT.run_bind, hrun]
  cases pick names decode absent fs <;> rfl

theorem pick_filter {α : Type} {names : List String} {other : String} (h : other ∉ names)
    (decode : Decoder α) (absent : α) (fs : List (String × Json)) :
    pick names decode absent (fs.filter (·.1 ≠ other)) = pick names decode absent fs := by
  rw [pick, pick, given_filter h]

theorem pick_perm {α : Type} {fs gs : List (String × Json)} (h : fs.Perm gs)
    (names : List String) (decode : Decoder α) (absent : α) :
    pick names decode absent gs = pick names decode absent fs := by
  have hp := given_perm h names
  rw [pick, pick]
  cases hf : given names fs with
  | nil =>
    rw [hf] at hp
    rw [hp.nil_eq]
  | cons v vs =>
    rw [hf] at hp
    cases vs with
    | nil => rw [List.perm_singleton.mp hp.symm]
    | cons w ws =>
      have hl := hp.length_eq
      split
      · rename_i hg
        simp [hg] at hl
      · rename_i hg
        simp [hg] at hl
      · rfl

/-- A text that is empty if there is none. -/
def textOf? (names : List String) (fs : List (String × Json)) : Option String :=
  pick names Decoder.text "" fs

/-- A text, or none if there is none or null. -/
def perhapsText? (names : List String) (fs : List (String × Json)) : Option (Option String) :=
  pick names Decoder.text.nullable none fs

theorem textOf?_filter {names : List String} {other : String} (h : other ∉ names)
    (fs : List (String × Json)) :
    textOf? names (fs.filter (·.1 ≠ other)) = textOf? names fs :=
  pick_filter h Decoder.text "" fs

theorem perhapsText?_filter {names : List String} {other : String} (h : other ∉ names)
    (fs : List (String × Json)) :
    perhapsText? names (fs.filter (·.1 ≠ other)) = perhapsText? names fs :=
  pick_filter h Decoder.text.nullable none fs

theorem run_text_bind {β : Type} (names : List String) (next : String → Reader β)
    (fs : List (String × Json)) :
    (withDefault names Decoder.text "" >>= next).run (.fields fs) =
      (textOf? names fs).bind fun s => (next s).run (.fields fs) :=
  run_field_bind names Decoder.text "" (some "") next fs

theorem run_perhaps_bind {β : Type} (names : List String) (next : Option String → Reader β)
    (fs : List (String × Json)) :
    (optional names Decoder.text >>= next).run (.fields fs) =
      (perhapsText? names fs).bind fun o => (next o).run (.fields fs) :=
  run_field_bind names Decoder.text.nullable none (some none) next fs

theorem textOrEmpty_of_textOf? {names : List String} {fs : List (String × Json)} {s : String}
    (h : textOf? names fs = some s) : LegacyRecord.textOrEmpty ⟨fs⟩ names = s := by
  rw [textOf?, pick] at h
  rw [LegacyRecord.textOrEmpty]
  split at h
  · rename_i hg
    cases h
    rw [LegacyRecord.text?_of_none hg]
    rfl
  · rename_i v hg
    rw [LegacyRecord.text?_of_one hg, show v.text? = some s from h]
    cases he : s.isEmpty with
    | true => simpa [Option.filter_some, he] using (String.isEmpty_iff.mp he).symm
    | false => simp [Option.filter_some, he]
  · cases h

theorem nullable_text_eq_some {v : Json} {o : Option String}
    (h : Decoder.text.nullable v = some o) :
    (v = .null ∧ o = none) ∨ ∃ s, v = .text s ∧ o = some s := by
  cases v with
  | null =>
    cases h
    exact .inl ⟨rfl, rfl⟩
  | text s =>
    cases h
    exact .inr ⟨s, rfl, rfl⟩
  | _ => cases h

theorem text?_of_perhapsText? {names : List String} {fs : List (String × Json)}
    {o : Option String} (h : perhapsText? names fs = some o) :
    LegacyRecord.text? ⟨fs⟩ names = o.filter (!·.isEmpty) := by
  rw [perhapsText?, pick] at h
  split at h
  · rename_i hg
    cases h
    exact LegacyRecord.text?_of_none hg
  · rename_i v hg
    rw [LegacyRecord.text?_of_one hg]
    obtain ⟨rfl, rfl⟩ | ⟨s, rfl, rfl⟩ := nullable_text_eq_some h
    · rfl
    · rfl
  · cases h

/-- A field is read as the empty text exactly if the empty text is given under one of its names. -/
theorem eq_empty_iff_of_perhapsText? {names : List String} {fs : List (String × Json)}
    {o : Option String} (h : perhapsText? names fs = some o) :
    o = some "" ↔ ∃ n ∈ names, (n, .text "") ∈ fs := by
  rw [← mem_given]
  rw [perhapsText?, pick] at h
  split at h
  · rename_i hg
    cases h
    simp [hg]
  · rename_i v hg
    rw [hg, List.mem_singleton]
    obtain ⟨rfl, rfl⟩ | ⟨s, rfl, rfl⟩ := nullable_text_eq_some h
    · simp
    · simp [eq_comm]
  · cases h

end Json.Reader

/-- The optional fields of a login of a kind, each by its names. -/
def AuthKind.optionalFields : AuthKind → List (List String)
  | .mtls =>
    [FieldNames.keystorePassword, FieldNames.keystoreType, FieldNames.keyPath,
      FieldNames.truststorePath]
  | .oauth => [FieldNames.clientSecret, FieldNames.scope]
  | .kerberos => [FieldNames.serviceName]
  | .none | .basic | .apiKey | .scram => []

namespace Login

open Json.Reader

/-- The fields of an object are those of a login of a kind, each given at most once. -/
inductive Reads (fs : List (String × Json)) : AuthKind → Login → Prop
  | none : Reads fs .none .none
  | basic {username password : String}
    (username_eq : textOf? FieldNames.username fs = some username)
    (password_eq : textOf? FieldNames.password fs = some password) :
    Reads fs .basic (.basic ⟨username, password⟩)
  | apiKey {key secret : String}
    (key_eq : textOf? FieldNames.apiKey fs = some key)
    (secret_eq : textOf? FieldNames.apiSecret fs = some secret) :
    Reads fs .apiKey (.apiKey ⟨key, secret⟩)
  | scram {hashAlgorithm username password : String}
    (hash_eq : textOf? FieldNames.hashAlgorithm fs = some hashAlgorithm)
    (username_eq : textOf? FieldNames.scramUsername fs = some username)
    (password_eq : textOf? FieldNames.scramPassword fs = some password) :
    Reads fs .scram (.scram ⟨hashAlgorithm, username, password⟩)
  | mtls {keystorePath : String} {keystorePassword keystoreType keyPath truststorePath :
      Option String}
    (keystorePath_eq : textOf? FieldNames.keystorePath fs = some keystorePath)
    (keystorePassword_eq : perhapsText? FieldNames.keystorePassword fs = some keystorePassword)
    (keystoreType_eq : perhapsText? FieldNames.keystoreType fs = some keystoreType)
    (keyPath_eq : perhapsText? FieldNames.keyPath fs = some keyPath)
    (truststorePath_eq : perhapsText? FieldNames.truststorePath fs = some truststorePath) :
    Reads fs .mtls
      (.mtls ⟨keystorePath, keystorePassword, keystoreType, keyPath, truststorePath⟩)
  | oauth {tokensUrl clientId : String} {clientSecret scope : Option String}
    (tokensUrl_eq : textOf? FieldNames.tokensUrl fs = some tokensUrl)
    (clientId_eq : textOf? FieldNames.clientId fs = some clientId)
    (clientSecret_eq : perhapsText? FieldNames.clientSecret fs = some clientSecret)
    (scope_eq : perhapsText? FieldNames.scope fs = some scope) :
    Reads fs .oauth (.oauth ⟨tokensUrl, clientId, clientSecret, scope⟩)
  | kerberos {principal keytabPath : String} {serviceName : Option String}
    (principal_eq : textOf? FieldNames.principal fs = some principal)
    (keytabPath_eq : textOf? FieldNames.keytabPath fs = some keytabPath)
    (serviceName_eq : perhapsText? FieldNames.serviceName fs = some serviceName) :
    Reads fs .kerberos (.kerberos ⟨principal, keytabPath, serviceName⟩)

/-- A kind's reader succeeds on an object exactly if its fields are those of a login of the kind. -/
theorem ofFields?_eq_some_iff (kind : AuthKind) (fs : List (String × Json)) (l : Login) :
    ofFields? kind fs = some l ↔ Reads fs kind l := by
  rw [ofFields?, Option.map_eq_some_iff]
  constructor
  · rintro ⟨⟨l', rest⟩, h, rfl⟩
    cases kind
    all_goals
      simp (disch := decide) only [reader, run_text_bind, run_perhaps_bind, textOf?_filter,
        perhapsText?_filter, Option.bind_eq_some_iff] at h
    case none =>
      cases h
      exact .none
    case basic =>
      obtain ⟨username, hu, password, hp, h⟩ := h
      cases h
      exact .basic hu hp
    case apiKey =>
      obtain ⟨key, hk, secret, hs, h⟩ := h
      cases h
      exact .apiKey hk hs
    case scram =>
      obtain ⟨hash, hh, username, hu, password, hp, h⟩ := h
      cases h
      exact .scram hh hu hp
    case mtls =>
      obtain ⟨keystore, hk, password, hp, type, ht, key, hkey, truststore, htrust, h⟩ := h
      cases h
      exact .mtls hk hp ht hkey htrust
    case oauth =>
      obtain ⟨url, hu, client, hc, secret, hs, scope, hscope, h⟩ := h
      cases h
      exact .oauth hu hc hs hscope
    case kerberos =>
      obtain ⟨principal, hp, keytab, hk, service, hs, h⟩ := h
      cases h
      exact .kerberos hp hk hs
  · intro h
    cases h
    case none => exact ⟨_, rfl, rfl⟩
    all_goals
      simp (disch := decide) only [reader, run_text_bind, run_perhaps_bind, textOf?_filter,
        perhapsText?_filter]
      simp [*]

/-- The login with its optional texts that are empty left out. -/
def dropEmpty : Login → Login
  | .mtls l =>
    .mtls { l with
      keystorePassword := l.keystorePassword.filter (!·.isEmpty)
      keystoreType := l.keystoreType.filter (!·.isEmpty)
      keyPath := l.keyPath.filter (!·.isEmpty)
      truststorePath := l.truststorePath.filter (!·.isEmpty) }
  | .oauth l =>
    .oauth { l with
      clientSecret := l.clientSecret.filter (!·.isEmpty)
      scope := l.scope.filter (!·.isEmpty) }
  | .kerberos l => .kerberos { l with serviceName := l.serviceName.filter (!·.isEmpty) }
  | l => l

@[simp] theorem kind_dropEmpty (l : Login) : l.dropEmpty.kind = l.kind := by
  cases l <;> rfl

theorem filter_eq_self_iff (o : Option String) : o.filter (!·.isEmpty) = o ↔ o ≠ some "" := by
  cases o with
  | none => simp
  | some s => simp [Option.filter_some]

/-- Read leniently, the fields of a login are the same but for empty texts that are optional. -/
theorem Reads.toLogin {fs : List (String × Json)} {kind : AuthKind} {l : Login}
    (h : Reads fs kind l) (named : AuthKind.named? fs = some kind) :
    LegacyRecord.toLogin ⟨fs⟩ = l.dropEmpty := by
  have hkind : LegacyRecord.kind ⟨fs⟩ = kind := by rw [LegacyRecord.kind, named]
  rw [LegacyRecord.toLogin, hkind]
  cases h <;> simp [dropEmpty, textOrEmpty_of_textOf?, text?_of_perhapsText?, *]

/-- Nothing is left out if no optional field of the kind is given as the empty text. -/
theorem Reads.dropEmpty_eq_iff {fs : List (String × Json)} {kind : AuthKind} {l : Login}
    (h : Reads fs kind l) :
    l.dropEmpty = l ↔ ∀ names ∈ kind.optionalFields, ¬∃ n ∈ names, (n, .text "") ∈ fs := by
  cases h with
  | none | basic | apiKey | scram => simp [dropEmpty, AuthKind.optionalFields]
  | mtls _ hpassword htype hkey htruststore =>
    simp only [dropEmpty, mtls.injEq, MtlsLogin.mk.injEq, filter_eq_self_iff, ne_eq,
      eq_empty_iff_of_perhapsText? hpassword, eq_empty_iff_of_perhapsText? htype,
      eq_empty_iff_of_perhapsText? hkey, eq_empty_iff_of_perhapsText? htruststore,
      AuthKind.optionalFields, List.forall_mem_cons, List.not_mem_nil, false_imp_iff, implies_true,
      true_and, and_true]
  | oauth _ _ hsecret hscope =>
    simp only [dropEmpty, oauth.injEq, OAuthLogin.mk.injEq, filter_eq_self_iff, ne_eq,
      eq_empty_iff_of_perhapsText? hsecret, eq_empty_iff_of_perhapsText? hscope,
      AuthKind.optionalFields, List.forall_mem_cons, List.not_mem_nil, false_imp_iff, implies_true,
      true_and, and_true]
  | kerberos _ _ hservice =>
    simp only [dropEmpty, kerberos.injEq, KerberosLogin.mk.injEq, filter_eq_self_iff, ne_eq,
      eq_empty_iff_of_perhapsText? hservice, AuthKind.optionalFields, List.forall_mem_cons,
      List.not_mem_nil, false_imp_iff, implies_true, true_and, and_true]

end Login

namespace LegacyRecord

theorem text?_ne_empty (r : LegacyRecord) (names : List String) : r.text? names ≠ some "" := by
  intro h
  have he := List.find?_some h
  simp at he

/-- What is read leniently has no optional text that is empty. -/
theorem dropEmpty_toLogin (r : LegacyRecord) : r.toLogin.dropEmpty = r.toLogin := by
  have hkeep : ∀ names, (r.text? names).filter (!·.isEmpty) = r.text? names :=
    fun names => (Login.filter_eq_self_iff _).mpr (r.text?_ne_empty names)
  rw [toLogin]
  cases r.kind <;> simp [Login.dropEmpty, hkeep]

end LegacyRecord

namespace Credential

/-- An object stands for a login if it names a kind and has its fields, else for itself. -/
theorem ofJson_object (fs : List (String × Json)) :
    (∃ kind l, AuthKind.named? fs = some kind ∧ Login.Reads fs kind l ∧
      ofJson (.object fs) = .login l) ∨
    (fs = [] ∧ ofJson (.object fs) = .none) ∨
    (ofJson (.object fs) = .legacy ⟨fs⟩ ∧
      ∀ kind, AuthKind.named? fs = some kind → Login.ofFields? kind fs = Option.none) := by
  cases fs with
  | nil => exact .inr (.inl ⟨rfl, rfl⟩)
  | cons f fs =>
    cases hk : AuthKind.named? (f :: fs) with
    | none => exact .inr (.inr ⟨by simp [ofJson, hk], by simp⟩)
    | some kind =>
      cases hl : Login.ofFields? kind (f :: fs) with
      | none => exact .inr (.inr ⟨by simp [ofJson, hk, hl], by simp [hl]⟩)
      | some l =>
        have hreads := (Login.ofFields?_eq_some_iff kind (f :: fs) l).mp hl
        exact .inl ⟨kind, l, rfl, hreads, by simp [ofJson, hk, hl]⟩

/-- A credential read from an object is its record read leniently, but for empty texts that are
optional. -/
theorem dropEmpty_resolved (fs : List (String × Json)) :
    (ofJson (.object fs)).resolved.dropEmpty = LegacyRecord.toLogin ⟨fs⟩ := by
  obtain ⟨kind, l, named, hl, he⟩ | ⟨rfl, he⟩ | ⟨he, -⟩ := ofJson_object fs
  · rw [he]
    exact (hl.toLogin named).symm
  · rw [he]
    rfl
  · rw [he]
    exact LegacyRecord.dropEmpty_toLogin ⟨fs⟩

/-- The two ways to read an object find the same login up to optional texts that are empty, which
only the strict way keeps. So they find different ones exactly if the strict way succeeds and an
optional field of the kind is given as the empty text. -/
theorem resolved_eq_toLogin_iff (fs : List (String × Json)) :
    (ofJson (.object fs)).resolved.dropEmpty = LegacyRecord.toLogin ⟨fs⟩ ∧
      ((ofJson (.object fs)).resolved = LegacyRecord.toLogin ⟨fs⟩ ↔
        ¬∃ kind l, AuthKind.named? fs = some kind ∧ Login.ofFields? kind fs = some l ∧
          ∃ names ∈ kind.optionalFields, ∃ n ∈ names, (n, .text "") ∈ fs) := by
  have hdrop := dropEmpty_resolved fs
  refine ⟨hdrop, ?_⟩
  rw [← hdrop, eq_comm]
  obtain ⟨kind, l, named, hl, he⟩ | ⟨rfl, he⟩ | ⟨he, hnone⟩ := ofJson_object fs
  · rw [he, show (login l).resolved = l from rfl, hl.dropEmpty_eq_iff]
    have hread := (Login.ofFields?_eq_some_iff kind fs l).mpr hl
    constructor
    · rintro h ⟨kind', l', hk, -, names, hn, hgiven⟩
      obtain rfl := Option.some.inj (named.symm.trans hk)
      exact h names hn hgiven
    · intro h names hn hgiven
      exact h ⟨kind, l, named, hread, names, hn, hgiven⟩
  · rw [he]
    refine iff_of_true rfl ?_
    rintro ⟨kind, l, -, -, names, -, n, -, hm⟩
    cases hm
  · rw [he]
    refine iff_of_true (LegacyRecord.dropEmpty_toLogin ⟨fs⟩) ?_
    rintro ⟨kind, l, hk, hl, -⟩
    rw [hnone kind hk] at hl
    cases hl

/-- The scope of this record is empty if it is read strictly, and missing if it is not. -/
theorem resolved_ne_toLogin :
    ¬∀ fs : List (String × Json), (fs.map (·.1)).Nodup →
      (ofJson (.object fs)).resolved = LegacyRecord.toLogin ⟨fs⟩ := by
  intro h
  have hsame := h [("clientId", .text "app"), ("scope", .text ""),
    ("tokensUrl", .text "https://idp/token"), ("type", .text "OAuth")] (by decide)
  revert hsame
  decide +kernel

/-- A credential read from an object is of the kind that the object is judged to be. -/
theorem kind_ofJson (fs : List (String × Json)) :
    (ofJson (.object fs)).kind = LegacyRecord.kind ⟨fs⟩ := by
  rw [← kind_resolved, ← Login.kind_dropEmpty, dropEmpty_resolved, LegacyRecord.kind_toLogin]

/-- A value is of one kind whether it is judged without reading it, once it is read, or by the login
it stands for; and that login is no record that would have to be judged again. -/
theorem classify_eq_kind (v : Json) :
    classify v = (ofJson v).kind ∧ (ofJson v).kind = (ofJson v).resolved.kind ∧
      ∀ r, login (ofJson v).resolved ≠ legacy r := by
  refine ⟨?_, (kind_resolved _).symm, nofun⟩
  cases v with
  | object fs => exact (kind_ofJson fs).symm
  | null | bool | int | decimal | text | list => rfl

end Credential

end ClusterAdmin
