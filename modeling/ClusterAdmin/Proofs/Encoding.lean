import ClusterAdmin.Proofs.Decoding
import ClusterAdmin.Proofs.Sorting

namespace ClusterAdmin

theorem AuthKind.ofDiscriminator?_discriminator (kind : AuthKind) :
    ofDiscriminator? kind.discriminator = some kind := by
  cases kind <;> decide +kernel

namespace Login

open Json.Reader

theorem given_optionalField (names : List String) (n : String) (o : Option String) :
    given names (optionalField n o) = if n ∈ names then (o.map Json.text).toList else [] := by
  cases o with
  | none => simp [optionalField, given]
  | some s => by_cases h : n ∈ names <;> simp [optionalField, given, h]

theorem textOf?_of_given {names : List String} {fs : List (String × Json)} {s : String}
    (h : given names fs = [.text s]) : textOf? names fs = some s := by
  rw [textOf?, pick, h]
  rfl

theorem perhapsText?_of_given {names : List String} {fs : List (String × Json)}
    {o : Option String} (h : given names fs = (o.map Json.text).toList) :
    perhapsText? names fs = some o := by
  rw [perhapsText?, pick, h]
  cases o <;> rfl

/-- A login has the fields it is written with. -/
theorem reads_toFields (l : Login) (v : Json) : Reads (("type", v) :: l.toFields) l.kind l := by
  cases l with
  | none => exact .none
  | basic l | apiKey l | scram l =>
    constructor
    all_goals
      apply textOf?_of_given
      rfl
  | mtls l | oauth l | kerberos l =>
    constructor
    all_goals
      first
        | apply textOf?_of_given
        | apply perhapsText?_of_given
      simp +decide [toFields, given_cons, given_append, given_optionalField]

theorem Reads.perm {fs gs : List (String × Json)} {kind : AuthKind} {l : Login}
    (h : Reads fs kind l) (hp : fs.Perm gs) : Reads gs kind l := by
  have htext : ∀ names, textOf? names gs = textOf? names fs := fun names => pick_perm hp names _ _
  have hperhaps : ∀ names, perhapsText? names gs = perhapsText? names fs :=
    fun names => pick_perm hp names _ _
  cases h <;> constructor <;> simp only [htext, hperhaps] <;> assumption

theorem nodup_toFields (l : Login) (v : Json) :
    ((("type", v) :: l.toFields).map (·.1)).Nodup := by
  cases l with
  | none => simp [toFields]
  | basic l | apiKey l | scram l => simp [toFields]
  | mtls l =>
    obtain ⟨_, a, b, c, d⟩ := l
    cases a <;> cases b <;> cases c <;> cases d <;> simp [toFields, optionalField]
  | oauth l =>
    obtain ⟨_, _, a, b⟩ := l
    cases a <;> cases b <;> simp [toFields, optionalField]
  | kerberos l =>
    obtain ⟨_, _, a⟩ := l
    cases a <;> simp [toFields, optionalField]

theorem sorted_optionalField (n : String) (o : Option String) :
    (optionalField n o).map (fun f => (f.1, f.2.sorted)) = optionalField n o := by
  cases o <;> simp [optionalField, Json.sorted]

/-- All fields of a login are texts, in which there is nothing to sort. -/
theorem sorted_toFields (l : Login) :
    l.toFields.map (fun f => (f.1, f.2.sorted)) = l.toFields := by
  cases l <;> simp [toFields, sorted_optionalField, Json.sorted]

end Login

namespace Credential

/-- A login is read from its fields in whatever order they stand. -/
theorem ofJson_of_perm (l : Login) {fs : List (String × Json)}
    (h : (("type", Json.text l.kind.discriminator) :: l.toFields).Perm fs) :
    ofJson (.object fs) = .login l := by
  have hnamed : AuthKind.named? fs = some l.kind := by
    rw [AuthKind.named?, Json.lookup_perm (l.nodup_toFields _) h, Json.lookup_cons, if_pos rfl]
    exact l.kind.ofDiscriminator?_discriminator
  have hread := (Login.ofFields?_eq_some_iff l.kind fs l).mpr ((l.reads_toFields _).perm h)
  cases fs with
  | nil => cases h.length_eq
  | cons f fs => simp [ofJson, hnamed, hread]

theorem ofJson_toJson_login (l : Login) :
    ofJson l.toJson = .login l ∧ ofJson l.toJson.sorted = .login l := by
  refine ⟨ofJson_of_perm l (.refl _), ?_⟩
  have hp := Json.sortedFields_perm (("type", .text l.kind.discriminator) :: l.toFields) []
    (by rw [List.append_nil]; exact l.nodup_toFields _)
  have hfixed : (("type", Json.text l.kind.discriminator) :: l.toFields).map
      (fun f => (f.1, f.2.sorted)) = ("type", .text l.kind.discriminator) :: l.toFields := by
    rw [List.map_cons, Json.sorted, l.sorted_toFields]
  rw [List.append_nil, hfixed] at hp
  rw [Login.toJson, Json.sorted]
  exact ofJson_of_perm l hp.symm

/-- What is written is read as what it was: a login, and whatever was read from a value, be it that
the value names a kind and does not decode. It is also if what is written is taken as a map, as
what was read then is. -/
theorem ofJson_toJson :
    (∀ l : Login, ofJson (login l).toJson = .login l ∧ ofJson (login l).toJson.sorted = .login l) ∧
      ∀ v : Json, ofJson (ofJson v).toJson = ofJson v ∧
        ofJson (ofJson v.sorted).toJson.sorted = ofJson v.sorted := by
  have hkeep : ∀ v : Json, (∃ l, ofJson v = .login l) ∨ (ofJson v).toJson = v := by
    intro v
    cases v with
    | object fs =>
      obtain ⟨kind, l, -, -, he⟩ | ⟨rfl, he⟩ | ⟨he, -⟩ := ofJson_object fs
      · exact .inl ⟨l, he⟩
      · exact .inl ⟨.none, he⟩
      · exact .inr (by rw [he, toJson])
    | _ => exact .inl ⟨.none, rfl⟩
  refine ⟨ofJson_toJson_login, fun v => ⟨?_, ?_⟩⟩
  · obtain ⟨l, hl⟩ | he := hkeep v
    · rw [hl]
      exact (ofJson_toJson_login l).1
    · rw [he]
  · obtain ⟨l, hl⟩ | he := hkeep v.sorted
    · rw [hl]
      exact (ofJson_toJson_login l).2
    · rw [he, Json.sorted_sorted]

end Credential

end ClusterAdmin
