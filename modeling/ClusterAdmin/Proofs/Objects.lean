import ClusterAdmin.Credential.Basic
import ClusterAdmin.Json.Record
import ClusterAdmin.Proofs.Tables

namespace ClusterAdmin

namespace Json

variable {fs gs : List (String × Json)} {names : List String} {n : String} {v : Json}

theorem lookup_cons (m : String) (v : Json) (fs : List (String × Json)) (n : String) :
    lookup ((m, v) :: fs) n = if m = n then some v else lookup fs n := by
  by_cases h : m = n <;> simp [lookup, h]

theorem lookup_eq (fs : List (String × Json)) (n : String) : lookup fs n = Table.lookup n fs := by
  induction fs with
  | nil => rfl
  | cons f fs ih => rw [lookup_cons f.1 f.2, ih, Table.lookup]

theorem lookup_eq_some_iff (nodup : (fs.map (·.1)).Nodup) : lookup fs n = some v ↔ (n, v) ∈ fs := by
  rw [lookup_eq, Table.lookup_eq_some_iff nodup]

theorem mem_of_lookup (h : lookup fs n = some v) : (n, v) ∈ fs := by
  obtain ⟨f, hf, rfl⟩ := Option.map_eq_some_iff.mp h
  have hn : f.1 = n := by simpa using List.find?_some hf
  exact hn ▸ List.mem_of_find?_eq_some hf

theorem exists_lookup (h : (n, v) ∈ fs) : ∃ w, lookup fs n = some w := by
  have hf : (fs.find? (·.1 = n)).isSome := List.find?_isSome.mpr ⟨(n, v), h, by simp⟩
  obtain ⟨f, hf⟩ := Option.isSome_iff_exists.mp hf
  exact ⟨f.2, by rw [lookup, hf]; rfl⟩

theorem lookup_perm (nodup : (fs.map (·.1)).Nodup) (h : fs.Perm gs) (n : String) :
    lookup gs n = lookup fs n := by
  have nodup' : (gs.map (·.1)).Nodup := (h.map _).nodup_iff.mp nodup
  apply Option.ext
  intro v
  rw [lookup_eq_some_iff nodup', lookup_eq_some_iff nodup, h.mem_iff]

namespace Reader

theorem given_cons (names : List String) (m : String) (v : Json) (fs : List (String × Json)) :
    given names ((m, v) :: fs) = if m ∈ names then v :: given names fs else given names fs := by
  by_cases h : m ∈ names <;> simp [given, h]

theorem given_append (names : List String) (fs gs : List (String × Json)) :
    given names (fs ++ gs) = given names fs ++ given names gs := by
  simp [given]

theorem given_perm (h : fs.Perm gs) (names : List String) :
    (given names fs).Perm (given names gs) :=
  (h.filter _).map _

theorem mem_given : v ∈ given names fs ↔ ∃ n ∈ names, (n, v) ∈ fs := by
  simp only [given, List.mem_map, List.mem_filter, List.contains_iff_mem]
  constructor
  · rintro ⟨f, ⟨hf, hn⟩, rfl⟩
    exact ⟨f.1, hn, hf⟩
  · rintro ⟨n, hn, hf⟩
    exact ⟨(n, v), ⟨hf, hn⟩, rfl⟩

/-- What is given of the fields of some names is what is given under those names. -/
theorem given_filter_names (p : String → Bool) (names : List String) (fs : List (String × Json)) :
    given names (fs.filter (p ·.1)) = given (names.filter p) fs := by
  have each (f : String × Json) :
      (names.contains f.1 && p f.1) = (names.filter p).contains f.1 := by
    rw [Bool.eq_iff_iff]
    simp
  simp only [given, List.filter_filter, each]

/-- Leaving out the fields of another name changes nothing about a field. -/
theorem given_filter {other : String} (h : other ∉ names) (fs : List (String × Json)) :
    given names (fs.filter (·.1 ≠ other)) = given names fs := by
  have all : names.filter (fun n => decide (n ≠ other)) = names :=
    List.filter_eq_self.mpr fun n hn => decide_eq_true fun hn' => h (hn' ▸ hn)
  rw [given_filter_names (fun n => decide (n ≠ other)), all]

end Reader

end Json

namespace LegacyRecord

open Json.Reader

variable {r : LegacyRecord} {names : List String} {v : Json}

/-- A field of which nothing is given has no text. -/
theorem text?_of_none (h : given names r.fields = []) : r.text? names = none := by
  have hnone : names.filterMap (fun n => (Json.lookup r.fields n).bind Json.text?) = [] := by
    apply List.filterMap_eq_nil_iff.mpr
    intro n hn
    cases hl : Json.lookup r.fields n with
    | none => rfl
    | some w =>
      have hw := mem_given.mpr ⟨n, hn, Json.mem_of_lookup hl⟩
      rw [h] at hw
      cases hw
  rw [text?, hnone, List.find?_nil]

/-- The text of a field that is given once is the text that is given, unless that is empty. -/
theorem text?_of_one (h : given names r.fields = [v]) :
    r.text? names = v.text?.filter (!·.isEmpty) := by
  have hall : ∀ s ∈ names.filterMap (fun n => (Json.lookup r.fields n).bind Json.text?),
      v.text? = some s := by
    intro s hs
    obtain ⟨n, hn, hb⟩ := List.mem_filterMap.mp hs
    obtain ⟨w, hl, hw⟩ := Option.bind_eq_some_iff.mp hb
    have hmem := mem_given.mpr ⟨n, hn, Json.mem_of_lookup hl⟩
    rw [h, List.mem_singleton] at hmem
    rw [← hmem, hw]
  rw [text?]
  cases hv : v.text? with
  | none =>
    apply List.find?_eq_none.mpr
    intro s hs
    rw [hall s hs] at hv
    cases hv
  | some s =>
    obtain ⟨n, hn, hm⟩ := mem_given.mp (h ▸ List.mem_singleton_self v)
    have hs : s ∈ names.filterMap (fun n => (Json.lookup r.fields n).bind Json.text?) := by
      obtain ⟨w, hw⟩ := Json.exists_lookup hm
      have hmem := mem_given.mpr ⟨n, hn, Json.mem_of_lookup hw⟩
      rw [h, List.mem_singleton] at hmem
      exact List.mem_filterMap.mpr ⟨n, hn, by rw [hw, hmem]; exact hv⟩
    cases he : s.isEmpty with
    | true =>
      rw [Option.filter_some_neg (by simp [he])]
      apply List.find?_eq_none.mpr
      intro t ht
      obtain rfl := Option.some.inj (hv.symm.trans (hall t ht))
      simp [he]
    | false =>
      rw [Option.filter_some_pos (by simp [he])]
      have hfound := (List.find?_isSome (p := fun t => !t.isEmpty)).mpr ⟨s, hs, by simp [he]⟩
      obtain ⟨t, ht⟩ := Option.isSome_iff_exists.mp hfound
      have hvt := hall t (List.mem_of_find?_eq_some ht)
      rw [ht, ← hvt, hv]

theorem has_iff (r : LegacyRecord) (n : String) :
    r.has n = true ↔ ∃ v, Json.lookup r.fields n = some v ∧ v ≠ .null := by
  rw [has]
  cases Json.lookup r.fields n with
  | none => simp
  | some v => cases v <;> simp

/-- Whether a record has a field that is not null, if each name is given once. -/
theorem hasAny_iff (nodup : (r.fields.map (·.1)).Nodup) :
    r.hasAny names = true ↔ ∃ v ∈ given names r.fields, v ≠ .null := by
  simp only [hasAny, List.any_eq_true, has_iff, Json.lookup_eq_some_iff nodup, mem_given]
  constructor
  · rintro ⟨n, hn, v, hm, hv⟩
    exact ⟨v, ⟨n, hn, hm⟩, hv⟩
  · rintro ⟨v, ⟨n, hn, hm⟩, hv⟩
    exact ⟨n, hn, v, hm, hv⟩

end LegacyRecord

end ClusterAdmin
