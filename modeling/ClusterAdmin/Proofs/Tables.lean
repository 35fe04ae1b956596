import ClusterAdmin.Table

namespace ClusterAdmin.Table

variable {κ ν : Type} [DecidableEq κ]

/-- A key that occurs once finds exactly the entry that is there. -/
theorem lookup_eq_some_iff {es : List (κ × ν)} (hn : (es.map (·.1)).Nodup) (k : κ) (v : ν) :
    lookup k es = some v ↔ (k, v) ∈ es := by
  induction es with
  | nil => simp [lookup]
  | cons e es ih =>
    obtain ⟨k', v'⟩ := e
    simp only [List.map_cons, List.nodup_cons] at hn
    have ih := ih hn.2
    by_cases h : k' = k
    · subst h
      have habsent : (k', v) ∉ es := fun hm => hn.1 (List.mem_map.mpr ⟨_, hm, rfl⟩)
      simp [lookup, habsent, eq_comm]
    · have h' : ¬k = k' := fun he => h he.symm
      simp [lookup, h, h', ih]

theorem find?_eq_some_iff (t : Table κ ν) (k : κ) (v : ν) :
    t.find? k = some v ↔ (k, v) ∈ t.entries :=
  lookup_eq_some_iff t.keys_nodup k v

theorem mem_keys_of_find? {t : Table κ ν} {k : κ} {v : ν} (h : t.find? k = some v) :
    k ∈ t.keys :=
  List.mem_map.mpr ⟨_, (find?_eq_some_iff t k v).mp h, rfl⟩

/-- Filtering by keys keeps all or nothing of a key. -/
theorem find?_filter_keys (t : Table κ ν) (p : κ → Bool) (k : κ) :
    (t.filter fun k' _ => p k').find? k = if p k then t.find? k else none :=
  lookup_filter p k t.entries

/-- A changed value is found where the value was. -/
theorem find?_mapValues {μ : Type} (f : κ → ν → μ) (t : Table κ ν) (k : κ) :
    (t.mapValues f).find? k = (t.find? k).map (f k) := by
  apply Option.ext
  intro w
  simp only [Option.map_eq_some_iff, find?_eq_some_iff, mapValues, List.mem_map, Prod.mk.injEq]
  constructor
  · rintro ⟨⟨k', v⟩, hm, rfl, rfl⟩
    exact ⟨v, hm, rfl⟩
  · rintro ⟨v, hm, rfl⟩
    exact ⟨(k, v), hm, rfl, rfl⟩

/-- Inserting entries one after another, the last with a key counts, or else what was there. -/
theorem find?_foldl_insert (es : List (κ × ν)) (t : Table κ ν) (k : κ) :
    (es.foldl (fun t e => t.insert e.1 e.2) t).find? k = ((ofList es).find? k).or (t.find? k) := by
  induction es generalizing t with
  | nil => simp [ofList]
  | cons e es ih =>
    have hlist : (ofList (e :: es)).find? k =
        ((ofList es).find? k).or ((empty.insert e.1 e.2).find? k) := ih _
    rw [List.foldl_cons, ih, hlist, Option.or_assoc, find?_insert, find?_insert]
    split <;> simp

theorem mem_of_find?_ofList {es : List (κ × ν)} {k : κ} {v : ν}
    (h : (ofList es).find? k = some v) : (k, v) ∈ es := by
  induction es with
  | nil => simp [ofList] at h
  | cons e es ih =>
    rw [ofList, List.foldl_cons, find?_foldl_insert, Option.or_eq_some_iff] at h
    rcases h with h | ⟨-, h⟩
    · exact List.mem_cons_of_mem _ (ih h)
    · rw [find?_insert] at h
      split at h
      · rename_i he
        cases h
        simp [← he]
      · simp at h

/-- A key that is in the list is in the table. -/
theorem find?_ofList_isSome {es : List (κ × ν)} {k : κ} {v : ν} (h : (k, v) ∈ es) :
    ((ofList es).find? k).isSome := by
  induction es with
  | nil => simp at h
  | cons e es ih =>
    rw [ofList, List.foldl_cons, find?_foldl_insert, Option.isSome_or, Bool.or_eq_true]
    rcases List.mem_cons.mp h with rfl | h
    · exact .inr (by simp)
    · exact .inl (ih h)

/-- A key that comes with at most one value finds that value. -/
theorem find?_ofList_eq {es : List (κ × ν)} {k : κ} {o : Option ν}
    (h : ∀ v, (k, v) ∈ es ↔ o = some v) : (ofList es).find? k = o := by
  apply Option.ext
  intro v
  constructor
  · intro hv
    exact (h v).mp (mem_of_find?_ofList hv)
  · intro hv
    obtain ⟨w, hw⟩ := Option.isSome_iff_exists.mp (find?_ofList_isSome ((h v).mpr hv))
    rw [hw, ← (h w).mp (mem_of_find?_ofList hw), hv]

theorem put_of_not_mem {k : κ} {es : List (κ × ν)} (h : k ∉ es.map (·.1)) (v : ν) :
    put k v es = es ++ [(k, v)] := by
  induction es with
  | nil => rfl
  | cons e es ih =>
    rw [List.map_cons, List.mem_cons, not_or] at h
    rw [put, if_neg (Ne.symm h.1), ih h.2, List.cons_append]

/-- A value is replaced in its place. -/
theorem put_append_cons {k : κ} {es : List (κ × ν)} (h : k ∉ es.map (·.1)) (v w : ν)
    (fs : List (κ × ν)) : put k v (es ++ (k, w) :: fs) = es ++ (k, v) :: fs := by
  induction es with
  | nil => rw [List.nil_append, put, if_pos rfl, List.nil_append]
  | cons e es ih =>
    rw [List.map_cons, List.mem_cons, not_or] at h
    rw [List.cons_append, put, if_neg (Ne.symm h.1), ih h.2, List.cons_append]

theorem put_put (k : κ) (v w : ν) (es : List (κ × ν)) : put k v (put k w es) = put k v es := by
  induction es with
  | nil => simp [put]
  | cons e es ih =>
    by_cases h : e.1 = k
    · simp [put, h]
    · simp [put, h, ih]

theorem insert_insert (t : Table κ ν) (k : κ) (v w : ν) :
    (t.insert k w).insert k v = t.insert k v := by
  simp only [insert, put_put]

/-- A list in which no key comes twice is the entries of its table. -/
theorem entries_ofList {es : List (κ × ν)} (hn : (es.map (·.1)).Nodup) :
    (ofList es).entries = es := by
  have h : ∀ (es : List (κ × ν)) (t : Table κ ν), ((t.entries ++ es).map (·.1)).Nodup →
      (es.foldl (fun t e => t.insert e.1 e.2) t).entries = t.entries ++ es := by
    intro es
    induction es with
    | nil => simp
    | cons e es ih =>
      intro t hn
      have hfresh : e.1 ∉ t.entries.map (·.1) := by
        rw [List.map_append, List.nodup_append] at hn
        exact fun hm => hn.2.2 _ hm _ (by simp) rfl
      have hentries : (t.insert e.1 e.2).entries = t.entries ++ [e] := put_of_not_mem hfresh e.2
      rw [List.foldl_cons, ih, hentries, List.append_assoc, List.singleton_append]
      rwa [hentries, List.append_assoc, List.singleton_append]
  exact h es empty hn

end ClusterAdmin.Table
