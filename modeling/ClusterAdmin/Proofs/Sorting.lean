import ClusterAdmin.Json.Basic

namespace ClusterAdmin.Json

theorem insertField_perm {n : String} {fs : List (String × Json)} (h : n ∉ fs.map (·.1))
    (v : Json) : (insertField n v fs).Perm ((n, v) :: fs) := by
  induction fs with
  | nil => exact .refl _
  | cons f fs ih =>
    obtain ⟨m, w⟩ := f
    simp only [List.map_cons, List.mem_cons, not_or] at h
    rw [insertField, if_neg h.1]
    split
    · exact .refl _
    · exact ((ih h.2).cons _).trans (.swap _ _ _)

/-- Sorting moves the fields of an object whose names differ, and sorts their values. -/
theorem sortedFields_perm (fs placed : List (String × Json))
    (nodup : ((fs ++ placed).map (·.1)).Nodup) :
    (sortedFields fs placed).Perm (fs.map (fun f => (f.1, f.2.sorted)) ++ placed) := by
  induction fs generalizing placed with
  | nil => rw [sortedFields, List.map_nil, List.nil_append]
  | cons f fs ih =>
    obtain ⟨n, v⟩ := f
    rw [List.cons_append, List.map_cons, List.nodup_cons, List.map_append, List.mem_append,
      not_or] at nodup
    have hput := insertField_perm nodup.1.2 v.sorted
    have hmoved : ((fs ++ insertField n v.sorted placed).map (·.1)).Nodup := by
      have hp : ((fs ++ insertField n v.sorted placed).map (·.1)).Perm
          (n :: (fs.map (·.1) ++ placed.map (·.1))) := by
        rw [List.map_append]
        exact ((hput.map _).append_left _).trans List.perm_middle
      rw [hp.nodup_iff, List.nodup_cons, List.mem_append, not_or]
      exact nodup
    rw [sortedFields]
    exact ((ih _ hmoved).trans (hput.append_left _)).trans List.perm_middle

theorem mem_insertField {n : String} {v : Json} {fs : List (String × Json)} {f : String × Json}
    (h : f ∈ insertField n v fs) : f = (n, v) ∨ f ∈ fs := by
  induction fs with
  | nil => exact .inl (List.mem_singleton.mp h)
  | cons g fs ih =>
    rw [insertField] at h
    split at h
    · rcases List.mem_cons.mp h with rfl | h
      · exact .inl rfl
      · exact .inr (List.mem_cons_of_mem _ h)
    · split at h
      · exact List.mem_cons.mp h
      · rcases List.mem_cons.mp h with rfl | h
        · exact .inr List.mem_cons_self
        · exact (ih h).imp_right (List.mem_cons_of_mem _)

/-- The names of an object's fields rise. -/
def Rising (fs : List (String × Json)) : Prop := fs.Pairwise fun f g => f.1 < g.1

theorem rising_insertField {n : String} {v : Json} {fs : List (String × Json)} (h : Rising fs) :
    Rising (insertField n v fs) := by
  induction fs with
  | nil => exact List.pairwise_singleton ..
  | cons f fs ih =>
    obtain ⟨m, w⟩ := f
    obtain ⟨hm, hr⟩ := List.pairwise_cons.mp h
    rw [insertField]
    split
    · rename_i he
      exact List.pairwise_cons.mpr ⟨fun g hg => he ▸ hm g hg, hr⟩
    · split
      · rename_i hlt
        refine List.pairwise_cons.mpr ⟨?_, h⟩
        intro g hg
        rcases List.mem_cons.mp hg with rfl | hg
        · exact hlt
        · exact String.lt_trans hlt (hm g hg)
      · rename_i hne hlt
        have hgt : m < n :=
          String.not_le.mp fun hle => hne (String.le_antisymm hle (String.not_lt.mp hlt))
        refine List.pairwise_cons.mpr ⟨?_, ih hr⟩
        intro g hg
        rcases mem_insertField hg with rfl | hg
        · exact hgt
        · exact hm g hg

theorem rising_sortedFields {fs placed : List (String × Json)} (h : Rising placed) :
    Rising (sortedFields fs placed) := by
  induction fs generalizing placed with
  | nil => exact h
  | cons f fs ih => exact ih (rising_insertField h)

theorem insertField_last {n : String} {v : Json} {fs : List (String × Json)}
    (h : ∀ f ∈ fs, f.1 < n) : insertField n v fs = fs ++ [(n, v)] := by
  induction fs with
  | nil => rfl
  | cons f fs ih =>
    obtain ⟨m, w⟩ := f
    have hm : m < n := h (m, w) List.mem_cons_self
    have hne : n ≠ m := fun he => String.lt_irrefl n (he ▸ hm)
    have hle : ¬n < m := fun hlt => String.lt_irrefl n (String.lt_trans hlt hm)
    rw [insertField, if_neg hne, if_neg hle, ih fun f hf => h f (List.mem_cons_of_mem _ hf)]
    rfl

/-- Fields whose names rise stay where they are. -/
theorem sortedFields_of_rising {fs placed : List (String × Json)} (h : Rising (placed ++ fs))
    (fixed : ∀ f ∈ fs, f.2.sorted = f.2) : sortedFields fs placed = placed ++ fs := by
  induction fs generalizing placed with
  | nil => rw [sortedFields, List.append_nil]
  | cons f fs ih =>
    obtain ⟨n, v⟩ := f
    have hv : v.sorted = v := fixed (n, v) List.mem_cons_self
    have hbefore : ∀ g ∈ placed, g.1 < n :=
      fun g hg => (List.pairwise_append.mp h).2.2 g hg (n, v) List.mem_cons_self
    rw [List.append_cons] at h
    rw [sortedFields, hv, insertField_last hbefore,
      ih h fun f hf => fixed f (List.mem_cons_of_mem _ hf), ← List.append_cons]

mutual

theorem sorted_sorted (v : Json) : v.sorted.sorted = v.sorted := by
  match v with
  | .null | .bool _ | .int _ | .decimal _ | .text _ => simp [sorted]
  | .list items => rw [sorted, sorted, sortedItems_sortedItems items]
  | .object fields =>
    -- Sorted fields rise and hold sorted values, so that none of them moves again.
    have hfixed := sorted_of_mem_sortedFields fields [] (by simp)
    have hrising : Rising ([] ++ sortedFields fields []) := rising_sortedFields .nil
    rw [sorted, sorted, sortedFields_of_rising hrising hfixed, List.nil_append]

theorem sortedItems_sortedItems (items : List Json) :
    sortedItems (sortedItems items) = sortedItems items := by
  match items with
  | [] => rfl
  | x :: xs => rw [sortedItems, sortedItems, sorted_sorted x, sortedItems_sortedItems xs]

theorem sorted_of_mem_sortedFields (fs placed : List (String × Json))
    (h : ∀ f ∈ placed, f.2.sorted = f.2) : ∀ f ∈ sortedFields fs placed, f.2.sorted = f.2 := by
  match fs with
  | [] => exact h
  | (n, v) :: rest =>
    have hv := sorted_sorted v
    rw [sortedFields]
    apply sorted_of_mem_sortedFields rest
    intro f hf
    rcases mem_insertField hf with rfl | hf
    · exact hv
    · exact h f hf

end

end ClusterAdmin.Json
