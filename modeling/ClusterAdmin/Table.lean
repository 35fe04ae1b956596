namespace ClusterAdmin

/-- A finite map that remembers the order in which its keys came. -/
structure Table (κ ν : Type) where
  entries : List (κ × ν)
  keys_nodup : (entries.map (·.1)).Nodup

namespace Table

variable {κ ν : Type}

def empty : Table κ ν := ⟨[], by simp⟩

def keys (t : Table κ ν) : List κ := t.entries.map (·.1)

def values (t : Table κ ν) : List ν := t.entries.map (·.2)

def size (t : Table κ ν) : Nat := t.entries.length

/-- Only the entries that pass. -/
def filter (p : κ → ν → Bool) (t : Table κ ν) : Table κ ν :=
  ⟨t.entries.filter fun e => p e.1 e.2, t.keys_nodup.sublist ((List.filter_sublist).map _)⟩

/-- Every value changed, the keys kept. -/
def mapValues {μ : Type} (f : κ → ν → μ) (t : Table κ ν) : Table κ μ :=
  ⟨t.entries.map fun e => (e.1, f e.1 e.2), by
    have : (fun e : κ × ν => e.1) = ((·.1) ∘ fun e : κ × ν => (e.1, f e.1 e.2)) := rfl
    rw [List.map_map, ← this]
    exact t.keys_nodup⟩

variable [DecidableEq κ]

/-- The value of a key among entries. -/
def lookup (k : κ) : List (κ × ν) → Option ν
  | [] => none
  | e :: r => if e.1 = k then some e.2 else lookup k r

def find? (t : Table κ ν) (k : κ) : Option ν := lookup k t.entries

def contains (t : Table κ ν) (k : κ) : Bool := (t.find? k).isSome

/-- The entries with the key's value replaced, or with the key added after all others. -/
def put (k : κ) (v : ν) : List (κ × ν) → List (κ × ν)
  | [] => [(k, v)]
  | e :: r => if e.1 = k then (k, v) :: r else e :: put k v r

theorem keys_put (k : κ) (v : ν) (es : List (κ × ν)) :
    (put k v es).map (·.1) =
      if k ∈ es.map (·.1) then es.map (·.1) else es.map (·.1) ++ [k] := by
  induction es with
  | nil => simp [put]
  | cons e r ih =>
    by_cases h : e.1 = k
    · simp [put, h]
    · have h' : ¬k = e.1 := fun q => h q.symm
      simp only [put, h, if_false, List.map_cons, ih, List.mem_cons, h', false_or]
      split <;> simp

def insert (t : Table κ ν) (k : κ) (v : ν) : Table κ ν :=
  ⟨put k v t.entries, by
    rw [keys_put]
    have := t.keys_nodup
    split
    · exact this
    · rename_i h
      rw [List.nodup_append]
      refine ⟨this, by simp, ?_⟩
      intro a ha b hb hab
      simp only [List.mem_singleton] at hb
      exact h (hb ▸ hab ▸ ha)⟩

def erase (t : Table κ ν) (k : κ) : Table κ ν := t.filter fun k' _ => k' ≠ k

theorem lookup_put (k k' : κ) (v : ν) (es : List (κ × ν)) :
    lookup k' (put k v es) = if k = k' then some v else lookup k' es := by
  induction es with
  | nil => simp [put, lookup]
  | cons e r ih =>
    by_cases h : e.1 = k
    · by_cases hk : k = k' <;> simp [put, lookup, h, hk]
    · by_cases hk : k = k'
      · subst hk
        simp [put, lookup, h, ih]
      · simp [put, lookup, h, ih, hk]

theorem lookup_filter (p : κ → Bool) (k : κ) (es : List (κ × ν)) :
    lookup k (es.filter fun e => p e.1) = if p k then lookup k es else none := by
  induction es with
  | nil => simp [lookup]
  | cons e r ih =>
    by_cases hp : p e.1 <;> by_cases h : e.1 = k
    · subst h; simp [lookup, hp]
    · simp [lookup, hp, h, ih]
    · subst h; simp [hp, ih]
    · simp [lookup, hp, h, ih]

@[simp] theorem find?_empty (k : κ) : (empty : Table κ ν).find? k = none := rfl

@[simp] theorem find?_insert (t : Table κ ν) (k k' : κ) (v : ν) :
    (t.insert k v).find? k' = if k = k' then some v else t.find? k' := lookup_put k k' v t.entries

@[simp] theorem find?_erase (t : Table κ ν) (k k' : κ) :
    (t.erase k).find? k' = if k = k' then none else t.find? k' := by
  have := lookup_filter (fun q => decide (q ≠ k)) k' t.entries
  rw [show (t.erase k).find? k' = _ from this]
  by_cases h : k = k'
  · subst h; simp
  · have h' : k' ≠ k := fun q => h q.symm
    simp [h, h', find?]

/-- A table of entries, of which the last with a key counts. -/
def ofList (es : List (κ × ν)) : Table κ ν := es.foldl (fun t e => t.insert e.1 e.2) empty

end Table

end ClusterAdmin
