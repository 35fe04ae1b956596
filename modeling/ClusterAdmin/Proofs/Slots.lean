import ClusterAdmin.Pool.Overlap
import ClusterAdmin.Proofs.Fleets
import ClusterAdmin.Proofs.Tables

namespace ClusterAdmin.Pool.Overlap

theorem holds_iff (o : Overlap) (i s : Nat) :
    o.holds i s = true ↔ ∃ x, o.slots[s]? = some x ∧ x.holder = some i := by
  simp [holds, Option.bind_eq_some_iff]

/-- A lock is held by one call. -/
theorem holds_unique {o : Overlap} {i j s : Nat} (hi : o.holds i s = true)
    (hj : o.holds j s = true) : i = j := by
  obtain ⟨x, hx, hxi⟩ := (o.holds_iff i s).mp hi
  obtain ⟨y, hy, hyj⟩ := (o.holds_iff j s).mp hj
  rw [hx] at hy
  cases hy
  exact Option.some.inj (hxi.symm.trans hyj)

theorem slots_update (o : Overlap) (s t : Nat) (change : Slot → Slot) :
    (o.update s change).slots[t]? = (o.slots[t]?).map fun x => if s = t then change x else x := by
  simp only [update, List.getElem?_modify, Option.map_eq_map]

/-- What becomes of the lock changes nothing about what a slot holds. -/
theorem content_update (o : Overlap) (s t : Nat) {change : Slot → Slot}
    (h : ∀ x, (change x).content = x.content) : (o.update s change).content t = o.content t := by
  simp only [content, slots_update]
  cases o.slots[t]? with
  | none => rfl
  | some x =>
    simp only [Option.map_some, Option.bind_some]
    split
    · exact h x
    · rfl

@[simp] theorem content_request (o : Overlap) (s i t : Nat) :
    (o.update s (Slot.request i)).content t = o.content t := by
  refine o.content_update s t fun x => ?_
  simp only [Slot.request]
  split <;> rfl

@[simp] theorem content_release (o : Overlap) (s t : Nat) :
    (o.release s).content t = o.content t :=
  o.content_update s t fun _ => rfl

@[simp] theorem holds_fill (o : Overlap) (s : Nat) (x : Option PooledHandle) (i t : Nat) :
    (o.fill s x).holds i t = o.holds i t := by
  simp only [holds, fill, slots_update]
  cases o.slots[t]? with
  | none => rfl
  | some y =>
    simp only [Option.map_some, Option.bind_some]
    split <;> rfl

theorem content_fill_ne (o : Overlap) {s t : Nat} (h : s ≠ t) (x : Option PooledHandle) :
    (o.fill s x).content t = o.content t := by
  simp [content, fill, slots_update, h]

theorem content_fill_self {o : Overlap} {i s : Nat} (h : o.holds i s = true)
    (x : Option PooledHandle) : (o.fill s x).content s = x := by
  obtain ⟨y, hy, -⟩ := (o.holds_iff i s).mp h
  simp [content, fill, slots_update, hy]

/-- A slot that holds something was filled or has held it before. -/
theorem content_of_fill {o : Overlap} {s t : Nat} {x : Option PooledHandle} {e : PooledHandle}
    (h : (o.fill s x).content t = some e) : o.content t = some e ∨ (s = t ∧ x = some e) := by
  by_cases hs : s = t
  · subst hs
    simp only [content, fill, slots_update, Option.bind_eq_some_iff, Option.map_eq_some_iff] at h
    obtain ⟨_, ⟨_, -, rfl⟩, hx⟩ := h
    exact .inr ⟨rfl, by simpa using hx⟩
  · rw [content_fill_ne _ hs] at h
    exact .inl h

theorem content_or_of_fill {o : Overlap} {s t : Nat} {x : Option PooledHandle}
    (h : (o.fill s x).content t ≠ none) : o.content t ≠ none ∨ s = t := by
  obtain ⟨e, he⟩ := Option.ne_none_iff_exists'.mp h
  refine (content_of_fill he).imp (fun h => ?_) And.left
  simp [h]

/-- A new slot comes without a handle. -/
theorem content_fresh (o : Overlap) (i : Nat) (current : Table ClusterKey Nat) (t : Nat) :
    Overlap.content { o with slots := o.slots ++ [⟨none, some i, []⟩], current } t =
      o.content t := by
  simp only [content, List.getElem?_append]
  split
  · rfl
  · rw [List.getElem?_singleton, List.getElem?_eq_none (by omega)]
    split <;> simp

@[simp] theorem length_update (o : Overlap) (s : Nat) (change : Slot → Slot) :
    (o.update s change).slots.length = o.slots.length := by
  simp [update]

/-- A slot holds no open handle. -/
def Vacant (o : Overlap) (s : Nat) : Prop :=
  ∀ e, o.content s = some e → ∃ k, o.fleet.roll[e.handle]? = some (k, true)

theorem vacant_of_none {o : Overlap} {s : Nat} (h : o.content s = none) : o.Vacant s := by
  intro e he
  rw [h] at he
  cases he

/-- What a vacant slot holds is not an open handle. -/
theorem Vacant.ne {o : Overlap} {s h : Nat} {e : PooledHandle} {k : ClusterKey} (v : o.Vacant s)
    (he : o.content s = some e) (hr : o.fleet.roll[h]? = some (k, false)) : e.handle ≠ h := by
  rintro rfl
  obtain ⟨k', hk'⟩ := v e he
  rw [hk'] at hr
  simp at hr

/-- Every slot belongs to one cluster; what it holds is a handle of the cluster, and only the slot
that the cluster has now holds anything; and every open handle is held. -/
structure Stored (owner : List ClusterKey) (o : Overlap) : Prop where
  size : owner.length = o.slots.length
  current : ∀ k s, o.current.find? k = some s → owner[s]? = some k
  kept : ∀ s e, o.content s = some e →
    ∃ k b, o.current.find? k = some s ∧ o.fleet.roll[e.handle]? = some (k, b)
  stored : ∀ h k, o.fleet.roll[h]? = some (k, false) →
    ∃ s e, o.current.find? k = some s ∧ o.content s = some e ∧ e.handle = h

namespace Stored

variable {owner : List ClusterKey} {o o' : Overlap}

theorem congr (st : Stored owner o) (size : o'.slots.length = o.slots.length)
    (content : ∀ s, o'.content s = o.content s) (current : o'.current = o.current)
    (roll : o'.fleet.roll = o.fleet.roll) : Stored owner o' := by
  refine ⟨st.size.trans size.symm, ?_, ?_, ?_⟩
  · rw [current]
    exact st.current
  · intro s e he
    rw [content] at he
    rw [current, roll]
    exact st.kept s e he
  · intro h k hr
    rw [roll] at hr
    obtain ⟨s, e, hs, he, hh⟩ := st.stored h k hr
    exact ⟨s, e, current ▸ hs, (content s).trans he, hh⟩

theorem request (st : Stored owner o) (s i : Nat) : Stored owner (o.update s (Slot.request i)) :=
  st.congr (o.length_update s _) (o.content_request s i) rfl rfl

theorem release (st : Stored owner o) (s : Nat) : Stored owner (o.release s) :=
  st.congr (o.length_update s _) (o.content_release s) rfl rfl

/-- Other counts, another time, another log. -/
theorem setCore (st : Stored owner o) (core : PoolCore) (roll : core.fleet.roll = o.fleet.roll) :
    Stored owner (o.setCore core) :=
  st.congr rfl (fun _ => rfl) rfl roll

/-- Only a slot that its cluster has now is worth a look. -/
theorem current_of_content (st : Stored owner o) {s : Nat} {e : PooledHandle} {k : ClusterKey}
    (he : o.content s = some e) (hk : owner[s]? = some k) : o.current.find? k = some s := by
  obtain ⟨k', b, hs, -⟩ := st.kept s e he
  rw [st.current k' s hs] at hk
  cases hk
  exact hs

/-- What a cluster's slot holds is a handle of the cluster. -/
theorem roll_of_content (st : Stored owner o) {s : Nat} {e : PooledHandle} {k : ClusterKey}
    (hk : o.current.find? k = some s) (he : o.content s = some e) :
    ∃ b, o.fleet.roll[e.handle]? = some (k, b) := by
  obtain ⟨k', b, hk', hr⟩ := st.kept s e he
  have howner := st.current k' s hk'
  rw [st.current k s hk] at howner
  cases howner
  exact ⟨b, hr⟩

/-- A slot is filled with a new state of the handle that it holds. -/
theorem refill (st : Stored owner o) {i s : Nat} {e e' : PooledHandle} (hl : o.holds i s = true)
    (hs : o.content s = some e) (he : e'.handle = e.handle) :
    Stored owner (o.fill s (some e')) := by
  refine ⟨st.size.trans (o.length_update s _).symm, st.current, ?_, ?_⟩
  · intro t x hx
    by_cases ht : s = t
    · subst ht
      rw [content_fill_self hl] at hx
      cases hx
      rw [he]
      exact st.kept s e hs
    · rw [o.content_fill_ne ht] at hx
      exact st.kept t x hx
  · intro h k hr
    obtain ⟨t, x, ht, hx, hh⟩ := st.stored h k hr
    by_cases hst : s = t
    · subst hst
      rw [hs] at hx
      cases hx
      exact ⟨s, e', ht, content_fill_self hl _, he.trans hh⟩
    · exact ⟨t, x, ht, (o.content_fill_ne hst _).trans hx, hh⟩

/-- A handle may be closed where it lies. -/
theorem close (st : Stored owner o) (h : Nat) :
    Stored owner { o with fleet := o.fleet.close h } := by
  refine ⟨st.size, st.current, ?_, ?_⟩
  · intro s e he
    obtain ⟨k, b, hs, hr⟩ := st.kept s e he
    obtain ⟨b', hr', -⟩ := o.fleet.follows_close h _ k b hr
    exact ⟨k, b', hs, hr'⟩
  · intro h' k hr
    by_cases hh : h = h'
    · subst hh
      cases hold : o.fleet.roll[h]? with
      | none =>
        have hn : (o.fleet.close h).roll[h]? = none := by
          rw [Fleet.roll_close, List.getElem?_modify_eq, hold]
          rfl
        rw [hn] at hr
        cases hr
      | some x =>
        rw [Fleet.roll_close_self (k := x.1) (b := x.2) hold] at hr
        simp at hr
    · exact st.stored h' k ((o.fleet.roll_close_ne hh).symm.trans hr)

/-- A slot that holds no open handle may be emptied. -/
theorem empty (st : Stored owner o) {i s : Nat} (hl : o.holds i s = true) (hs : o.Vacant s) :
    Stored owner (o.fill s none) := by
  refine ⟨st.size.trans (o.length_update s _).symm, st.current, ?_, ?_⟩
  · intro t x hx
    by_cases ht : s = t
    · subst ht
      rw [content_fill_self hl] at hx
      cases hx
    · rw [o.content_fill_ne ht] at hx
      exact st.kept t x hx
  · intro h k hr
    obtain ⟨t, x, ht, hx, rfl⟩ := st.stored h k hr
    have hst : s ≠ t := by
      rintro rfl
      exact hs.ne hx hr rfl
    exact ⟨t, x, ht, (o.content_fill_ne hst _).trans hx, rfl⟩

/-- A new handle goes into the slot that its cluster has now. -/
theorem keep (st : Stored owner o) {i s n : Nat} {core : PoolCore} {t : Target}
    (hl : o.holds i s = true) (hk : o.current.find? t.key = some s) (hs : o.Vacant s)
    (ha : o.fleet.accept t = (.ok n, core.fleet)) (lastUsed : Nat) (connected : Bool) :
    Stored owner ((o.setCore core).fill s (some ⟨n, lastUsed, connected⟩)) := by
  obtain ⟨hn, hroll, -, -⟩ := Fleet.accept_ok ha
  have hl' : (o.setCore core).holds i s = true := hl
  have hfollow := Fleet.follows_accept ha
  refine ⟨st.size.trans ((o.setCore core).length_update s _).symm, st.current, ?_, ?_⟩
  · intro u x hx
    by_cases hu : s = u
    · subst hu
      rw [content_fill_self hl'] at hx
      cases hx
      refine ⟨t.key, false, hk, ?_⟩
      change core.fleet.roll[n]? = _
      rw [hroll, hn, List.getElem?_concat_length]
    · rw [content_fill_ne _ hu] at hx
      obtain ⟨k, b, hu', hr⟩ := st.kept u x hx
      obtain ⟨b', hr', -⟩ := hfollow _ k b hr
      exact ⟨k, b', hu', hr'⟩
  · intro h k hr
    change core.fleet.roll[h]? = _ at hr
    rw [hroll, List.getElem?_append] at hr
    split at hr
    · obtain ⟨u, x, hu, hx, hh⟩ := st.stored h k hr
      have hne : s ≠ u := by
        rintro rfl
        exact hs.ne hx hr hh
      exact ⟨u, x, hu, (content_fill_ne _ hne _).trans hx, hh⟩
    · rw [List.getElem?_singleton] at hr
      split at hr <;> cases hr
      exact ⟨s, _, hk, content_fill_self hl' _, by simp only; omega⟩

/-- A slot that holds nothing may be dropped. -/
theorem forget (st : Stored owner o) {s : Nat} (hs : o.content s = none) (k : ClusterKey) :
    Stored owner (o.forget k s) := by
  simp only [Overlap.forget]
  split
  · rename_i hk
    have hkeep : ∀ k' t x, o.content t = some x → o.current.find? k' = some t →
        (o.current.erase k).find? k' = some t := by
      intro k' t x hx ht
      rw [Table.find?_erase, if_neg, ht]
      rintro rfl
      rw [hk] at ht
      cases ht
      rw [hs] at hx
      cases hx
    refine ⟨st.size, ?_, ?_, ?_⟩
    · intro k' t ht
      rw [Table.find?_erase] at ht
      split at ht
      · cases ht
      · exact st.current k' t ht
    · intro t x hx
      obtain ⟨k', b, ht, hr⟩ := st.kept t x hx
      exact ⟨k', b, hkeep k' t x hx ht, hr⟩
    · intro h k' hr
      obtain ⟨t, x, ht, hx, hh⟩ := st.stored h k' hr
      exact ⟨t, x, hkeep k' t x hx ht, hx, hh⟩
  · exact st

/-- A cluster without a slot is given a new one, which nobody else has had. -/
theorem fresh (st : Stored owner o) {k : ClusterKey} (hk : o.current.find? k = none) (i : Nat) :
    Stored (owner ++ [k]) { o with
      slots := o.slots ++ [⟨none, some i, []⟩], current := o.current.insert k o.slots.length } := by
  have hkeep : ∀ k' t, o.current.find? k' = some t →
      (o.current.insert k o.slots.length).find? k' = some t := by
    intro k' t ht
    rw [Table.find?_insert, if_neg, ht]
    rintro rfl
    rw [hk] at ht
    cases ht
  refine ⟨by simp [st.size], ?_, ?_, ?_⟩
  · intro k' t ht
    rw [Table.find?_insert] at ht
    split at ht
    · rename_i he
      cases ht
      rw [← st.size, List.getElem?_concat_length, he]
    · have hold := st.current k' t ht
      rw [List.getElem?_append_left (List.getElem?_eq_some_iff.mp hold).1]
      exact hold
  · intro t x hx
    obtain ⟨k', b, ht, hr⟩ := st.kept t x ((o.content_fresh i _ t).symm.trans hx)
    exact ⟨k', b, hkeep k' t ht, hr⟩
  · intro h k' hr
    obtain ⟨t, x, ht, hx, hh⟩ := st.stored h k' hr
    exact ⟨t, x, hkeep k' t ht, (o.content_fresh i _ t).trans hx, hh⟩

end Stored

/-- What one call may do while others hold locks: what they have locked stays as it is, and handles
stay those of their clusters. -/
structure Respects (i : Nat) (o o' : Overlap) : Prop where
  holds : ∀ j s, j ≠ i → o.holds j s = true → o'.holds j s = true
  content : ∀ j s, j ≠ i → o.holds j s = true → o'.content s = o.content s
  current : ∀ j s k, j ≠ i → o.holds j s = true → o.current.find? k = some s →
    o'.current.find? k = some s
  fleet : o.fleet.Follows o'.fleet

namespace Respects

variable {i : Nat} {o o' o'' : Overlap}

theorem refl (i : Nat) (o : Overlap) : Respects i o o :=
  ⟨fun _ _ _ h => h, fun _ _ _ _ => rfl, fun _ _ _ _ _ h => h, .refl _⟩

theorem trans (a : Respects i o o') (b : Respects i o' o'') : Respects i o o'' := by
  refine ⟨?_, ?_, ?_, a.fleet.trans b.fleet⟩
  · intro j s hj h
    exact b.holds j s hj (a.holds j s hj h)
  · intro j s hj h
    exact (b.content j s hj (a.holds j s hj h)).trans (a.content j s hj h)
  · intro j s k hj h hk
    exact b.current j s k hj (a.holds j s hj h) (a.current j s k hj h hk)

/-- What is done to the fleet, the clock, the counts and the flags touches no slot. -/
theorem setCore (i : Nat) (o : Overlap) (core : PoolCore) (h : o.fleet.Follows core.fleet) :
    Respects i o (o.setCore core) :=
  ⟨fun _ _ _ h => h, fun _ _ _ _ => rfl, fun _ _ _ _ _ h => h, h⟩

/-- A call may do anything to a slot that nobody else has locked. -/
theorem update (o : Overlap) (s : Nat) (change : Slot → Slot)
    (free : ∀ j, j ≠ i → o.holds j s = false) : Respects i o (o.update s change) := by
  have hsame : ∀ j t, j ≠ i → o.holds j t = true →
      (o.update s change).slots[t]? = o.slots[t]? := by
    intro j t hj ht
    rw [slots_update]
    have hne : s ≠ t := by
      rintro rfl
      rw [free j hj] at ht
      cases ht
    simp [hne]
  refine ⟨?_, ?_, fun _ _ _ _ _ h => h, .refl _⟩
  · intro j t hj ht
    rw [← ht, Overlap.holds, Overlap.holds, hsame j t hj ht]
  · intro j t hj ht
    rw [Overlap.content, Overlap.content, hsame j t hj ht]

theorem own {s : Nat} (hl : o.holds i s = true) (change : Slot → Slot) :
    Respects i o (o.update s change) :=
  update o s change fun j hj => by
    cases h : o.holds j s with
    | false => rfl
    | true => exact absurd (holds_unique h hl) hj

/-- A slot that the call has locked is filled, and the rest of the pool has changed. -/
theorem setCore_fill {s : Nat} (hl : o.holds i s = true) (core : PoolCore)
    (h : o.fleet.Follows core.fleet) (x : Option PooledHandle) :
    Respects i o ((o.setCore core).fill s x) :=
  have hl' : (o.setCore core).holds i s = true := hl
  (setCore i o core h).trans (own hl' _)

/-- Asking for a lock takes it from nobody. -/
theorem request (i : Nat) (o : Overlap) (s : Nat) : Respects i o (o.update s (Slot.request i)) := by
  refine ⟨?_, fun _ t _ _ => o.content_request s i t, fun _ _ _ _ _ h => h, .refl _⟩
  intro j t _ ht
  obtain ⟨x, hx, hj⟩ := (o.holds_iff j t).mp ht
  rw [holds_iff, slots_update, hx]
  refine ⟨_, rfl, ?_⟩
  split
  · simp [Slot.request, hj]
  · exact hj

theorem forget (o : Overlap) (k : ClusterKey) (s : Nat)
    (free : ∀ j, j ≠ i → o.holds j s = false) : Respects i o (o.forget k s) := by
  simp only [Overlap.forget]
  split
  · rename_i hk
    refine ⟨fun _ _ _ h => h, fun _ _ _ _ => rfl, ?_, .refl _⟩
    intro j t k' hj ht hk'
    change (o.current.erase k).find? k' = some t
    rw [Table.find?_erase, if_neg, hk']
    rintro rfl
    rw [hk] at hk'
    cases hk'
    rw [free j hj] at ht
    cases ht
  · exact refl i o

theorem fresh {k : ClusterKey} (hk : o.current.find? k = none) (x : Slot) :
    Respects i o { o with
      slots := o.slots ++ [x], current := o.current.insert k o.slots.length } := by
  have hsame : ∀ {j t}, o.holds j t = true → (o.slots ++ [x])[t]? = o.slots[t]? := by
    intro j t ht
    obtain ⟨y, hy, -⟩ := (o.holds_iff j t).mp ht
    exact List.getElem?_append_left (List.getElem?_eq_some_iff.mp hy).1
  refine ⟨?_, ?_, ?_, .refl _⟩
  · intro j t _ ht
    rw [← ht, Overlap.holds, Overlap.holds, hsame ht]
  · intro j t _ ht
    rw [Overlap.content, Overlap.content, hsame ht]
  · intro j t k' _ _ hk'
    change (o.current.insert k o.slots.length).find? k' = some t
    rw [Table.find?_insert, if_neg, hk']
    rintro rfl
    rw [hk] at hk'
    cases hk'

end Respects

end ClusterAdmin.Pool.Overlap
