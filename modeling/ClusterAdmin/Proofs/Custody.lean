import ClusterAdmin.Pool
import ClusterAdmin.Proofs.Fleets
import ClusterAdmin.Proofs.Tables

namespace ClusterAdmin

namespace PoolStats

/-- How often a handle was handed out, by what the pool has counted. -/
def granted (s : PoolStats) : Nat := s.reused + s.reconnected + s.opened

end PoolStats

namespace Pool

@[simp] theorem held_setSlot (p : Pool) (k k' : ClusterKey) (s : Option PooledHandle) :
    (p.setSlot k s).held k' = if k = k' then s else p.held k' := by
  simp only [held, setSlot, Table.find?_insert]
  split <;> rfl

@[simp] theorem held_dropSlot (p : Pool) (k k' : ClusterKey) :
    (p.dropSlot k).held k' = if k = k' then none else p.held k' := by
  simp only [held, dropSlot, Table.find?_erase]
  split <;> rfl

@[simp] theorem held_discard (p : Pool) (k k' : ClusterKey) (e : PooledHandle) :
    (p.discard k e).held k' = if k = k' then none else p.held k' :=
  held_setSlot _ k k' none

@[simp] theorem held_keep (p : Pool) (k k' : ClusterKey) (h : Nat) :
    (p.keep k h).held k' = if k = k' then some ⟨h, p.now, true⟩ else p.held k' :=
  held_setSlot _ k k' _

theorem held_eq_some_iff {p : Pool} {k : ClusterKey} {e : PooledHandle} :
    p.held k = some e ↔ (k, some e) ∈ p.slots.entries :=
  Option.join_eq_some_iff.trans (Table.find?_eq_some_iff p.slots k (some e))

/-- Everything that opening a handle into an empty slot can come to. -/
theorem openInto_cases (p : Pool) (c : Cluster) :
    (∃ f, Target.ofCluster p.store c = .error f ∧ p.openInto c = (.error f, p)) ∨
    (∃ t f fleet, Target.ofCluster p.store c = .ok t ∧ p.fleet.connect t = (.error f, fleet) ∧
      p.openInto c = (.error (PoolCore.openFailure c f),
        { p with toPoolCore := { p.countOpenFailure with fleet } })) ∨
    ∃ t h fleet, Target.ofCluster p.store c = .ok t ∧ p.fleet.connect t = (.ok h, fleet) ∧
      p.openInto c = (.ok h, { p with fleet }.keep c.key h) := by
  cases ht : Target.ofCluster p.store c with
  | error f => exact .inl ⟨f, rfl, by simp [openInto, ht]⟩
  | ok t =>
    cases hc : p.fleet.connect t with
    | mk r fleet =>
      cases r with
      | error f => exact .inr (.inl ⟨t, f, fleet, rfl, hc, by simp [openInto, ht, hc]⟩)
      | ok h => exact .inr (.inr ⟨t, h, fleet, rfl, hc, by simp [openInto, ht, hc]⟩)

/-- Everything that asking for a handle can come to: it is refused, opened into an empty slot,
reused, reconnected, or replaced. -/
theorem getHandle_cases (p : Pool) (c : Cluster) :
    (∃ f, p.getHandle c = (.error f, p)) ∨
    (p.held c.key = none ∧ p.getHandle c = (p.setSlot c.key none).openInto c) ∨
    ∃ e, p.held c.key = some e ∧
      (p.getHandle c = (.ok e.handle, p.reuse c.key e) ∨
      (∃ fleet, p.fleet.reconnect e.handle = (.ok (), fleet) ∧
        p.getHandle c = (.ok e.handle, { p with fleet }.restore c.key e)) ∨
      ∃ f fleet, p.fleet.reconnect e.handle = (.error f, fleet) ∧
        p.getHandle c = ({ p with fleet }.discard c.key e).openInto c) := by
  cases hr : p.refusal? c with
  | some f => exact .inl ⟨f, by simp [getHandle, hr]⟩
  | none =>
    cases hh : p.held c.key with
    | none => exact .inr (.inl ⟨rfl, by simp [getHandle, hr, hh]⟩)
    | some e =>
      refine .inr (.inr ⟨e, rfl, ?_⟩)
      by_cases hu : p.isUsable e = true
      · exact .inl (by simp [getHandle, hr, hh, hu])
      · cases hc : p.fleet.reconnect e.handle with
        | mk r fleet =>
          cases r with
          | ok u => exact .inr (.inl ⟨fleet, rfl, by simp [getHandle, hr, hh, hu, hc]⟩)
          | error f => exact .inr (.inr ⟨f, fleet, rfl, by simp [getHandle, hr, hh, hu, hc]⟩)

/-- Every handle is closed, once, or lies in the slot of its own cluster, and the counters say
so. -/
structure Accounted (p : Pool) : Prop where
  held : ∀ k e, p.held k = some e → p.fleet.roll[e.handle]? = some (k, false)
  kept : ∀ k h, p.fleet.roll[h]? = some (k, false) → ∃ e, p.held k = some e ∧ e.handle = h
  closings : ∀ h, p.fleet.closings.count h = if (p.fleet.roll[h]?).any (·.2) then 1 else 0
  opened : p.stats.opened = p.fleet.roll.length
  evicted : p.stats.evicted = p.fleet.roll.countP (·.2)
  asked : p.fleet.asked.length = p.stats.opened + p.stats.openFailures

namespace Accounted

variable {p p' : Pool}

theorem start (config : PoolConfig) (store : ConnectionStore) :
    (Pool.start config store .empty).Accounted := by
  refine ⟨?_, ?_, ?_, rfl, rfl, rfl⟩
  · intro k e h
    simp [Pool.held, Pool.start] at h
  · intro k h hr
    simp [Pool.start, Fleet.roll, Fleet.empty] at hr
  · intro h
    simp [Pool.start, Fleet.roll, Fleet.empty, Fleet.closings]

/-- Slots that keep the same handles stay in order while nothing is opened or closed. -/
theorem of_alike (a : p.Accounted) (fleet : p.fleet.Alike p'.fleet)
    (held : ∀ k, (p'.held k).map (·.handle) = (p.held k).map (·.handle))
    (opened : p'.stats.opened = p.stats.opened) (evicted : p'.stats.evicted = p.stats.evicted)
    (openFailures : p'.stats.openFailures = p.stats.openFailures) : p'.Accounted := by
  refine ⟨?_, ?_, ?_, ?_, ?_, ?_⟩
  · intro k e he
    have hm := held k
    rw [he, Option.map_some] at hm
    obtain ⟨e', he', hh⟩ := Option.map_eq_some_iff.mp hm.symm
    rw [fleet.roll, ← hh]
    exact a.held k e' he'
  · intro k h hr
    rw [fleet.roll] at hr
    obtain ⟨e, he, hh⟩ := a.kept k h hr
    have hm := held k
    rw [he, Option.map_some] at hm
    obtain ⟨e', he', hh'⟩ := Option.map_eq_some_iff.mp hm
    exact ⟨e', he', hh'.trans hh⟩
  · intro h
    rw [fleet.closings, fleet.roll]
    exact a.closings h
  · rw [opened, fleet.roll]
    exact a.opened
  · rw [evicted, fleet.roll]
    exact a.evicted
  · rw [fleet.asked, opened, openFailures]
    exact a.asked

/-- A new state of the handle that a slot holds already. -/
theorem hold_same {k : ClusterKey} {e e' : PooledHandle} (hk : p.held k = some e)
    (he : e'.handle = e.handle) (k' : ClusterKey) :
    ((p.setSlot k (some e')).held k').map (·.handle) = (p.held k').map (·.handle) := by
  rw [held_setSlot]
  split
  · rename_i h
    subst h
    simp [hk, he]
  · rfl

theorem reuse {k : ClusterKey} {e : PooledHandle} (a : p.Accounted) (hk : p.held k = some e) :
    (p.reuse k e).Accounted :=
  a.of_alike (.refl _) (hold_same hk rfl) rfl rfl rfl

theorem restore {k : ClusterKey} {e : PooledHandle} {fleet : Fleet} (a : p.Accounted)
    (hk : p.held k = some e) (hf : p.fleet.Alike fleet) :
    ({ p with fleet }.restore k e).Accounted :=
  a.of_alike hf (hold_same hk rfl) rfl rfl rfl

theorem ask {fleet : Fleet} (a : p.Accounted) (hf : p.fleet.Alike fleet) :
    { p with fleet }.Accounted :=
  a.of_alike hf (fun _ => rfl) rfl rfl rfl

/-- A slot without a handle may come and go. -/
theorem setSlot_none {k : ClusterKey} (a : p.Accounted) (hk : p.held k = none) :
    (p.setSlot k none).Accounted := by
  refine a.of_alike (.refl _) (fun k' => ?_) rfl rfl rfl
  rw [held_setSlot]
  split
  · rename_i h
    rw [← h, hk]
  · rfl

theorem dropSlot {k : ClusterKey} (a : p.Accounted) (hk : p.held k = none) :
    (p.dropSlot k).Accounted := by
  refine a.of_alike (.refl _) (fun k' => ?_) rfl rfl rfl
  rw [held_dropSlot]
  split
  · rename_i h
    rw [← h, hk]
  · rfl

/-- Two slots never hold one handle. -/
theorem held_unique {k k' : ClusterKey} {e e' : PooledHandle} (a : p.Accounted)
    (hk : p.held k = some e) (hk' : p.held k' = some e') (he : e.handle = e'.handle) : k = k' := by
  have hr := a.held k e hk
  rw [he, a.held k' e' hk'] at hr
  simpa using hr.symm

/-- Closing the handle of a slot and emptying the slot leaves nothing behind. -/
theorem discard {k : ClusterKey} {e : PooledHandle} (a : p.Accounted) (hk : p.held k = some e) :
    (p.discard k e).Accounted := by
  have hopen := a.held k e hk
  have hfleet : (p.discard k e).fleet = p.fleet.close e.handle := rfl
  refine ⟨?_, ?_, ?_, ?_, ?_, ?_⟩
  · intro k' e' h'
    rw [held_discard] at h'
    split at h'
    · cases h'
    · rename_i hne
      have hh : e.handle ≠ e'.handle := fun he => hne (a.held_unique hk h' he)
      rw [hfleet, Fleet.roll_close_ne _ hh]
      exact a.held k' e' h'
  · intro k' h hr
    have hne : e.handle ≠ h := by
      intro he
      rw [hfleet, ← he, Fleet.roll_close_self hopen] at hr
      simp at hr
    rw [hfleet, Fleet.roll_close_ne _ hne] at hr
    obtain ⟨e', he', hh'⟩ := a.kept k' h hr
    have hkk : k ≠ k' := by
      rintro rfl
      rw [hk] at he'
      cases he'
      exact hne hh'
    exact ⟨e', by rw [held_discard, if_neg hkk, he'], hh'⟩
  · intro h
    rw [hfleet, Fleet.closings_close, List.count_append, a.closings h]
    by_cases he : e.handle = h
    · subst he
      rw [Fleet.roll_close_self hopen, hopen]
      simp
    · rw [Fleet.roll_close_ne _ he]
      simp [he]
  · rw [hfleet, Fleet.roll_close, List.length_modify]
    exact a.opened
  · rw [hfleet, Fleet.countP_closed_close hopen, ← a.evicted]
    rfl
  · rw [hfleet, Fleet.asked_close]
    exact a.asked

/-- A failed connection is asked for and counted as such. -/
theorem fail {fleet : Fleet} {t : Target} {f : Failure} (a : p.Accounted)
    (hc : p.fleet.connect t = (.error f, fleet)) :
    { p with toPoolCore := { p.countOpenFailure with fleet } }.Accounted := by
  have hf := Fleet.alike_accept hc
  have hroll : fleet.roll = p.fleet.roll := hf.roll
  refine ⟨?_, ?_, ?_, ?_, ?_, ?_⟩
  · intro k e he
    exact hroll ▸ a.held k e he
  · intro k h hr
    exact a.kept k h (hroll ▸ hr)
  · intro h
    change fleet.closings.count h = if (fleet.roll[h]?).any (·.2) then 1 else 0
    rw [hf.closings, Fleet.closings_connect, hroll]
    exact a.closings h
  · exact a.opened.trans (congrArg List.length hroll.symm)
  · exact a.evicted.trans (congrArg _ hroll.symm)
  · change fleet.asked.length = p.stats.opened + (p.stats.openFailures + 1)
    rw [hf.asked, Fleet.asked_connect, List.length_append, a.asked]
    simp [Nat.add_assoc]

/-- A new handle goes into the empty slot of its cluster. -/
theorem keep {fleet : Fleet} {t : Target} {k : ClusterKey} {n : Nat} (a : p.Accounted)
    (hk : p.held k = none) (hkey : t.key = k) (hc : p.fleet.connect t = (.ok n, fleet)) :
    ({ p with fleet }.keep k n).Accounted := by
  obtain ⟨hn, hroll, hasked, hclosings⟩ := Fleet.accept_ok hc
  change n = p.fleet.roll.length at hn
  change fleet.roll = p.fleet.roll ++ [(t.key, false)] at hroll
  have hfleet : ({ p with fleet }.keep k n).fleet = fleet := rfl
  have hlt : ∀ {h : Nat} {x}, p.fleet.roll[h]? = some x → fleet.roll[h]? = some x := by
    intro h x hx
    rw [hroll, List.getElem?_append_left (List.getElem?_eq_some_iff.mp hx).1]
    exact hx
  have hnew : fleet.roll[n]? = some (k, false) := by
    rw [hroll, hn, hkey]
    simp
  refine ⟨?_, ?_, ?_, ?_, ?_, ?_⟩
  · intro k' e h'
    rw [held_keep] at h'
    split at h'
    · rename_i he
      subst he
      cases h'
      exact hnew
    · exact hlt (a.held k' e h')
  · intro k' h hr
    rw [hfleet, hroll, List.getElem?_append] at hr
    split at hr
    · obtain ⟨e, he, hh⟩ := a.kept k' h hr
      have hne : k ≠ k' := by
        rintro rfl
        rw [hk] at he
        cases he
      exact ⟨e, by rw [held_keep, if_neg hne]; exact he, hh⟩
    · rw [List.getElem?_singleton] at hr
      split at hr <;> cases hr
      exact ⟨⟨n, p.now, true⟩, by rw [held_keep, if_pos hkey.symm], by simp only; omega⟩
  · intro h
    have hany : (fleet.roll[h]?).any (·.2) = (p.fleet.roll[h]?).any (·.2) := by
      rw [hroll, List.getElem?_append]
      split
      · rfl
      · rw [List.getElem?_singleton, List.getElem?_eq_none (by omega)]
        split <;> rfl
    rw [hfleet, hclosings, Fleet.closings_connect, a.closings h, hany]
  · rw [hfleet, hroll, List.length_append, ← a.opened]
    rfl
  · rw [hfleet, hroll, List.countP_append, ← a.evicted]
    rfl
  · rw [hfleet, hasked, Fleet.asked_connect, List.length_append, a.asked]
    change p.stats.opened + p.stats.openFailures + 1 = (p.stats.opened + 1) + p.stats.openFailures
    omega

theorem openInto (a : p.Accounted) (c : Cluster) (hk : p.held c.key = none) :
    (p.openInto c).2.Accounted := by
  rcases p.openInto_cases c with ⟨f, _, he⟩ | ⟨t, f, fleet, _, hc, he⟩ | ⟨t, h, fleet, ht, hc, he⟩
  · rw [he]
    exact a
  · rw [he]
    exact a.fail hc
  · rw [he]
    exact a.keep hk (Target.key_ofCluster ht) hc

/-- Asking for a handle leaves every handle accounted for, however reconnecting and opening end. -/
theorem getHandle (a : p.Accounted) (c : Cluster) : (p.getHandle c).2.Accounted := by
  rcases p.getHandle_cases c with ⟨f, h⟩ | ⟨hk, h⟩ | ⟨e, hk, h | ⟨fleet, hr, h⟩ | ⟨f, fleet, hr, h⟩⟩
  · rw [h]
    exact a
  · rw [h]
    exact (a.setSlot_none hk).openInto c (by simp)
  · rw [h]
    exact a.reuse hk
  · rw [h]
    exact a.restore hk (Fleet.alike_reconnect hr)
  · rw [h]
    have ha : { p with fleet }.Accounted := a.ask (Fleet.alike_reconnect hr)
    exact (ha.discard hk).openInto c (by simp)

theorem markDisconnected (a : p.Accounted) (c : Cluster) : (p.markDisconnected c).Accounted := by
  cases hk : p.held c.key with
  | none => simpa [Pool.markDisconnected, hk] using a
  | some e =>
    simp only [Pool.markDisconnected, hk]
    exact a.of_alike (.refl _) (hold_same hk rfl) rfl rfl rfl

theorem evict (a : p.Accounted) (k : ClusterKey) : (p.evict k).Accounted := by
  cases hk : p.held k with
  | none =>
    simp only [Pool.evict, hk]
    exact a.dropSlot hk
  | some e =>
    simp only [Pool.evict, hk]
    exact (a.discard hk).dropSlot (by simp)

/-- No handle is in two slots. -/
theorem nodup_handles (a : p.Accounted) :
    (p.slots.entries.filterMap fun s => s.2.map (·.handle)).Nodup := by
  rw [List.Nodup, List.pairwise_filterMap]
  have hkeys := List.pairwise_map.mp p.slots.keys_nodup
  refine hkeys.imp_of_mem ?_
  rintro ⟨k, s⟩ ⟨k', s'⟩ hm hm' hne h hs h' hs' rfl
  obtain ⟨e, rfl, he⟩ := Option.map_eq_some_iff.mp hs
  obtain ⟨e', rfl, he'⟩ := Option.map_eq_some_iff.mp hs'
  exact hne (a.held_unique (held_eq_some_iff.mpr hm) (held_eq_some_iff.mpr hm')
    (he.trans he'.symm))

/-- What is open is in the slot of its cluster, and nothing else is. -/
theorem mem_slots_iff (a : p.Accounted) {k : ClusterKey} {h : Nat} :
    (∃ e, (k, some e) ∈ p.slots.entries ∧ e.handle = h) ↔ p.fleet.roll[h]? = some (k, false) := by
  constructor
  · rintro ⟨e, hm, rfl⟩
    exact a.held k e (held_eq_some_iff.mpr hm)
  · intro hr
    obtain ⟨e, he, rfl⟩ := a.kept k h hr
    exact ⟨e, held_eq_some_iff.mp he, rfl⟩

/-- The handles in the slots are the open ones, each in one slot. -/
theorem kept_perm (a : p.Accounted) :
    (p.slots.entries.filterMap fun s => s.2.map (·.handle)).Perm
      ((p.fleet.roll.zipIdx.filter fun x => !x.1.2).map (·.2)) := by
  rw [List.perm_ext_iff_of_nodup]
  · intro h
    simp only [List.mem_filterMap, List.mem_map, List.mem_filter, List.mem_zipIdx_iff_getElem?]
    constructor
    · rintro ⟨⟨k, s⟩, hm, hs⟩
      obtain ⟨e, rfl, rfl⟩ := Option.map_eq_some_iff.mp hs
      exact ⟨((k, false), e.handle), ⟨a.mem_slots_iff.mp ⟨e, hm, rfl⟩, rfl⟩, rfl⟩
    · rintro ⟨⟨⟨k, b⟩, i⟩, ⟨hr, hb⟩, rfl⟩
      obtain rfl : b = false := by simpa using hb
      obtain ⟨e, hm, hh⟩ := a.mem_slots_iff.mpr hr
      exact ⟨(k, some e), hm, by simp [hh]⟩
  · exact a.nodup_handles
  · refine List.Nodup.sublist ((List.filter_sublist).map _) ?_
    rw [List.zipIdx_map_snd]
    exact List.nodup_range'

/-- As many handles are kept as are open. -/
theorem openCount_eq (a : p.Accounted) : p.openCount = p.fleet.roll.countP (!·.2) := by
  have hl := a.kept_perm.length_eq
  rw [List.length_filterMap_eq_countP, List.length_map, ← List.countP_eq_length_filter] at hl
  have hroll : (p.fleet.roll.zipIdx.map (·.1)).countP (!·.2) = p.fleet.roll.countP (!·.2) := by
    rw [List.zipIdx_map_fst]
  rw [List.countP_map] at hroll
  rw [Pool.openCount, ← List.countP_eq_length_filter, Table.values, List.countP_map, ← hroll]
  simpa [Function.comp_def] using hl

end Accounted

/-- How many handles a call for one hands out. -/
def grants (p : Pool) (c : Cluster) : Nat :=
  match (p.getHandle c).1 with
  | .ok _ => 1
  | .error _ => 0

theorem granted_openInto (p : Pool) (c : Cluster) :
    (p.openInto c).2.stats.granted =
      p.stats.granted + match (p.openInto c).1 with | .ok _ => 1 | .error _ => 0 := by
  rcases p.openInto_cases c with ⟨f, _, he⟩ | ⟨t, f, fleet, _, _, he⟩ | ⟨t, h, fleet, _, _, he⟩
  all_goals rw [he]
  all_goals rfl

/-- Every handle that is handed out is counted once, as reused, reconnected or opened. -/
theorem granted_getHandle (p : Pool) (c : Cluster) :
    (p.getHandle c).2.stats.granted = p.stats.granted + p.grants c := by
  rcases p.getHandle_cases c with ⟨f, h⟩ | ⟨_, h⟩ | ⟨e, _, h | ⟨fleet, _, h⟩ | ⟨f, fleet, _, h⟩⟩
  · simp [grants, h]
  · simp only [grants, h]
    exact granted_openInto _ c
  · simp only [grants, h, reuse, setSlot, PoolCore.countReused, PoolStats.granted]
    omega
  · simp only [grants, h, restore, setSlot, PoolCore.countReconnected, PoolStats.granted]
    omega
  · simp only [grants, h]
    exact granted_openInto _ c

end Pool

end ClusterAdmin
