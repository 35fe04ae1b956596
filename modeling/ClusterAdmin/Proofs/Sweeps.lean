import ClusterAdmin.Proofs.Custody
import Mathlib.Data.List.Basic

namespace ClusterAdmin

namespace Table

variable {κ ν : Type}

theorem filter_filter (t : Table κ ν) (p q : κ → ν → Bool) :
    (t.filter p).filter q = t.filter fun k v => p k v && q k v := by
  simp only [filter, List.filter_filter, mk.injEq]
  exact List.filter_congr fun e _ => Bool.and_comm _ _

theorem filter_congr {t : Table κ ν} {p q : κ → ν → Bool}
    (h : ∀ e ∈ t.entries, p e.1 e.2 = q e.1 e.2) : t.filter p = t.filter q := by
  simp only [filter, mk.injEq]
  exact List.filter_congr h

theorem filter_eq_self {t : Table κ ν} {p : κ → ν → Bool}
    (h : ∀ e ∈ t.entries, p e.1 e.2 = true) : t.filter p = t := by
  obtain ⟨es, nodup⟩ := t
  simp only [filter, mk.injEq]
  exact List.filter_eq_self.mpr h

theorem filter_false (t : Table κ ν) : (t.filter fun _ _ => false) = empty := by
  simp only [filter, empty, List.filter_false]

variable [DecidableEq κ]

/-- What was put in last does not matter once it is out again. -/
theorem erase_insert (t : Table κ ν) (k : κ) (v : ν) : (t.insert k v).erase k = t.erase k := by
  have hput (es : List (κ × ν)) :
      (put k v es).filter (fun e => decide (e.1 ≠ k)) = es.filter fun e => decide (e.1 ≠ k) := by
    induction es with
    | nil => simp [put]
    | cons e es ih =>
      by_cases h : e.1 = k
      · simp [put, h]
      · simpa [put, h] using ih
  simp only [erase, filter, insert, mk.injEq]
  exact hput t.entries

end Table

namespace Fleet

def closeAll (f : Fleet) (hs : List Nat) : Fleet := hs.foldl close f

theorem closeAll_append (f : Fleet) (hs hs' : List Nat) :
    f.closeAll (hs ++ hs') = (f.closeAll hs).closeAll hs' :=
  List.foldl_append

/-- Closing handles one after another marks those handles and no other, and is logged. -/
theorem closeAll_eq (f : Fleet) (hs : List Nat) :
    f.closeAll hs = { f with
      handles := f.handles.mapIdx fun h x =>
        if h ∈ hs then { x with connected := false, closed := true } else x
      log := f.log ++ hs.map .close } := by
  induction hs generalizing f with
  | nil =>
    have hsame : (f.handles.mapIdx fun _ x => x) = f.handles :=
      List.ext_getElem? fun i => by simp [List.getElem?_mapIdx]
    simp [closeAll, hsame]
  | cons h hs ih =>
    have hstep : f.closeAll (h :: hs) = (f.close h).closeAll hs := rfl
    rw [hstep, ih]
    simp only [close, update, record, List.append_assoc, List.map_cons, List.singleton_append,
      mk.injEq, and_true]
    apply List.ext_getElem?
    intro i
    simp only [List.getElem?_mapIdx, List.getElem?_modify, Option.map_eq_map, Option.map_map]
    congr 1
    funext x
    by_cases hi : h = i
    · subst hi
      by_cases hm : h ∈ hs <;> simp [hm]
    · have hi' : ¬i = h := fun he => hi he.symm
      simp [hi, hi']

end Fleet

namespace Pool

/-- The handle in a slot. -/
def handle? (p : Pool) (k : ClusterKey) : Option Nat := (p.held k).map (·.handle)

@[simp] theorem handle?_setSlot (p : Pool) (k k' : ClusterKey) (s : Option PooledHandle) :
    (p.setSlot k s).handle? k' = if k = k' then s.map (·.handle) else p.handle? k' := by
  rw [handle?, held_setSlot]
  split <;> rfl

/-- The handles in the slots of some clusters. -/
def handlesOf (p : Pool) (chosen : ClusterKey → Bool) : List Nat :=
  (p.slots.entries.filter fun s => chosen s.1).filterMap fun s => s.2.map (·.handle)

theorem evict_eq (p : Pool) (k : ClusterKey) :
    p.evict k = { p with
      fleet := p.fleet.closeAll (p.handle? k).toList
      stats := { p.stats with evicted := p.stats.evicted + (p.handle? k).toList.length }
      slots := p.slots.erase k } := by
  cases h : p.held k with
  | none => simp only [evict, handle?, h]; rfl
  | some e =>
    simp only [evict, handle?, h, dropSlot, discard, setSlot, Table.erase_insert]
    rfl

theorem handle?_evict_ne (p : Pool) {k k' : ClusterKey} (h : k ≠ k') :
    (p.evict k).handle? k' = p.handle? k' := by
  rw [evict_eq]
  simp [handle?, held, h]

/-- Slots that are dropped one after another are gone, their handles are closed and counted, and all
else is as it was. -/
theorem evictAll_eq (p : Pool) {ks : List ClusterKey} (nodup : ks.Nodup) :
    p.evictAll ks = { p with
      fleet := p.fleet.closeAll (ks.filterMap p.handle?)
      stats := { p.stats with evicted := p.stats.evicted + (ks.filterMap p.handle?).length }
      slots := p.slots.filter fun k _ => k ∉ ks } := by
  induction ks generalizing p with
  | nil =>
    have hall : (p.slots.filter fun k _ => k ∉ ([] : List ClusterKey)) = p.slots :=
      Table.filter_eq_self (by simp)
    rw [hall]
    rfl
  | cons k ks ih =>
    obtain ⟨hfresh, nodup⟩ := List.nodup_cons.mp nodup
    have hstep : p.evictAll (k :: ks) = (p.evict k).evictAll ks := rfl
    have hhandles : ks.filterMap (p.evict k).handle? = ks.filterMap p.handle? :=
      List.filterMap_congr fun k' hk' => p.handle?_evict_ne fun he => hfresh (he ▸ hk')
    have hall : (k :: ks).filterMap p.handle? =
        (p.handle? k).toList ++ ks.filterMap p.handle? := by
      cases h : p.handle? k <;> simp [h]
    rw [hstep, ih _ nodup, hhandles, hall, evict_eq]
    simp only [Fleet.closeAll_append, List.length_append, Nat.add_assoc, Table.erase,
      Table.filter_filter]
    congr 1
    exact Table.filter_congr fun s _ => by simp

/-- The same for the slots of some clusters. -/
theorem evictAll_keys (p : Pool) (chosen : ClusterKey → Bool) :
    p.evictAll (p.slots.keys.filter chosen) = { p with
      fleet := p.fleet.closeAll (p.handlesOf chosen)
      stats := { p.stats with evicted := p.stats.evicted + (p.handlesOf chosen).length }
      slots := p.slots.filter fun k _ => !chosen k } := by
  have hnodup : (p.slots.keys.filter chosen).Nodup := p.slots.keys_nodup.filter _
  have hhandles : (p.slots.keys.filter chosen).filterMap p.handle? = p.handlesOf chosen := by
    rw [Table.keys, List.filter_map, List.filterMap_map, handlesOf]
    refine List.filterMap_congr fun s hs => ?_
    have hfind := (Table.find?_eq_some_iff p.slots s.1 s.2).mpr (List.mem_of_mem_filter hs)
    simp [handle?, held, hfind]
  have hslots : (p.slots.filter fun k _ => k ∉ p.slots.keys.filter chosen) =
      p.slots.filter fun k _ => !chosen k := by
    refine Table.filter_congr fun s hs => ?_
    have hkey : s.1 ∈ p.slots.keys := List.mem_map_of_mem hs
    cases h : chosen s.1 <;> simp [h, hkey]
  rw [evictAll_eq p hnodup, hhandles, hslots]

/-- The same for all slots. -/
theorem evictAll_all (p : Pool) :
    p.evictAll p.slots.keys = { p with
      fleet := p.fleet.closeAll (p.handlesOf fun _ => true)
      stats := { p.stats with
        evicted := p.stats.evicted + (p.handlesOf fun _ => true).length }
      slots := .empty } := by
  have h := p.evictAll_keys fun _ => true
  rw [List.filter_true, Bool.not_true, Table.filter_false] at h
  exact h

/-- A pool is disposed by dropping all its slots, or was disposed before. -/
theorem dispose_eq (p : Pool) : p.dispose =
    if p.disposed then p else { p.evictAll p.slots.keys with disposed := true } := by
  rw [dispose, p.evictAll_all]
  split
  · rfl
  · exact evictAll_all { p with disposed := true }

end Pool

end ClusterAdmin
