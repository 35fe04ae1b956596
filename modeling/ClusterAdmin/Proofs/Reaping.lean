import ClusterAdmin.Proofs.Lendings

namespace ClusterAdmin.Pool

/-- What closing idle handles at some time comes to, after some lendings. -/
structure Reaps (ls : List Lending) (p : Pool) (now : Nat) (count : Nat) (q : Pool)
    (closed : List Nat) : Prop where
  /-- An open handle is closed just if it was last handed out too long ago. -/
  closed_iff : ∀ h, h ∈ closed ↔ ∃ k t, p.fleet.roll[h]? = some (k, false) ∧
    lastLent ls h = some t ∧ t + p.idleTtlMs < now
  once : closed.Nodup
  counted : count = closed.length
  /-- The slots that are left hold a handle that is not closed, and are as they were. -/
  slots : ∀ k s, q.slots.find? k = some s ↔
    p.slots.find? k = some s ∧ ∃ e, s = some e ∧ e.handle ∉ closed
  rest : q = { p with
    now
    slots := q.slots
    stats := { p.stats with evicted := p.stats.evicted + count }
    fleet := { p.fleet with
      handles := p.fleet.handles.mapIdx fun h x =>
        if h ∈ closed then { x with connected := false, closed := true } else x
      log := p.fleet.log ++ closed.map .close } }
  /-- No handle is left that has been idle for too long. -/
  fresh : ∀ k e, q.held k = some e → now ≤ e.lastUsed + q.idleTtlMs
  size : q.slots.size = q.openCount
  /-- What was handed out lately is left. -/
  recent : ∀ l ∈ ls, now ≤ l.time + p.idleTtlMs → l.handle ∉ closed

section

variable {ls : List Lending} {p : Pool}

/-- The handles in idle slots. -/
def idleHandles (p : Pool) : List Nat :=
  (p.slots.entries.filter fun s => p.isIdle s.2).filterMap fun s => s.2.map (·.handle)

theorem reapIdle_count (p : Pool) : p.reapIdle.1 = p.idleHandles.length := by
  simp only [reapIdle, idleHandles, List.length_filterMap_eq_countP, List.countP_eq_length_filter,
    Option.isSome_map]

theorem reapIdle_pool (p : Pool) : p.reapIdle.2 = { p with
    fleet := p.fleet.closeAll p.idleHandles
    stats := { p.stats with evicted := p.stats.evicted + p.idleHandles.length }
    slots := p.slots.filter fun _ s => !p.isIdle s } := by
  let idle := p.slots.entries.filter fun s => p.isIdle s.2
  have hnodup : (idle.map (·.1)).Nodup :=
    p.slots.keys_nodup.sublist ((List.filter_sublist).map _)
  have hfind : ∀ s ∈ p.slots.entries, p.slots.find? s.1 = some s.2 := fun s hs =>
    (Table.find?_eq_some_iff p.slots s.1 s.2).mpr hs
  have hhandles : (idle.map (·.1)).filterMap p.handle? = p.idleHandles := by
    rw [List.filterMap_map, idleHandles]
    refine List.filterMap_congr fun s hs => ?_
    simp [handle?, held, hfind s (List.mem_of_mem_filter hs)]
  have hslots : (p.slots.filter fun k _ => k ∉ idle.map (·.1)) =
      p.slots.filter fun _ s => !p.isIdle s := by
    refine Table.filter_congr fun s hs => ?_
    have hiff : s.1 ∈ idle.map (·.1) ↔ p.isIdle s.2 = true := by
      rw [List.mem_map]
      constructor
      · rintro ⟨s', hs', hkey⟩
        obtain ⟨hmem, hidle⟩ := List.mem_filter.mp hs'
        have heq : s'.2 = s.2 :=
          Option.some.inj ((hfind s' hmem).symm.trans (hkey ▸ hfind s hs))
        exact heq ▸ hidle
      · intro hidle
        exact ⟨s, List.mem_filter.mpr ⟨hs, hidle⟩, rfl⟩
    cases hidle : p.isIdle s.2 <;> simp [hiff, hidle]
  rw [reapIdle, evictAll_eq p hnodup, hhandles, hslots]

/-- A slot is idle if it is empty or holds a handle that has been idle. -/
theorem mem_idleHandles_iff {h : Nat} : h ∈ p.idleHandles ↔
    ∃ k e, p.held k = some e ∧ e.handle = h ∧ e.lastUsed + p.idleTtlMs < p.now := by
  simp only [idleHandles, List.mem_filterMap, List.mem_filter]
  constructor
  · rintro ⟨⟨k, s⟩, ⟨hmem, hidle⟩, hh⟩
    obtain ⟨e, rfl, rfl⟩ := Option.map_eq_some_iff.mp hh
    have hlong : p.idleTtlMs < p.now - e.lastUsed := by simpa [PoolCore.isIdle] using hidle
    exact ⟨k, e, held_eq_some_iff.mpr hmem, rfl, by omega⟩
  · rintro ⟨k, e, he, rfl, hlong⟩
    have hidle : p.isIdle (some e) = true := by
      simp only [PoolCore.isIdle, decide_eq_true_eq]
      omega
    exact ⟨(k, some e), ⟨held_eq_some_iff.mp he, hidle⟩, rfl⟩

namespace Reached

/-- No two slots hold one handle. -/
theorem held_unique (h : Reached ls p) {k k' : ClusterKey} {e e' : PooledHandle}
    (hk : p.held k = some e) (hk' : p.held k' = some e') (same : e.handle = e'.handle) :
    k = k' := by
  have hr := (h.held_iff k e'.handle).mp ⟨e, hk, same⟩
  rw [(h.held_iff k' e'.handle).mp ⟨e', hk', rfl⟩] at hr
  cases hr
  rfl

theorem nodup_idleHandles (h : Reached ls p) (now : Nat) :
    ({ p with now } : Pool).idleHandles.Nodup := by
  rw [idleHandles, List.Nodup, List.pairwise_filterMap]
  have hkeys := List.pairwise_map.mp p.slots.keys_nodup
  refine (hkeys.imp_of_mem ?_).filter _
  rintro ⟨k, s⟩ ⟨k', s'⟩ hm hm' hne n hs n' hs' rfl
  obtain ⟨e, rfl, he⟩ := Option.map_eq_some_iff.mp hs
  obtain ⟨e', rfl, he'⟩ := Option.map_eq_some_iff.mp hs'
  exact hne (h.held_unique (held_eq_some_iff.mpr hm) (held_eq_some_iff.mpr hm')
    (he.trans he'.symm))

/-- The handle in a slot is closed just if the slot is idle. -/
theorem mem_idleHandles (h : Reached ls p) (now : Nat) {k : ClusterKey} {e : PooledHandle}
    (he : p.held k = some e) :
    e.handle ∈ ({ p with now } : Pool).idleHandles ↔ e.lastUsed + p.idleTtlMs < now := by
  rw [mem_idleHandles_iff]
  constructor
  · rintro ⟨k', e', he', hsame, hlong⟩
    obtain rfl := h.held_unique he' he hsame
    obtain rfl : e = e' := Option.some.inj (he.symm.trans he')
    exact hlong
  · exact fun hlong => ⟨k, e, he, rfl, hlong⟩

theorem reaps (h : Reached ls p) (now : Nat) :
    Reaps ls p now ({ p with now } : Pool).reapIdle.1 ({ p with now } : Pool).reapIdle.2
      ({ p with now } : Pool).idleHandles := by
  have hclosed : ∀ n, n ∈ ({ p with now } : Pool).idleHandles ↔
      ∃ k t, p.fleet.roll[n]? = some (k, false) ∧ lastLent ls n = some t ∧
        t + p.idleTtlMs < now := by
    intro n
    rw [mem_idleHandles_iff]
    constructor
    · rintro ⟨k, e, he, rfl, hlong⟩
      exact ⟨k, e.lastUsed, (h.held_iff k e.handle).mp ⟨e, he, rfl⟩, h.noted k e he, hlong⟩
    · rintro ⟨k, t, hr, hlast, hlong⟩
      obtain ⟨e, he, rfl⟩ := (h.held_iff k n).mpr hr
      rw [h.noted k e he] at hlast
      cases hlast
      exact ⟨k, e, he, rfl, hlong⟩
  have hslots : ∀ k s, ({ p with now } : Pool).reapIdle.2.slots.find? k = some s ↔
      p.slots.find? k = some s ∧
        ∃ e, s = some e ∧ e.handle ∉ ({ p with now } : Pool).idleHandles := by
    intro k s
    rw [reapIdle_pool, Table.find?_eq_some_iff, Table.find?_eq_some_iff, Table.filter,
      List.mem_filter]
    refine and_congr_right fun hmem => ?_
    cases s with
    | none => simp [PoolCore.isIdle]
    | some e =>
      have hiff := h.mem_idleHandles now (held_eq_some_iff.mpr hmem)
      simp only [PoolCore.isIdle, Option.some.injEq, exists_eq_left', hiff, Bool.not_eq_true',
        decide_eq_false_iff_not]
      omega
  refine ⟨hclosed, h.nodup_idleHandles now, reapIdle_count _, hslots, ?_, ?_, ?_, ?_⟩
  · rw [reapIdle_count, reapIdle_pool, Fleet.closeAll_eq]
  · intro k e he
    have hfind := (Table.find?_eq_some_iff _ k (some e)).mpr (held_eq_some_iff.mp he)
    obtain ⟨hold, e', heq, hleft⟩ := (hslots k (some e)).mp hfind
    cases heq
    have hheld : p.held k = some e :=
      held_eq_some_iff.mpr ((Table.find?_eq_some_iff _ k (some e)).mp hold)
    rw [h.mem_idleHandles now hheld] at hleft
    rw [reapIdle_pool]
    exact Nat.le_of_not_lt hleft
  · have hfull : ∀ s ∈ ({ p with now } : Pool).reapIdle.2.slots.entries, s.2.isSome = true := by
      rintro ⟨k, s⟩ hs
      obtain ⟨-, e, rfl, -⟩ := (hslots k s).mp ((Table.find?_eq_some_iff _ k s).mpr hs)
      rfl
    rw [openCount, Table.values, ← List.countP_eq_length_filter, List.countP_map, Table.size]
    exact (List.countP_eq_length.mpr hfull).symm
  · intro l hl hrecent hin
    obtain ⟨t, hlast, hle⟩ := h.dated.le_lastLent hl
    obtain ⟨k, t', -, hlast', hlong⟩ := (hclosed l.handle).mp hin
    rw [hlast] at hlast'
    cases hlast'
    omega

end Reached

/-- In a pool in which no call is in progress, closing idle handles closes the open handles that
were last handed out longer ago than is allowed, however long that is, and counts them. Their slots
and the empty ones go, and all else stays as it was, so every handle that is left was used in time
and every slot that is left has one. What the reaper does when it is due is the same. -/
theorem idle_reaped (reached : Reached ls p) :
    (∀ now, ∃ closed, Reaps ls p now ({ p with now } : Pool).reapIdle.1
      ({ p with now } : Pool).reapIdle.2 closed) ∧
    ∀ (s : Services) (ms : Nat), s.pool = p → p.disposed = false →
      s.now / s.reaperIntervalMs < (s.now + ms) / s.reaperIntervalMs →
      ∃ count closed, Reaps ls p (s.now + ms) count (s.advance ms).pool closed := by
  refine ⟨fun now => ⟨_, reached.reaps now⟩, ?_⟩
  rintro s ms rfl alive due
  have hdue : (s.advance ms).pool = ({ s.pool with now := s.now + ms } : Pool).reapIdle.2 := by
    have hcond : (!s.pool.disposed && decide (s.now / s.reaperIntervalMs <
        (s.setNow (s.now + ms)).now / s.reaperIntervalMs)) = true := by
      rw [alive]
      exact decide_eq_true due
    simp only [Services.advance, hcond, ↓reduceIte]
    rfl
  rw [hdue]
  exact ⟨_, _, reached.reaps (s.now + ms)⟩

/-- Two clusters are asked for, one of them long ago, and a third cannot be reached. The handle of
the first is said to be broken in the meantime, which is no use of it. -/
def longAgo : List Flights.Step :=
  [.other (.getHandle (.behind "conn" "main" "localhost:9092")) rfl, .other (.wait 100000) rfl,
    .other (.markDisconnected (.behind "conn" "main" "localhost:9092")) rfl,
    .other (.getHandle (.behind "conn" "other" "localhost:9095")) rfl,
    .other (.prepare { Fleet.empty with
      connects := [some (Failure.transient "Connection refused")] }) rfl,
    .other (.getHandle (.behind "conn" "lost" "localhost:9094")) rfl, .other (.wait 200001) rfl]

/-- The first handle is closed by the next tick, and the empty slot goes. -/
theorem idle_reaped_longAgo :
    let t := longAgo.foldl Flights.step ⟨.idle, []⟩
    let q := (t.services.advance 60000).pool
    t.services.pool.slots.find? ⟨"conn", "lost"⟩ = some none ∧
      q.slots.find? ⟨"conn", "lost"⟩ = none ∧ q.held ⟨"conn", "other"⟩ = some ⟨1, 100000, true⟩ ∧
      ∃ closed : List Nat, 0 ∈ closed ∧ 1 ∉ closed ∧
        q.fleet.log = t.services.pool.fleet.log ++ closed.map Request.close := by
  intro t q
  have run : Flights.Run (events ⟨.idle, []⟩ longAgo) t :=
    (@Flights.Run.start {} .empty .signedOut .offline _ rfl).steps longAgo
  obtain ⟨-, tick⟩ := idle_reaped run.reached
  obtain ⟨count, closed, h⟩ := tick t.services 60000 rfl (by decide) (by decide)
  have hspare : 1 ∉ closed := h.recent ⟨1, 100000⟩ (by decide) (by decide)
  have hempty : t.services.pool.slots.find? ⟨"conn", "lost"⟩ = some none := by decide
  have hlost : ∀ s, q.slots.find? ⟨"conn", "lost"⟩ ≠ some s := by
    intro s hs
    obtain ⟨hold, e, rfl, -⟩ := (h.slots _ s).mp hs
    rw [hempty] at hold
    cases hold
  have hheld : q.slots.find? ⟨"conn", "other"⟩ = some (some ⟨1, 100000, true⟩) :=
    (h.slots _ _).mpr ⟨by decide, ⟨1, 100000, true⟩, rfl, hspare⟩
  refine ⟨hempty, Option.eq_none_iff_forall_ne_some.mpr hlost, by rw [held, hheld]; rfl, closed,
    ?_, hspare, congrArg (·.fleet.log) h.rest⟩
  exact (h.closed_iff 0).mpr ⟨⟨"conn", "main"⟩, 0, by decide, by decide, by decide⟩

end

end ClusterAdmin.Pool
