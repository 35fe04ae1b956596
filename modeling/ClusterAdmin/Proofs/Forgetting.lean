import ClusterAdmin.Proofs.Batches

namespace ClusterAdmin

open Acl

/-- Whether an action looks a topic up in memory. -/
def Action.looksUp (k : TopicKey) : Action → Bool
  | .topicAccess c topic _ => k = ⟨c.key, topic⟩
  | .topicAccesses c ts _ => k.cluster = c.key ∧ k.topic ∈ ts
  | _ => false

namespace Fleet

theorem length_roll (f : Fleet) : f.roll.length = f.handles.length := List.length_map _

theorem Alike.length_handles {f f' : Fleet} (h : f.Alike f') :
    f'.handles.length = f.handles.length := by
  rw [← length_roll, h.roll, length_roll]

theorem log_connect (f : Fleet) (t : Target) :
    (f.connect t).2.log = f.log ++ [.connect t] := by
  simp only [connect, accept]
  split <;> rfl

/-- A handle that is opened gets the next number. -/
theorem opens_connect (f : Fleet) (t : Target) :
    (f.connect t).2.handles.length = f.handles.length ∨
      (f.connect t).1 = .ok f.handles.length := by
  simp only [connect, accept]
  split
  · exact .inl rfl
  · exact .inr rfl
  · exact .inr rfl

theorem log_reconnect (f : Fleet) (h : Nat) :
    (f.reconnect h).2.log = f.log ++ [.reconnect h] := by
  simp only [reconnect, reaccept]
  split <;> rfl

end Fleet

namespace Pool

/-- What was asked in a call for a handle of a cluster: connections to what the stored records say
of it, and one of these if a handle was opened, which then is the one handed out. -/
structure Asks (c : Cluster) (p : Pool) (r : Except Failure Nat × Pool) (asked : List Request) :
    Prop where
  log : r.2.fleet.log = p.fleet.log ++ asked
  connects : ∀ t, .connect t ∈ asked → Target.ofCluster p.store c = .ok t
  opens : r.2.fleet.handles.length = p.fleet.handles.length ∨
    r.1 = .ok p.fleet.handles.length ∧ ∃ t, .connect t ∈ asked

theorem asks_openInto (p : Pool) (c : Cluster) : ∃ asked, Asks c p (p.openInto c) asked := by
  cases ht : Target.ofCluster p.store c with
  | error f => exact ⟨[], by simp [openInto, ht], by simp, .inl (by simp [openInto, ht])⟩
  | ok t =>
    have hlog := p.fleet.log_connect t
    have hopens := p.fleet.opens_connect t
    cases hc : p.fleet.connect t with
    | mk r fleet =>
      rw [hc] at hlog hopens
      have hconnects : ∀ t', Request.connect t' ∈ [Request.connect t] →
          Target.ofCluster p.store c = .ok t' := by
        intro t' hmem
        cases List.mem_singleton.mp hmem
        exact ht
      refine ⟨[.connect t], ?_⟩
      simp only [openInto, ht, hc]
      cases r with
      | error f =>
        have hnone : fleet.handles.length = p.fleet.handles.length := by simpa using hopens
        exact ⟨hlog, hconnects, .inl hnone⟩
      | ok h => exact ⟨hlog, hconnects, hopens.imp_right fun hr => ⟨hr, t, by simp⟩⟩

/-- What is done to a handle beforehand does not matter. -/
theorem Asks.before {c : Cluster} {p q : Pool} {r : Except Failure Nat × Pool}
    {before asked : List Request} (h : Asks c q r asked) (store : q.store = p.store)
    (log : q.fleet.log = p.fleet.log ++ before) (apart : ∀ t, .connect t ∉ before)
    (handles : q.fleet.handles.length = p.fleet.handles.length) : Asks c p r (before ++ asked) := by
  refine ⟨?_, fun t ht => ?_, ?_⟩
  · rw [h.log, log, List.append_assoc]
  · rw [← store]
    exact h.connects t ((List.mem_append.mp ht).resolve_left (apart t))
  · rw [← handles]
    exact h.opens.imp_right fun ⟨hr, t, ht⟩ => ⟨hr, t, List.mem_append_right _ ht⟩

theorem asks_getHandle (p : Pool) (c : Cluster) : ∃ asked, Asks c p (p.getHandle c) asked := by
  rcases p.getHandle_cases c with ⟨f, h⟩ | ⟨_, h⟩ | ⟨e, _, h | ⟨fleet, hr, h⟩ | ⟨f, fleet, hr, h⟩⟩
  · rw [h]
    exact ⟨[], by simp, by simp, .inl rfl⟩
  · rw [h]
    obtain ⟨asked, hasked⟩ := asks_openInto (p.setSlot c.key none) c
    exact ⟨asked, hasked.log, hasked.connects, hasked.opens⟩
  · rw [h]
    exact ⟨[], by simp [reuse, setSlot, PoolCore.countReused], by simp, .inl rfl⟩
  all_goals
    have hlog : fleet.log = p.fleet.log ++ [.reconnect e.handle] := by
      rw [← p.fleet.log_reconnect e.handle, hr]
    have hhandles := (Fleet.alike_reconnect hr).length_handles
    rw [h]
  · exact ⟨[.reconnect e.handle], hlog, by simp, .inl hhandles⟩
  · obtain ⟨asked, hasked⟩ := asks_openInto ({ p with fleet }.discard c.key e) c
    refine ⟨[.reconnect e.handle, .close e.handle] ++ asked,
      hasked.before rfl ?_ (by simp) ?_⟩
    · change fleet.log ++ [.close e.handle] = _
      rw [hlog, List.append_assoc]
      rfl
    · change (fleet.handles.modify e.handle _).length = _
      rw [List.length_modify, hhandles]

theorem handle?_openInto {p p' : Pool} {c : Cluster} {h : Nat} (ho : p.openInto c = (.ok h, p')) :
    p'.handle? c.key = some h := by
  rcases p.openInto_cases c with ⟨f, _, he⟩ | ⟨t, f, fleet, _, hc, he⟩ | ⟨t, m, fleet, _, hc, he⟩
  all_goals cases ho.symm.trans he
  simp [handle?]

/-- A handle that is handed out is in the slot of its cluster. -/
theorem handle?_getHandle {p p' : Pool} {c : Cluster} {h : Nat}
    (hg : p.getHandle c = (.ok h, p')) : p'.handle? c.key = some h := by
  rcases p.getHandle_cases c with ⟨f, he⟩ | ⟨_, he⟩ |
    ⟨e, _, he | ⟨fleet, hr, he⟩ | ⟨f, fleet, hr, he⟩⟩
  · cases hg.symm.trans he
  · exact handle?_openInto (he.symm.trans hg)
  · cases hg.symm.trans he
    simp [handle?, reuse]
  · cases hg.symm.trans he
    simp [handle?, restore]
  · exact handle?_openInto (he.symm.trans hg)

/-- Handles for clusters of a connection are among those made from some number on. -/
structure Renewed (id : String) (n : Nat) (p : Pool) : Prop where
  made : n ≤ p.fleet.handles.length
  since : ∀ k h, k.connectionId = id → p.handle? k = some h → n ≤ h

namespace Renewed

variable {id : String} {n : Nat} {p p' : Pool}

theorem of_same (r : p.Renewed id n) (slots : p'.slots = p.slots)
    (handles : p'.fleet.handles.length = p.fleet.handles.length) : p'.Renewed id n := by
  refine ⟨handles ▸ r.made, fun k h hk hh => r.since k h hk ?_⟩
  rwa [handle?, held, slots] at hh

theorem ask (r : p.Renewed id n) {fleet : Fleet} (alike : p.fleet.Alike fleet) :
    { p with fleet }.Renewed id n :=
  r.of_same rfl alike.length_handles

/-- A slot is emptied or gets a new state of its handle. -/
theorem setSlot (r : p.Renewed id n) {k : ClusterKey} {s : Option PooledHandle}
    (same : ∀ h, s.map (·.handle) = some h → p.handle? k = some h) :
    (p.setSlot k s).Renewed id n := by
  refine ⟨r.made, fun k' h hk hh => r.since k' h hk ?_⟩
  rw [handle?_setSlot] at hh
  split at hh
  · rename_i he
    exact he ▸ same h hh
  · exact hh

theorem emptied (r : p.Renewed id n) (k : ClusterKey) : (p.setSlot k none).Renewed id n :=
  r.setSlot fun _ hh => by cases hh

theorem discard (r : p.Renewed id n) (k : ClusterKey) (e : PooledHandle) :
    (p.discard k e).Renewed id n := by
  have hclosed : { p with
      toPoolCore := { p.countEvicted with fleet := p.fleet.close e.handle } }.Renewed id n :=
    r.of_same rfl (List.length_modify _ _ _)
  exact hclosed.emptied k

/-- The handle in a slot stays there, whatever else is noted of it. -/
theorem reset (r : p.Renewed id n) {core : PoolCore} {k : ClusterKey} {e e' : PooledHandle}
    (hk : p.held k = some e) (same : e'.handle = e.handle)
    (handles : core.fleet.handles.length = p.fleet.handles.length) :
    ({ p with toPoolCore := core }.setSlot k (some e')).Renewed id n := by
  have hcore : { p with toPoolCore := core }.Renewed id n := r.of_same rfl handles
  refine hcore.setSlot fun h hh => ?_
  rw [← hh, Option.map_some, same]
  exact congrArg _ hk

theorem openInto (r : p.Renewed id n) (c : Cluster) : (p.openInto c).2.Renewed id n := by
  rcases p.openInto_cases c with ⟨f, _, he⟩ | ⟨t, f, fleet, _, hc, he⟩ | ⟨t, m, fleet, _, hc, he⟩
  · rw [he]
    exact r
  · rw [he]
    exact r.of_same rfl (Fleet.alike_accept hc).length_handles
  · rw [he]
    obtain ⟨hm, hroll, -, -⟩ := Fleet.accept_ok hc
    rw [Fleet.length_roll] at hm
    have hlength := congrArg List.length hroll
    rw [Fleet.length_roll, List.length_append, Fleet.length_roll] at hlength
    have hmade : n ≤ m := hm ▸ r.made
    refine ⟨?_, fun k h hk hh => ?_⟩
    · change n ≤ fleet.handles.length
      exact hlength ▸ Nat.le_trans r.made (Nat.le_add_right _ _)
    · rw [handle?, held_keep] at hh
      split at hh
      · cases hh
        exact hmade
      · exact r.since k h hk hh

theorem getHandle (r : p.Renewed id n) (c : Cluster) : (p.getHandle c).2.Renewed id n := by
  rcases p.getHandle_cases c with ⟨f, he⟩ | ⟨_, he⟩ |
    ⟨e, hk, he | ⟨fleet, hr, he⟩ | ⟨f, fleet, hr, he⟩⟩
  all_goals rw [he]
  · exact r
  · exact (r.emptied c.key).openInto c
  · exact r.reset hk rfl rfl
  · exact (r.ask (Fleet.alike_reconnect hr)).reset hk rfl rfl
  · exact ((r.ask (Fleet.alike_reconnect hr)).discard c.key e).openInto c

theorem dropSlot (r : p.Renewed id n) (k : ClusterKey) : (p.dropSlot k).Renewed id n := by
  refine ⟨r.made, fun k' h hk hh => r.since k' h hk ?_⟩
  rw [handle?, held_dropSlot] at hh
  split at hh
  · cases hh
  · exact hh

theorem evict (r : p.Renewed id n) (k : ClusterKey) : (p.evict k).Renewed id n := by
  simp only [Pool.evict]
  split
  · exact (r.discard k _).dropSlot k
  · exact r.dropSlot k

theorem move {m : Nat} (r : p.Renewed id n) (h : Move m p p') : p'.Renewed id n := by
  cases h with
  | getHandle _ c => exact r.getHandle c
  | ask alike => exact r.ask alike
  | markDisconnected _ c =>
    cases hk : p.held c.key with
    | none => simpa [Pool.markDisconnected, hk] using r
    | some e =>
      simp only [Pool.markDisconnected, hk]
      exact r.reset hk rfl rfl
  | evict _ k => exact r.evict k
  | retire => exact r.of_same rfl rfl
  | outside => exact r.of_same rfl rfl

theorem moves {m : Nat} (r : p.Renewed id n) (h : Moves m p p') : p'.Renewed id n := by
  induction h with
  | none => exact r
  | more _ last ih => exact (ih r).move last

end Renewed

theorem Accounted.nodup_handlesOf {p : Pool} (a : p.Accounted) (chosen : ClusterKey → Bool) :
    (p.handlesOf chosen).Nodup :=
  List.Nodup.sublist (List.filter_sublist.filterMap _) a.nodup_handles

/-- The handles in the slots of some clusters are all that are open for these clusters. -/
theorem Accounted.mem_handlesOf {p : Pool} (a : p.Accounted) (chosen : ClusterKey → Bool) (h : Nat) :
    h ∈ p.handlesOf chosen ↔
      ∃ x, p.fleet.handles[h]? = some x ∧ chosen x.key = true ∧ x.closed = false := by
  constructor
  · intro hh
    obtain ⟨⟨k, s⟩, hs, hmap⟩ := List.mem_filterMap.mp hh
    obtain ⟨e, rfl, rfl⟩ := Option.map_eq_some_iff.mp hmap
    obtain ⟨hmem, hk⟩ := List.mem_filter.mp hs
    have hroll := a.mem_slots_iff.mp ⟨e, hmem, rfl⟩
    rw [Fleet.roll_getElem?] at hroll
    obtain ⟨x, hx, hxk⟩ := Option.map_eq_some_iff.mp hroll
    obtain ⟨rfl, hopen⟩ := Prod.mk.inj hxk
    exact ⟨x, hx, hk, hopen⟩
  · rintro ⟨x, hx, hk, hopen⟩
    have hroll : p.fleet.roll[h]? = some (x.key, false) := by
      rw [Fleet.roll_getElem?, hx, Option.map_some, hopen]
    obtain ⟨e, hmem, rfl⟩ := a.mem_slots_iff.mpr hroll
    exact List.mem_filterMap.mpr ⟨_, List.mem_filter.mpr ⟨hmem, hk⟩, rfl⟩

end Pool

namespace Services

/-- A topic that is not remembered is not remembered later, if it was not looked up meanwhile. -/
theorem find?_act_of_not_looksUp {s : Services} {a : Action} {k : TopicKey}
    (unasked : a.looksUp k = false) (h : s.access.entries.find? k = none) :
    (s.act a).access.entries.find? k = none := by
  cases a with
  | topicAccess c topic credential =>
    rw [act, find?_topicAccess s c credential (by simpa [Action.looksUp] using unasked), h]
  | topicAccesses c topics credential =>
    rw [act, topicAccesses_snd, find?_topicAccessEach (fun t ht he => ?_), h]
    subst he
    simp [Action.looksUp, List.mem_eraseDups.mp ht] at unasked
  | query c principal topic =>
    rw [act]
    rcases s.query_cases c principal topic with ⟨f, p, -, he⟩ | ⟨n, p, q, -, -, -, he⟩
    · rw [he]
      exact h
    · rw [he]
      exact h
  | topics b c call => rw [s.access_topics b c call, h]
  | advance ms =>
    rw [act, access_advance, h]
  | clearAccess | dispose => rfl
  | clearAccessOfCluster c =>
    simp [act, AccessCache.clearCluster, Table.find?_filter_keys, h]
  | clearAccessOfConnection id =>
    simp [act, AccessCache.clearConnection, Table.find?_filter_keys, h]
  | forgetConnection id =>
    simp [act, forgetConnection, AccessCache.clearConnection, Table.find?_filter_keys, h]
  | _ => exact h

theorem find?_acts_of_not_looksUp {as : List Action} {k : TopicKey}
    (unasked : ∀ a ∈ as, a.looksUp k = false) {s : Services}
    (h : s.access.entries.find? k = none) :
    (as.foldl Services.act s).access.entries.find? k = none := by
  induction as generalizing s with
  | nil => exact h
  | cons a as ih =>
    obtain ⟨ha, has⟩ := List.forall_mem_cons.mp unasked
    exact ih has (find?_act_of_not_looksUp ha h)

theorem lookUp_of_find? {s : Services} {k : TopicKey} (h : s.access.entries.find? k = none) :
    s.lookUp k = (none, { s with access := { s.access with
      stats := { s.access.stats with misses := s.access.stats.misses + 1 } } }) := by
  simp [lookUp, AccessCache.lookup, AccessCache.fresh?, h]

theorem renewed_acts {s : Services} {id : String} {n : Nat} (r : s.pool.Renewed id n)
    (as : List Action) : (as.foldl Services.act s).pool.Renewed id n := by
  induction as generalizing s with
  | nil => exact r
  | cons a as ih => exact ih (r.moves (s.moves_act a))

/-- The handles that are kept for the clusters of a connection. -/
def handlesFor (s : Services) (id : String) : List Nat :=
  s.pool.handlesOf fun k => k.connectionId = id

/-- The services without the slots and the remembered answers of a connection. The handles are
closed and counted as evicted. -/
def without (s : Services) (id : String) : Services :=
  { s with
    pool := { s.pool with
      fleet := { s.pool.fleet with
        handles := s.pool.fleet.handles.mapIdx fun h x =>
          if h ∈ s.handlesFor id then { x with connected := false, closed := true } else x
        log := s.pool.fleet.log ++ (s.handlesFor id).map .close }
      stats := { s.pool.stats with
        evicted := s.pool.stats.evicted + (s.handlesFor id).length }
      slots := s.pool.slots.filter fun k _ => k.connectionId ≠ id }
    access := { s.access with
      entries := s.access.entries.filter fun k _ => k.cluster.connectionId ≠ id } }

theorem forgetConnection_eq (s : Services) (id : String) :
    s.forgetConnection id = s.without id := by
  have hslots : (s.pool.slots.filter fun k _ => !decide (k.connectionId = id)) =
      s.pool.slots.filter fun k _ => k.connectionId ≠ id :=
    Table.filter_congr fun e _ => (decide_not ..).symm
  have hpool := s.pool.evictAll_keys fun k => k.connectionId = id
  rw [Fleet.closeAll_eq, hslots] at hpool
  rw [forgetConnection, Pool.invalidateConnection, hpool]
  rfl

/-- No slot is left for the connection, so that all its later handles are new. -/
theorem renewed_without (s : Services) (id : String) :
    (s.without id).pool.Renewed id s.pool.fleet.handles.length where
  made := Nat.le_of_eq (List.length_mapIdx ..).symm
  since k h hk hh := by
    simp [without, Pool.handle?, Pool.held, Table.find?_filter_keys, hk] at hh

theorem find?_without (s : Services) {id : String} {k : TopicKey}
    (hk : k.cluster.connectionId = id) : (s.without id).access.entries.find? k = none := by
  simp [without, Table.find?_filter_keys, hk]

end Services

/-- Forgetting a connection closes the open handles of its clusters, drops their slots and what is
remembered of their topics, and leaves all else as it was. Whatever is done then, a handle for one
of them is a new one, to what the stored records say when it is opened, and what is asked first
about a topic of theirs is not answered from memory. -/
theorem connection_forgotten {past : List Moment} {s : Services} (run : Run past s) (id : String) :
    s.forgetConnection id = s.without id ∧
      (s.handlesFor id).Nodup ∧
      (∀ h, h ∈ s.handlesFor id ↔ ∃ x, s.pool.fleet.handles[h]? = some x ∧
        x.key.connectionId = id ∧ x.closed = false) ∧
      ∀ (as : List Action) (c : Cluster), c.connectionId = id →
        let s' := as.foldl Services.act (s.forgetConnection id)
        (∀ h, (s'.pool.getHandle c).1 = .ok h → s.pool.fleet.handles.length ≤ h) ∧
          (∃ asked, Pool.Asks c s'.pool (s'.pool.getHandle c) asked) ∧
          ∀ topic, (∀ a ∈ as, a.looksUp ⟨c.key, topic⟩ = false) →
            s'.lookUp ⟨c.key, topic⟩ = (none, { s' with access := { s'.access with
              stats := { s'.access.stats with misses := s'.access.stats.misses + 1 } } }) := by
  have haccounted := run.accounted
  refine ⟨s.forgetConnection_eq id, haccounted.nodup_handlesOf _, fun h => ?_,
    fun as c hc => ⟨fun h hh => ?_, Pool.asks_getHandle _ c, fun topic unasked => ?_⟩⟩
  · simpa [Services.handlesFor] using haccounted.mem_handlesOf (fun k => k.connectionId = id) h
  · have hrenewed := (Services.renewed_acts (s.renewed_without id) as).getHandle c
    rw [← s.forgetConnection_eq id] at hrenewed
    exact hrenewed.since c.key h hc (Pool.handle?_getHandle (Prod.ext hh rfl))
  · have hnone := s.find?_without (k := ⟨c.key, topic⟩) hc
    rw [← s.forgetConnection_eq id] at hnone
    exact Services.lookUp_of_find? (Services.find?_acts_of_not_looksUp unasked hnone)

/-- One of two handles is closed, and opened anew when it is asked for. -/
theorem connection_forgotten_one :
    let c := Cluster.behind "conn" "main" "localhost:9092"
    let s := (Services.idle.act (.getHandle c)).act
      (.getHandle (Cluster.behind "conn2" "main" "localhost:9092"))
    s.handlesFor "conn" = [0] ∧ s.forgetConnection "conn" = s.without "conn" ∧
      ((s.forgetConnection "conn").pool.getHandle c).1 = .ok 2 ∧
      s.pool.fleet.handles.length ≤ 2 := by
  intro c s
  obtain ⟨hforget, -, -, hlater⟩ := connection_forgotten ((Run.idle.act (.getHandle c)).act
    (.getHandle (Cluster.behind "conn2" "main" "localhost:9092"))) "conn"
  have hnew : ((s.forgetConnection "conn").pool.getHandle c).1 = .ok 2 := rfl
  exact ⟨by decide, hforget, hnew, (hlater [] c rfl).1 2 hnew⟩

end ClusterAdmin
