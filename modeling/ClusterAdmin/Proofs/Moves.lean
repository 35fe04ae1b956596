import ClusterAdmin.Proofs.Lookups
import ClusterAdmin.Proofs.Sweeps
import ClusterAdmin.Services.Topics

namespace ClusterAdmin

namespace Pool

/-- One thing done to a pool, and how many handles it hands out. -/
inductive Move : Nat → Pool → Pool → Prop
  | getHandle (p : Pool) (c : Cluster) : Move (p.grants c) p (p.getHandle c).2
  /-- A request on a handle, or a change in how brokers and connections behave. -/
  | ask {p : Pool} {fleet : Fleet} (alike : p.fleet.Alike fleet) : Move 0 p { p with fleet }
  | markDisconnected (p : Pool) (c : Cluster) : Move 0 p (p.markDisconnected c)
  | evict (p : Pool) (k : ClusterKey) : Move 0 p (p.evict k)
  /-- A pool without slots is given up for good. -/
  | retire {p : Pool} (empty : p.slots = .empty) : Move 0 p { p with disposed := true }
  /-- Time passes, or stored connections change. -/
  | outside (p : Pool) (now : Nat) (store : ConnectionStore) (later : p.now ≤ now) :
    Move 0 p { p with now, store }

inductive Moves : Nat → Pool → Pool → Prop
  | none (p : Pool) : Moves 0 p p
  | more {n m : Nat} {p q r : Pool} (before : Moves n p q) (last : Move m q r) : Moves (n + m) p r

theorem Move.moves {n : Nat} {p q : Pool} (h : Move n p q) : Moves n p q :=
  Nat.zero_add n ▸ .more (.none p) h

theorem Moves.trans {n m : Nat} {p q r : Pool} (h : Moves n p q) (h' : Moves m q r) :
    Moves (n + m) p r := by
  induction h' with
  | none => exact h
  | more _ last ih => exact Nat.add_assoc .. ▸ .more (ih h) last

theorem moves_evictAll (p : Pool) (ks : List ClusterKey) : Moves 0 p (p.evictAll ks) := by
  induction ks generalizing p with
  | nil => exact .none p
  | cons k ks ih => exact (Move.evict p k).moves.trans (ih (p.evict k))

theorem moves_invalidateConnection (p : Pool) (id : String) :
    Moves 0 p (p.invalidateConnection id) :=
  moves_evictAll p _

theorem moves_reapIdle (p : Pool) : Moves 0 p p.reapIdle.2 :=
  moves_evictAll p _

theorem moves_dispose (p : Pool) : Moves 0 p p.dispose := by
  rw [dispose_eq]
  split
  · exact .none p
  · have hempty : (p.evictAll p.slots.keys).slots = .empty := by rw [evictAll_all]
    exact (moves_evictAll p _).more (.retire hempty)

theorem openInto_frame (p : Pool) (c : Cluster) :
    ∃ fleet stats slots, (p.openInto c).2 = { p with fleet, stats, slots } := by
  rcases p.openInto_cases c with ⟨f, _, h⟩ | ⟨t, f, fleet, _, hc, h⟩ | ⟨t, n, fleet, _, hc, h⟩
  all_goals rw [h]
  all_goals exact ⟨_, _, _, rfl⟩

/-- Asking for a handle changes handles, counters and slots, and nothing else. -/
theorem getHandle_frame (p : Pool) (c : Cluster) :
    ∃ fleet stats slots, (p.getHandle c).2 = { p with fleet, stats, slots } := by
  rcases p.getHandle_cases c with ⟨f, h⟩ | ⟨_, h⟩ | ⟨e, _, h | ⟨fleet, hr, h⟩ | ⟨f, fleet, hr, h⟩⟩
  · rw [h]
    exact ⟨_, _, _, rfl⟩
  · rw [h]
    exact openInto_frame (p.setSlot c.key none) c
  · rw [h]
    exact ⟨_, _, _, rfl⟩
  · rw [h]
    exact ⟨_, _, _, rfl⟩
  · rw [h]
    exact openInto_frame ({ p with fleet }.discard c.key e) c

theorem now_getHandle (p : Pool) (c : Cluster) : (p.getHandle c).2.now = p.now := by
  obtain ⟨fleet, stats, slots, h⟩ := p.getHandle_frame c
  rw [h]

theorem now_markDisconnected (p : Pool) (c : Cluster) : (p.markDisconnected c).now = p.now := by
  simp only [markDisconnected]
  split <;> rfl

theorem now_evict (p : Pool) (k : ClusterKey) : (p.evict k).now = p.now := by
  simp only [evict]
  split <;> rfl

/-- Moves never turn the clock back. -/
theorem Move.now_le {n : Nat} {p q : Pool} (h : Move n p q) : p.now ≤ q.now := by
  cases h with
  | getHandle _ c => exact Nat.le_of_eq (p.now_getHandle c).symm
  | ask => exact Nat.le_refl _
  | markDisconnected _ c => exact Nat.le_of_eq (p.now_markDisconnected c).symm
  | evict _ k => exact Nat.le_of_eq (p.now_evict k).symm
  | retire => exact Nat.le_refl _
  | outside _ _ _ later => exact later

theorem Moves.now_le {n : Nat} {p q : Pool} (h : Moves n p q) : p.now ≤ q.now := by
  induction h with
  | none => exact Nat.le_refl _
  | more _ last ih => exact Nat.le_trans ih last.now_le

theorem Move.accounted {n : Nat} {p q : Pool} (h : Move n p q) (a : p.Accounted) :
    q.Accounted := by
  cases h with
  | getHandle _ c => exact a.getHandle c
  | ask alike => exact a.ask alike
  | markDisconnected _ c => exact a.markDisconnected c
  | evict _ k => exact a.evict k
  | retire => exact a.of_alike (.refl _) (fun _ => rfl) rfl rfl rfl
  | outside => exact a.of_alike (.refl _) (fun _ => rfl) rfl rfl rfl

theorem Moves.accounted {n : Nat} {p q : Pool} (h : Moves n p q) (a : p.Accounted) :
    q.Accounted := by
  induction h with
  | none => exact a
  | more _ last ih => exact last.accounted (ih a)

theorem Move.granted {n : Nat} {p q : Pool} (h : Move n p q) :
    q.stats.granted = p.stats.granted + n := by
  cases h with
  | getHandle _ c => exact p.granted_getHandle c
  | ask => rfl
  | markDisconnected _ c =>
    simp only [Pool.markDisconnected]
    split <;> rfl
  | evict _ k =>
    simp only [Pool.evict]
    split <;> rfl
  | retire => rfl
  | outside => rfl

/-- Moves hand out as many handles as the counters of reused, reconnected and opened ones grow
by. -/
theorem Moves.granted {n : Nat} {p q : Pool} (h : Moves n p q) :
    q.stats.granted = p.stats.granted + n := by
  induction h with
  | none => rfl
  | more _ last ih => rw [last.granted, ih, Nat.add_assoc]

end Pool

namespace Services

open Acl

/-- A request on a cluster's handle is a call for the handle, the request, and perhaps a note that
it failed. -/
theorem moves_onHandle {α : Type} (s : Services) (c : Cluster) (operation resource : String)
    {request : Fleet → Nat → Except Failure α × Fleet}
    (alike : ∀ (f : Fleet) (h : Nat), f.Alike (request f h).2) :
    Pool.Moves (s.pool.grants c) s.pool (s.onHandle c operation resource request).2.pool := by
  have hget := (Pool.Move.getHandle s.pool c).moves
  simp only [onHandle]
  split
  · rename_i f pool h
    rw [h] at hget
    exact hget
  · rename_i n pool h
    rw [h] at hget
    have hask := hget.more (.ask (alike pool.fleet n))
    split
    · rename_i a fleet hr
      rw [hr] at hask
      exact hask
    · rename_i f fleet hr
      rw [hr] at hask
      simp only
      split
      · exact hask.more (.markDisconnected _ c)
      · exact hask

/-- To the pool, asking brokers about a topic is such a request. -/
theorem pool_query (s : Services) (c : Cluster) (principal topic : String) :
    (s.query c principal topic).2.pool = (s.onHandle c "describe ACLs" topic fun f h =>
      (finding topic principal (f.describeAcls h (.forTopic topic)).1,
        (f.describeAcls h (.forTopic topic)).2)).2.pool := by
  cases hg : s.pool.getHandle c with
  | mk r p =>
    cases r with
    | error f => simp only [query, onHandle, hg]
    | ok n =>
      simp only [query, onHandle, hg]
      cases finding topic principal (p.fleet.describeAcls n (.forTopic topic)).1 <;> rfl

theorem moves_query (s : Services) (c : Cluster) (principal topic : String) :
    Pool.Moves (s.pool.grants c) s.pool (s.query c principal topic).2.pool := by
  rw [pool_query]
  exact s.moves_onHandle c _ _ fun f h => Fleet.alike_describeAcls f h (.forTopic topic)

/-- How many handles a list of queries is given. -/
def queryGrants (c : Cluster) (principal : String) : List String → Services → Nat
  | [], _ => 0
  | t :: ts, s => s.pool.grants c + queryGrants c principal ts (s.query c principal t).2

theorem moves_queryEach (c : Cluster) (principal : String) (topics : List String) (s : Services) :
    Pool.Moves (queryGrants c principal topics s) s.pool
      (queryEach c principal topics s).2.pool := by
  induction topics generalizing s with
  | nil => exact .none s.pool
  | cons t ts ih => exact (s.moves_query c principal t).trans (ih (s.query c principal t).2)

@[simp] theorem pool_remember (s : Services) (k : TopicKey) (e : Finding) :
    (s.remember k e).pool = s.pool := by
  simp only [remember]
  split <;> rfl

@[simp] theorem pool_settle (c : Cluster) (answers : List (String × Except Failure Finding))
    (s : Services) : (settle c answers s).2.pool = s.pool := by
  induction answers generalizing s with
  | nil => rfl
  | cons x answers ih =>
    obtain ⟨t, r⟩ := x
    cases r with
    | error f => exact ih s
    | ok e =>
      have h := ih (s.remember ⟨c.key, t⟩ e)
      rw [pool_remember] at h
      simp only [settle]
      split
      all_goals
        rename_i hs
        rw [hs] at h
        exact h

/-- How many handles a call about one topic is given. -/
def accessGrants (s : Services) (c : Cluster) (topic : String) (credential : Credential) : Nat :=
  match s.recalled c topic, Principal.ofCredential credential with
  | none, .user _ => s.pool.grants c
  | _, _ => 0

theorem moves_topicAccess (s : Services) (c : Cluster) (topic : String) (credential : Credential) :
    Pool.Moves (s.accessGrants c topic credential) s.pool
      (s.topicAccess c topic credential).2.pool := by
  rw [topicAccess_eq, accessGrants]
  cases s.recalled c topic with
  | some a => exact .none s.pool
  | none =>
    cases Principal.ofCredential credential with
    | underivable why => exact .none s.pool
    | user principal =>
      have h := moves_query (s.recount (s.countLookup false)) c principal topic
      simp only
      split
      all_goals
        rename_i hq
        rw [hq] at h
        simpa using h

/-- How many handles a call about several topics is given. -/
def accessesGrants (s : Services) (c : Cluster) (topics : List String) (credential : Credential) :
    Nat :=
  match Principal.ofCredential credential with
  | .underivable _ => 0
  | .user principal => queryGrants c principal (s.unknown c topics.eraseDups) s

theorem query_recount (s : Services) (n : AccessStats) (c : Cluster) (principal topic : String) :
    ∃ m, (s.recount n).query c principal topic =
      ((s.query c principal topic).1, (s.query c principal topic).2.recount m) := by
  simp only [query, pool_recount]
  split
  · exact ⟨n, rfl⟩
  · refine ⟨{ n with queries := n.queries + 1 }, ?_⟩
    split <;> rfl

theorem queryGrants_recount (c : Cluster) (principal : String) (topics : List String)
    (s : Services) (n : AccessStats) :
    queryGrants c principal topics (s.recount n) = queryGrants c principal topics s := by
  induction topics generalizing s n with
  | nil => rfl
  | cons t ts ih =>
    obtain ⟨m, hm⟩ := s.query_recount n c principal t
    rw [queryGrants, hm, queryGrants, ih]
    rfl

theorem moves_topicAccesses (s : Services) (c : Cluster) (topics : List String)
    (credential : Credential) :
    Pool.Moves (s.accessesGrants c topics credential) s.pool
      (s.topicAccesses c topics credential).2.pool := by
  obtain ⟨n, hn⟩ := s.topicAccesses_eq c topics credential
  rw [hn, accessesGrants]
  cases hu : s.unknown c topics.eraseDups with
  | nil => cases Principal.ofCredential credential <;> exact .none s.pool
  | cons t ts =>
    cases Principal.ofCredential credential with
    | underivable why => exact .none s.pool
    | user principal =>
      have h := moves_queryEach c principal (t :: ts) (s.recount n)
      simp only [List.isEmpty_cons, Bool.false_eq_true, ↓reduceIte]
      generalize queryEach c principal (t :: ts) (s.recount n) = asked at h ⊢
      rw [queryGrants_recount, ← pool_settle c asked.1 asked.2] at h
      split
      all_goals
        rename_i hs
        rw [hs] at h
        exact h

end Services

end ClusterAdmin
