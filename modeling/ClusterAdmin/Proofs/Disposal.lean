import ClusterAdmin.Proofs.Runs

namespace ClusterAdmin

/-- A call fails, and would fail again. -/
def TurnedAway {α : Type} (r : Except Failure α) : Prop :=
  ∃ f, r = .error f ∧ f.category = .invalid

namespace Pool

/-- A pool that was given up: it has no slots and will have none. -/
structure Shut (p : Pool) : Prop where
  disposed : p.disposed = true
  slots : p.slots = .empty

theorem getHandle_of_disposed {p : Pool} (h : p.disposed = true) (c : Cluster) :
    p.getHandle c = (.error PoolCore.disposedFailure, p) := by
  simp [getHandle, PoolCore.refusal?, h]

theorem disposed_getHandle (p : Pool) (c : Cluster) : (p.getHandle c).2.disposed = p.disposed := by
  obtain ⟨fleet, stats, slots, h⟩ := p.getHandle_frame c
  rw [h]

section

variable {p : Pool}

theorem held_of_slots (h : p.slots = .empty) (k : ClusterKey) : p.held k = none := by
  rw [held, h]
  rfl

theorem markDisconnected_of_slots (h : p.slots = .empty) (c : Cluster) :
    p.markDisconnected c = p := by
  rw [markDisconnected, held_of_slots h]

theorem evict_of_slots (h : p.slots = .empty) (k : ClusterKey) : p.evict k = p := by
  obtain ⟨core, slots⟩ := p
  subst h
  rfl

theorem evictAll_of_slots (h : p.slots = .empty) (ks : List ClusterKey) : p.evictAll ks = p := by
  induction ks with
  | nil => rfl
  | cons k ks ih =>
    have hstep : p.evictAll (k :: ks) = (p.evict k).evictAll ks := rfl
    rw [hstep, evict_of_slots h, ih]

end

/-- No move gives a disposed pool a slot, and disposing leaves none. -/
theorem Move.shut {n : Nat} {p q : Pool} (h : Move n p q)
    (hp : p.disposed = true → p.slots = .empty) : q.disposed = true → q.slots = .empty := by
  intro hq
  cases h with
  | getHandle _ c =>
    rw [disposed_getHandle] at hq
    rw [getHandle_of_disposed hq]
    exact hp hq
  | ask alike => exact hp hq
  | markDisconnected _ c =>
    have hdisposed : p.disposed = true := by
      rw [← hq, Pool.markDisconnected]
      split <;> rfl
    rw [markDisconnected_of_slots (hp hdisposed)]
    exact hp hdisposed
  | evict _ k =>
    have hdisposed : p.disposed = true := by
      rw [← hq, evict_eq]
    rw [evict_of_slots (hp hdisposed)]
    exact hp hdisposed
  | retire empty => exact empty
  | outside => exact hp hq

theorem Moves.shut {n : Nat} {p q : Pool} (h : Moves n p q)
    (hp : p.disposed = true → p.slots = .empty) : q.disposed = true → q.slots = .empty := by
  induction h with
  | none => exact hp
  | more _ last ih => exact last.shut (ih hp)

theorem shut_dispose {p : Pool} (hp : p.disposed = true → p.slots = .empty) : p.dispose.Shut := by
  rw [dispose_eq]
  split
  · rename_i h
    exact ⟨h, hp h⟩
  · exact ⟨rfl, by rw [evictAll_all]⟩

theorem Shut.dispose {p : Pool} (h : p.Shut) : p.dispose = p := by
  rw [dispose_eq, if_pos h.disposed]

/-- Every handle lies in a slot or is closed. -/
theorem Accounted.closed_of_slots {p : Pool} (a : p.Accounted) (h : p.slots = .empty)
    {x : ClusterKey × Bool} (hx : x ∈ p.fleet.roll) : x.2 = true := by
  obtain ⟨i, hi⟩ := List.getElem?_of_mem hx
  obtain ⟨k, b⟩ := x
  cases b with
  | true => rfl
  | false =>
    obtain ⟨e, he, -⟩ := a.kept k i hi
    rw [held_of_slots h] at he
    cases he

end Pool

theorem Run.shut {past : List Moment} {s : Services} (run : Run past s) :
    s.pool.disposed = true → s.pool.slots = .empty := by
  induction run with
  | start started =>
    rw [(Services.start_ok started).1]
    exact fun _ => rfl
  | act run a ih => exact (Services.moves_act _ a).shut ih

namespace Services

open Acl

/-- Services without slots and without remembered answers, for good. -/
structure Shut (s : Services) : Prop where
  pool : s.pool.Shut
  entries : s.access.entries = .empty

/-- Nothing was asked of brokers and no handle was opened or closed, and the services are shut. -/
structure Rests (s s' : Services) : Prop where
  log : s'.pool.fleet.log = s.pool.fleet.log
  roll : s'.pool.fleet.roll = s.pool.fleet.roll
  shut : s'.Shut

theorem Shut.rests {s s' : Services} (h : s.Shut) (pool : s'.pool = s.pool)
    (entries : s'.access.entries = s.access.entries) : Rests s s' :=
  ⟨by rw [pool], by rw [pool], ⟨pool ▸ h.pool, entries.trans h.entries⟩⟩

theorem Rests.trans {s s' s'' : Services} (h : Rests s s') (h' : Rests s' s'') : Rests s s'' :=
  ⟨h'.log.trans h.log, h'.roll.trans h.roll, h'.shut⟩

namespace Shut

variable {s : Services}

theorem recalled (h : s.Shut) (c : Cluster) (topic : String) : s.recalled c topic = none := by
  rw [Services.recalled, AccessCache.fresh?, h.entries]
  rfl

theorem recount (h : s.Shut) (n : AccessStats) : (s.recount n).Shut := ⟨h.pool, h.entries⟩

theorem query (h : s.Shut) (c : Cluster) (principal topic : String) :
    s.query c principal topic = (.error (queryFailure topic PoolCore.disposedFailure), s) := by
  rw [Services.query, Pool.getHandle_of_disposed h.pool.disposed]

theorem onHandle {α : Type} (h : s.Shut) (c : Cluster) (operation resource : String)
    (request : Fleet → Nat → Except Failure α × Fleet) :
    s.onHandle c operation resource request =
      (.error (PoolCore.disposedFailure.inContext operation resource), s) := by
  rw [Services.onHandle, Pool.getHandle_of_disposed h.pool.disposed]

theorem topicAccess (h : s.Shut) (c : Cluster) (topic : String) (credential : Credential) :
    s.topicAccess c topic credential =
      (match Principal.ofCredential credential with
        | .underivable why => .ok (.unavailable why)
        | .user _ => .error (queryFailure topic PoolCore.disposedFailure),
        s.recount (s.countLookup false)) := by
  rw [topicAccess_eq, h.recalled]
  cases Principal.ofCredential credential with
  | underivable why => rfl
  | user principal => simp only [(h.recount _).query]

theorem queryEach (h : s.Shut) (c : Cluster) (principal : String) (ts : List String) :
    queryEach c principal ts s =
      (ts.map fun t => (t, .error (queryFailure t PoolCore.disposedFailure)), s) := by
  induction ts with
  | nil => rfl
  | cons t ts ih => simp only [Services.queryEach, h.query, ih, List.map_cons]

theorem settle (s : Services) (c : Cluster) (f : String → Failure) (ts : List String) :
    (Services.settle c (ts.map fun t => (t, .error (f t))) s).2 = s := by
  induction ts with
  | nil => rfl
  | cons t ts ih => exact ih

/-- All topics are unknown, and asking about any of them fails. -/
theorem topicAccesses (h : s.Shut) (c : Cluster) (topics : List String) (credential : Credential) :
    ∃ n, s.topicAccesses c topics credential =
      (match topics, Principal.ofCredential credential with
        | [], _ => .ok []
        | t :: ts, .underivable why => .ok ((t :: ts).eraseDups.map (·, .unavailable why))
        | t :: _, .user _ => .error (queryFailure t PoolCore.disposedFailure), s.recount n) := by
  have hknown : s.known c topics.eraseDups = [] := by simp [known, h.recalled]
  have hunknown : s.unknown c topics.eraseDups = topics.eraseDups := by
    simp [unknown, h.recalled]
  obtain ⟨n, hn⟩ := s.topicAccesses_eq c topics credential
  refine ⟨n, ?_⟩
  rw [hn, hknown, hunknown]
  cases topics with
  | nil => rfl
  | cons t ts =>
    rw [List.eraseDups_cons]
    cases Principal.ofCredential credential with
    | underivable why =>
      simp only [List.eraseDups_cons, List.isEmpty_cons, Bool.false_eq_true, if_false,
        List.nil_append]
    | user principal =>
      have hsettled := settle (s.recount n) c
        (fun t => queryFailure t PoolCore.disposedFailure) ((ts.filter fun b => !b == t).eraseDups)
      simp only [(h.recount n).queryEach, List.map_cons, Services.settle, hsettled,
        List.isEmpty_cons, Bool.false_eq_true, if_false]

theorem clearConnection (h : s.Shut) (id : String) :
    (s.access.clearConnection id).entries = s.access.entries := by
  rw [AccessCache.clearConnection, h.entries]
  rfl

/-- Nothing that is done to disposed services asks brokers, opens a handle or is remembered. -/
theorem act (h : s.Shut) (a : Action) : Rests s (s.act a) := by
  cases a with
  | getHandle c =>
    rw [Services.act, Pool.getHandle_of_disposed h.pool.disposed]
    exact h.rests rfl rfl
  | topicAccess c topic credential =>
    rw [Services.act, h.topicAccess]
    exact h.rests rfl rfl
  | topicAccesses c topics credential =>
    obtain ⟨n, hn⟩ := h.topicAccesses c topics credential
    rw [Services.act, hn]
    exact h.rests rfl rfl
  | query c principal topic =>
    rw [Services.act, h.query]
    exact h.rests rfl rfl
  | topics b c call =>
    cases b with
    | native =>
      obtain ⟨α, operation, resource, request, -, he⟩ := s.native_onHandle c call
      rw [he, h.onHandle]
      exact h.rests rfl rfl
    | rest flavor =>
      have hbeside := s.beside_proxied flavor c call
      exact h.rests hbeside.pool (by rw [hbeside.access])
  | markDisconnected c => exact h.rests (Pool.markDisconnected_of_slots h.pool.slots c) rfl
  | invalidateConnection id => exact h.rests (Pool.evictAll_of_slots h.pool.slots _) rfl
  | invalidateCluster c => exact h.rests (Pool.evict_of_slots h.pool.slots _) rfl
  | reapIdle => exact h.rests (Pool.evictAll_of_slots h.pool.slots _) rfl
  | disposePool => exact h.rests h.pool.dispose rfl
  | clearAccess => exact h.rests rfl h.entries.symm
  | clearAccessOfCluster c =>
    have hnone : (s.access.clearCluster c.key).entries = s.access.entries := by
      rw [AccessCache.clearCluster, h.entries]
      rfl
    exact h.rests rfl hnone
  | clearAccessOfConnection id => exact h.rests rfl (h.clearConnection id)
  | forgetConnection id =>
    exact h.rests (Pool.evictAll_of_slots h.pool.slots _) (h.clearConnection id)
  | resetProxies | setOutside => exact h.rests rfl rfl
  | dispose => exact h.rests h.pool.dispose h.entries.symm
  | advance ms =>
    have hadvance : s.advance ms = s.setNow (s.now + ms) := by
      simp [Services.advance, h.pool.disposed]
    rw [Services.act, hadvance]
    exact ⟨rfl, rfl, ⟨h.pool.disposed, h.pool.slots⟩, h.entries⟩
  | wait ms => exact ⟨rfl, rfl, ⟨h.pool.disposed, h.pool.slots⟩, h.entries⟩
  | dropHandle n =>
    exact ⟨rfl, (Fleet.alike_drop _ n).roll, ⟨h.pool.disposed, h.pool.slots⟩, h.entries⟩
  | setReconnectFault n fault =>
    exact ⟨rfl, (Fleet.alike_setReconnectFault _ n fault).roll,
      ⟨h.pool.disposed, h.pool.slots⟩, h.entries⟩
  | prepare answers => exact ⟨rfl, rfl, ⟨h.pool.disposed, h.pool.slots⟩, h.entries⟩
  | setStore store => exact ⟨rfl, rfl, ⟨h.pool.disposed, h.pool.slots⟩, h.entries⟩

theorem acts (h : s.Shut) (as : List Action) : Rests s (as.foldl Services.act s) := by
  induction as generalizing s with
  | nil => exact h.rests rfl rfl
  | cons a as ih => exact (h.act a).trans (ih (h.act a).shut)

end Shut

/-- What disposed services are and what calls on them give. -/
structure Disposed (s : Services) : Prop where
  closed : ∀ x ∈ s.pool.fleet.handles, x.closed = true
  slots : s.pool.slots = .empty
  entries : s.access.entries = .empty
  handle : ∀ c, TurnedAway (s.pool.getHandle c).1
  list : ∀ c includeInternal, TurnedAway (s.listTopics .native c includeInternal).1
  describe : ∀ c name, TurnedAway (s.describeTopic .native c name).1
  lookFor : ∀ c name, TurnedAway (s.topicExists .native c name).1
  create : ∀ c request, TurnedAway (s.createTopic .native c request).1
  delete : ∀ c name, TurnedAway (s.deleteTopic .native c name).1
  /-- Only for a principal that cannot be told there is an answer, and it tells nothing. -/
  topicAccess : ∀ c topic credential, TurnedAway (s.topicAccess c topic credential).1 ∨
    ∃ why, Principal.ofCredential credential = .underivable why ∧
      (s.topicAccess c topic credential).1 = .ok (.unavailable why)
  topicAccesses : ∀ c topics credential, topics ≠ [] →
    TurnedAway (s.topicAccesses c topics credential).1 ∨
      ∃ why, Principal.ofCredential credential = .underivable why ∧
        (s.topicAccesses c topics credential).1 =
          .ok (topics.eraseDups.map (·, .unavailable why))
  again : s.dispose.pool = s.pool ∧ s.dispose.access = s.access

theorem Shut.disposed {s : Services} (h : s.Shut)
    (closed : ∀ x ∈ s.pool.fleet.handles, x.closed = true) : s.Disposed where
  closed := closed
  slots := h.pool.slots
  entries := h.entries
  handle c := ⟨_, by rw [Pool.getHandle_of_disposed h.pool.disposed], rfl⟩
  list c includeInternal := ⟨_, by rw [listTopics, nativeList, h.onHandle], rfl⟩
  describe c name := ⟨_, by rw [describeTopic, nativeDescribe, h.onHandle], rfl⟩
  lookFor c name := ⟨_, by rw [topicExists, nativeExists, nativeDescribe, h.onHandle]; rfl, rfl⟩
  create c request := ⟨_, by rw [createTopic, nativeCreate, h.onHandle]; rfl, rfl⟩
  delete c name := ⟨_, by rw [deleteTopic, nativeDelete, h.onHandle]; rfl, rfl⟩
  topicAccess c topic credential := by
    rw [h.topicAccess]
    cases Principal.ofCredential credential with
    | underivable why => exact .inr ⟨why, rfl, rfl⟩
    | user principal => exact .inl ⟨_, rfl, rfl⟩
  topicAccesses c topics credential nonempty := by
    obtain ⟨n, hn⟩ := h.topicAccesses c topics credential
    rw [hn]
    cases topics with
    | nil => exact absurd rfl nonempty
    | cons t ts =>
      cases Principal.ofCredential credential with
      | underivable why => exact .inr ⟨why, rfl, rfl⟩
      | user principal => exact .inl ⟨_, rfl, rfl⟩
  again := by
    refine ⟨h.pool.dispose, ?_⟩
    rw [Services.dispose, AccessCache.clear, ← h.entries]

end Services

/-- Disposing is for good. From any state on, all handles are closed and no slot is left, and
whatever is done afterwards, brokers are asked for nothing, nothing is remembered, and calls that
would need a handle are turned away. -/
theorem disposal_final {past : List Moment} {s : Services} (run : Run past s) (as : List Action) :
    (as.foldl Services.act s.dispose).Disposed ∧
      (as.foldl Services.act s.dispose).pool.fleet.log = s.dispose.pool.fleet.log := by
  have hshut : s.dispose.Shut := ⟨Pool.shut_dispose run.shut, rfl⟩
  have hrests := hshut.acts as
  have haccounted : s.dispose.pool.Accounted := (run.act .dispose).accounted
  refine ⟨hrests.shut.disposed fun x hx => ?_, hrests.log⟩
  have hroll : (x.key, x.closed) ∈ (as.foldl Services.act s.dispose).pool.fleet.roll :=
    List.mem_map_of_mem hx
  rw [hrests.roll] at hroll
  exact haccounted.closed_of_slots hshut.pool.slots hroll

/-- The one open handle is closed by disposing, and nothing is opened in its place. -/
theorem disposal_final_open :
    let c := Cluster.behind "conn" "main" "localhost:9092"
    let s := Services.idle.act (.getHandle c)
    let s' := [.getHandle c, .advance 60000, .topicAccess c "t" (.ofUser "alice")].foldl
      Services.act s.dispose
    s.pool.fleet.handles = [⟨c.key, true, false, none⟩] ∧ s'.Disposed ∧
      s'.pool.fleet.log = s.pool.fleet.log ++ [.close 0] := by
  intro c s s'
  obtain ⟨disposed, hlog⟩ := disposal_final (Run.idle.act (.getHandle c))
    [.getHandle c, .advance 60000, .topicAccess c "t" (.ofUser "alice")]
  have hclosed : s.dispose.pool.fleet.log = s.pool.fleet.log ++ [.close 0] := by decide
  exact ⟨by decide, disposed, hlog.trans hclosed⟩

end ClusterAdmin
