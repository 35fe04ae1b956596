import ClusterAdmin.Proofs.Answers

namespace ClusterAdmin

open Acl

/-- The principal in whose name an action asks about topics, if its credential tells one. -/
def Action.principal? : Action → Option String
  | .topicAccess _ _ credential | .topicAccesses _ _ credential =>
    match Principal.ofCredential credential with
    | .user principal => some principal
    | .underivable _ => none
  | _ => none

/-- Whether an action asks brokers about topics. -/
def Action.asks : Action → Bool
  | .topicAccess .. | .topicAccesses .. | .query .. => true
  | _ => false

/-- Whether an action clears what is remembered about a topic. -/
def Action.clears (k : TopicKey) : Action → Bool
  | .clearAccess | .dispose => true
  | .clearAccessOfCluster c => k.cluster = c.key
  | .clearAccessOfConnection id | .forgetConnection id => k.cluster.connectionId = id
  | _ => false

theorem Action.principal?_of_not_asks {a : Action} (h : a.asks = false) : a.principal? = none := by
  cases a <;> first | rfl | cases h

theorem Action.principal?_of_clears {a : Action} {k : TopicKey} (h : a.clears k = true) :
    a.principal? = none := by
  cases a <;> first | rfl | cases h

namespace Moment

/-- What brokers answered about topics in a moment. -/
def replies (m : Moment) : List (TopicKey × Except Failure AclListing) :=
  m.before.pool.fleet.replies m.after.pool.fleet

/-- The answer about a topic that is stored in a moment: what a broker's answer without an error
says of the principal who asks. -/
def stored? (m : Moment) (k : TopicKey) : Option TopicAccess :=
  m.action.principal?.bind fun principal => (Table.ofList (readings principal m.replies)).find? k

/-- What is stored is worked out from the rules in a broker's answer, for the principal who asks. -/
theorem exists_of_stored? {m : Moment} {k : TopicKey} {a : TopicAccess}
    (h : m.stored? k = some a) :
    ∃ principal l, m.action.principal? = some principal ∧ (k, .ok l) ∈ m.replies ∧
      l.errorCode = 0 ∧ a = .ofOperations (evaluate k.topic principal l.resources) := by
  obtain ⟨principal, hp, hk⟩ := Option.bind_eq_some_iff.mp h
  obtain ⟨l, hl⟩ := mem_readings.mp (Table.mem_of_find?_ofList hk)
  exact ⟨principal, l, hp, hl⟩

end Moment

namespace Services

/-- What findings about a list of topics come to in memory once they are settled. -/
theorem Consulted.find?_settle {c : Cluster} {principal : String} {s mid : Services}
    {answers : List (String × Except Failure Finding)} (h : Consulted c principal s answers mid)
    (k : TopicKey) :
    (settle c answers mid).2.access.entries.find? k =
      (((Table.ofList (Acl.readings principal
        (s.pool.fleet.replies (settle c answers mid).2.pool.fleet))).find? k).map
          (⟨·, s.now⟩)).or (s.access.entries.find? k) := by
  rw [settle_snd]
  simp only [AccessCache.find?_storeAll, h.readings, h.now, h.entries]

/-- How an action on remembered answers ends: with look-ups counted, or with brokers consulted and
what they said settled. -/
def Ends (s : Services) (a : Action) : Prop :=
  (∃ n, s.act a = s.recount n) ∨
  ∃ c principal answers mid, a.principal? = some principal ∧ Consulted c principal s answers mid ∧
    s.act a = (settle c answers mid).2

theorem ends_topicAccess {s : Services} (acc : s.pool.Accounted) (c : Cluster) (topic : String)
    (credential : Credential) : s.Ends (.topicAccess c topic credential) := by
  simp only [Ends, act, Action.principal?, topicAccess_eq]
  cases s.recalled c topic with
  | some a => exact .inl ⟨_, rfl⟩
  | none =>
    cases Principal.ofCredential credential with
    | underivable why => exact .inl ⟨_, rfl⟩
    | user principal =>
      have acc' : (s.recount (s.countLookup false)).pool.Accounted := acc
      have h := consulted_query acc' c principal topic
      refine .inr ⟨c, principal, _, _, rfl, h.of_recount, ?_⟩
      simp only
      split
      all_goals
        rename_i hq
        rw [hq]
        rfl

theorem ends_topicAccesses {s : Services} (acc : s.pool.Accounted) (c : Cluster)
    (topics : List String) (credential : Credential) :
    s.Ends (.topicAccesses c topics credential) := by
  obtain ⟨n, hn⟩ := s.topicAccesses_eq c topics credential
  simp only [Ends, act, Action.principal?, hn]
  cases Principal.ofCredential credential with
  | underivable why =>
    refine .inl ⟨n, ?_⟩
    simp only
    split <;> rfl
  | user principal =>
    simp only
    split
    · exact .inl ⟨n, rfl⟩
    · have acc' : (s.recount n).pool.Accounted := acc
      have h := consulted_queryEach acc' c principal (s.unknown c topics.eraseDups)
      refine .inr ⟨c, principal, _, _, rfl, h.of_recount, ?_⟩
      split
      all_goals
        rename_i hs
        rw [hs]

/-- What is remembered about a topic after a call is what the brokers said in it, or else what was
remembered before. -/
theorem Ends.find? {s : Services} {a : Action} (h : s.Ends a) (k : TopicKey) :
    (s.act a).access.entries.find? k =
      (((⟨s, a⟩ : Moment).stored? k).map (⟨·, s.now⟩)).or (s.access.entries.find? k) := by
  rcases h with ⟨n, he⟩ | ⟨c, principal, answers, mid, hp, hc, he⟩
  · have hr : (⟨s, a⟩ : Moment).replies = [] := by
      have hq : s.pool.fleet.Quiet (s.recount n).pool.fleet := .refl _
      simpa only [Moment.replies, Moment.after, he] using hq.replies
    cases hp : a.principal? <;> simp [Moment.stored?, hr, hp, he, readings, Table.ofList]
  · rw [Moment.stored?, Moment.replies, Moment.after, he, hc.find?_settle k]
    simp [hp]

theorem Ends.ttlMs {s : Services} {a : Action} (h : s.Ends a) :
    (s.act a).access.ttlMs = s.access.ttlMs := by
  rcases h with ⟨n, he⟩ | ⟨c, principal, answers, mid, -, hc, he⟩
  · rw [he]
    rfl
  · rw [he, settle_snd, AccessCache.ttlMs_storeAll, hc.ttlMs]

theorem access_onHandle {α : Type} (s : Services) (c : Cluster) (operation resource : String)
    (request : Fleet → Nat → Except Failure α × Fleet) :
    (s.onHandle c operation resource request).2.access = s.access := by
  simp only [onHandle]
  split
  · rfl
  · split <;> rfl

theorem access_topics (s : Services) (b : Backend) (c : Cluster) (call : TopicCall) :
    (s.act (.topics b c call)).access = s.access := by
  cases b with
  | native =>
    obtain ⟨α, operation, resource, request, -, he⟩ := s.native_onHandle c call
    rw [he]
    exact s.access_onHandle c operation resource request
  | rest flavor => exact (s.beside_proxied flavor c call).access

theorem access_advance (s : Services) (ms : Nat) : (s.advance ms).access = s.access := by
  simp only [advance]
  split <;> rfl

/-- An action that does not ask about topics clears what is remembered about one, or leaves it. -/
theorem find?_act_of_not_asks {s : Services} {a : Action} (h : a.asks = false) (k : TopicKey) :
    (s.act a).access.entries.find? k =
      if a.clears k then none else s.access.entries.find? k := by
  cases a with
  | topicAccess | topicAccesses | query => cases h
  | topics b c call =>
    rw [s.access_topics b c call]
    rfl
  | advance ms => exact congrArg (·.entries.find? k) (s.access_advance ms)
  | clearAccessOfCluster c =>
    simp only [act, AccessCache.clearCluster, Table.find?_filter_keys, Action.clears]
    by_cases h : k.cluster = c.key <;> simp [h]
  | clearAccessOfConnection id =>
    simp only [act, AccessCache.clearConnection, Table.find?_filter_keys, Action.clears]
    by_cases h : k.cluster.connectionId = id <;> simp [h]
  | forgetConnection id =>
    simp only [act, forgetConnection, AccessCache.clearConnection, Table.find?_filter_keys,
      Action.clears]
    by_cases h : k.cluster.connectionId = id <;> simp [h]
  | _ => rfl

/-- The remembered answer about a topic after an action: cleared, replaced by what brokers said, or
still the same. -/
theorem find?_act {s : Services} (acc : s.pool.Accounted) (a : Action) (k : TopicKey) :
    (s.act a).access.entries.find? k =
      if a.clears k then none
      else (((⟨s, a⟩ : Moment).stored? k).map (⟨·, s.now⟩)).or (s.access.entries.find? k) := by
  cases h : a.asks with
  | false =>
    rw [find?_act_of_not_asks h, Moment.stored?, Action.principal?_of_not_asks h]
    rfl
  | true =>
    cases a with
    | topicAccess c topic credential => exact (ends_topicAccess acc c topic credential).find? k
    | topicAccesses c topics credential =>
      exact (ends_topicAccesses acc c topics credential).find? k
    | query c principal topic =>
      exact congrArg (·.find? k) (consulted_query acc c principal topic).entries
    | _ => cases h

theorem ttlMs_act {s : Services} (acc : s.pool.Accounted) (a : Action) :
    (s.act a).access.ttlMs = s.access.ttlMs := by
  cases a with
  | topicAccess c topic credential => exact (ends_topicAccess acc c topic credential).ttlMs
  | topicAccesses c topics credential => exact (ends_topicAccesses acc c topics credential).ttlMs
  | query c principal topic => exact (consulted_query acc c principal topic).ttlMs
  | topics b c call => rw [s.access_topics b c call]
  | advance ms => exact congrArg AccessCache.ttlMs (s.access_advance ms)
  | _ => rfl

end Services

/-- One of some moments, after which all others have a property. -/
def Since (p : Moment → Prop) (past : List Moment) (m : Moment) : Prop :=
  ∃ later, m :: later <:+ past ∧ ∀ m' ∈ later, p m'

theorem not_since_nil (p : Moment → Prop) (m : Moment) : ¬Since p [] m := by
  rintro ⟨later, h, -⟩
  simp at h

theorem since_concat (p : Moment → Prop) (past : List Moment) (x m : Moment) :
    Since p (past ++ [x]) m ↔ m = x ∨ (Since p past m ∧ p x) := by
  constructor
  · rintro ⟨later, hs, hp⟩
    rcases List.eq_nil_or_concat later with rfl | ⟨later, y, rfl⟩
    · obtain ⟨t, ht⟩ := hs
      have := List.append_inj_right' ht rfl
      simp only [List.cons.injEq, and_true] at this
      exact .inl this
    · obtain ⟨t, ht⟩ := hs
      rw [List.concat_eq_append, ← List.cons_append, ← List.append_assoc] at ht
      have hxy := List.append_inj_right' ht rfl
      simp only [List.cons.injEq, and_true] at hxy
      subst hxy
      refine .inr ⟨⟨later, ⟨t, List.append_inj_left' ht rfl⟩, ?_⟩, hp y (by simp)⟩
      exact fun m' hm => hp m' (by simp [hm])
  · rintro (rfl | ⟨⟨later, ⟨t, rfl⟩, hp⟩, hx⟩)
    · exact ⟨[], ⟨past, rfl⟩, by simp⟩
    · refine ⟨later ++ [x], ⟨t, by simp⟩, ?_⟩
      intro m' hm
      rcases List.mem_append.mp hm with hm | hm
      · exact hp m' hm
      · rw [List.mem_singleton.mp hm]
        exact hx

theorem Since.mem {p : Moment → Prop} {past : List Moment} {m : Moment} (h : Since p past m) :
    m ∈ past := by
  obtain ⟨later, hs, -⟩ := h
  exact hs.subset (by simp)

theorem Since.imp {p q : Moment → Prop} {past : List Moment} {m : Moment} (h : Since p past m)
    (hpq : ∀ m', p m' → q m') : Since q past m := by
  obtain ⟨later, hs, hp⟩ := h
  exact ⟨later, hs, fun m' hm => hpq m' (hp m' hm)⟩

namespace Moment

/-- What is remembered about a topic is not cleared in a moment. -/
def Keeps (k : TopicKey) (m : Moment) : Prop := m.action.clears k = false

/-- What is remembered about a topic is neither cleared nor replaced in a moment. -/
def Passes (k : TopicKey) (m : Moment) : Prop := m.action.clears k = false ∧ m.stored? k = none

end Moment

namespace Run

variable {past : List Moment} {s : Services}

theorem ttlMs (run : Run past s) {m : Moment} (h : m ∈ past) :
    s.access.ttlMs = m.before.access.ttlMs := by
  induction run with
  | start => simp at h
  | act run a ih =>
    rw [Services.ttlMs_act run.accounted a]
    rcases List.mem_append.mp h with h | h
    · exact ih h
    · rw [List.mem_singleton.mp h]

/-- Time never goes back. -/
theorem now_le (run : Run past s) {m : Moment} (h : m ∈ past) : m.before.now ≤ s.now := by
  induction run with
  | start => simp at h
  | @act past s run a ih =>
    have hle := (Services.moves_act s a).now_le
    rcases List.mem_append.mp h with h | h
    · exact Nat.le_trans (ih h) hle
    · rw [List.mem_singleton.mp h]
      exact hle

/-- An answer is remembered exactly because it was stored and neither cleared nor replaced since. -/
theorem find?_eq_some_iff (run : Run past s) (k : TopicKey) (e : CachedAccess) :
    s.access.entries.find? k = some e ↔
      ∃ m, Since (Moment.Passes k) past m ∧ m.stored? k = some e.access ∧
        m.before.now = e.storedAt := by
  induction run with
  | start started => simp [(Services.start_ok started).2, AccessCache.empty, not_since_nil]
  | @act past s run a ih =>
    rw [Services.find?_act run.accounted]
    simp only [since_concat]
    cases hc : a.clears k with
    | true =>
      have hnone : (⟨s, a⟩ : Moment).stored? k = none := by
        simp [Moment.stored?, Action.principal?_of_clears hc]
      constructor
      · intro h
        cases h
      · rintro ⟨m, rfl | ⟨-, hp⟩, hs, -⟩
        · rw [hnone] at hs
          cases hs
        · rw [Moment.Passes, hc] at hp
          cases hp.1
    | false =>
      cases hstored : (⟨s, a⟩ : Moment).stored? k with
      | none =>
        constructor
        · intro h
          obtain ⟨m, hm, hs, ht⟩ := ih.mp h
          exact ⟨m, .inr ⟨hm, hc, hstored⟩, hs, ht⟩
        · rintro ⟨m, rfl | ⟨hm, -⟩, hs, ht⟩
          · rw [hstored] at hs
            cases hs
          · exact ih.mpr ⟨m, hm, hs, ht⟩
      | some b =>
        constructor
        · intro h
          cases h
          exact ⟨_, .inl rfl, hstored, rfl⟩
        · rintro ⟨m, rfl | ⟨-, hp⟩, hs, ht⟩
          · rw [hstored] at hs
            cases hs
            have ht : s.now = e.storedAt := ht
            rw [ht]
            rfl
          · rw [hp.2] at hstored
            cases hstored

/-- What was stored and not cleared since is still remembered, or something stored later is. -/
theorem exists_passes (run : Run past s) {k : TopicKey} {m : Moment}
    (hm : Since (Moment.Keeps k) past m) (hs : (m.stored? k).isSome) :
    ∃ m', Since (Moment.Passes k) past m' ∧ (m'.stored? k).isSome ∧
      m.before.now ≤ m'.before.now := by
  induction run with
  | start => exact absurd hm (not_since_nil _ m)
  | @act past s run a ih =>
    simp only [since_concat] at hm ⊢
    rcases hm with rfl | ⟨hm, hc⟩
    · exact ⟨_, .inl rfl, hs, Nat.le_refl _⟩
    · cases hstored : (⟨s, a⟩ : Moment).stored? k with
      | some b => exact ⟨⟨s, a⟩, .inl rfl, by simp [hstored], run.now_le hm.mem⟩
      | none =>
        obtain ⟨m', hm', hs', ht⟩ := ih hm
        exact ⟨m', .inr ⟨hm', hc, hstored⟩, hs', ht⟩

end Run

end ClusterAdmin
