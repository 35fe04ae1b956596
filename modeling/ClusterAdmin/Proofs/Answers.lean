import ClusterAdmin.Proofs.Questions

namespace ClusterAdmin

namespace Acl

/-- What a broker's answer says of a principal and a topic, if it comes without an error. -/
def evaluated? (topic principal : String) : Except Failure AclListing → Option TopicAccess
  | .ok l =>
    if l.errorCode = 0 then some (.ofOperations (evaluate topic principal l.resources)) else none
  | .error _ => none

/-- What there is to remember of a finding. -/
def kept? : Except Failure Finding → Option TopicAccess
  | .ok e => if e.cacheable then some e.access else none
  | .error _ => none

@[simp] theorem kept?_mapError (change : Failure → Failure) (r : Except Failure Finding) :
    kept? (r.mapError change) = kept? r := by
  cases r <;> rfl

theorem ofBroker?_eq_none_iff (code : Int16) (message : Option String) :
    Failure.ofBroker? code message = none ↔ code = 0 := by
  simp only [Failure.ofBroker?]
  constructor
  · intro h
    split at h
    · assumption
    · split at h <;> cases h
  · intro h
    rw [if_pos h]

/-- A finding is remembered if it was worked out from rules. -/
theorem kept?_finding (topic principal : String) (answer : Except Failure AclListing) :
    kept? (finding topic principal answer) = evaluated? topic principal answer := by
  cases answer with
  | error f =>
    simp only [finding]
    split <;> rfl
  | ok l =>
    by_cases h : l.errorCode = 0
    · simp [finding, (ofBroker?_eq_none_iff 0 l.errorMessage).mpr rfl, evaluated?, h, kept?]
    · obtain ⟨f, hf⟩ := Option.ne_none_iff_exists'.mp
        (mt (ofBroker?_eq_none_iff l.errorCode l.errorMessage).mp h)
      simp [finding, hf, evaluated?, h, kept?]

/-- A finding is remembered exactly if it tells what may be done. -/
theorem available_finding {topic principal : String} {answer : Except Failure AclListing}
    {e : Finding} (h : finding topic principal answer = .ok e) :
    e.access.available = e.cacheable := by
  simp only [finding] at h
  repeat' split at h
  all_goals cases h
  all_goals rfl

/-- A remembered answer says what may be done, and that because of a broker's rules. -/
theorem evaluated?_eq_some {topic principal : String} {answer : Except Failure AclListing}
    {a : TopicAccess} (h : evaluated? topic principal answer = some a) :
    ∃ l, answer = .ok l ∧ l.errorCode = 0 ∧
      a = .ofOperations (evaluate topic principal l.resources) := by
  cases answer with
  | error f => cases h
  | ok l =>
    simp only [evaluated?] at h
    split at h <;> cases h
    exact ⟨l, rfl, by assumption, rfl⟩

/-- What brokers' answers about topics say of a principal. -/
def readings (principal : String) (replies : List (TopicKey × Except Failure AclListing)) :
    List (TopicKey × TopicAccess) :=
  replies.filterMap fun r => (evaluated? r.1.topic principal r.2).map (r.1, ·)

theorem mem_readings {principal : String} {replies : List (TopicKey × Except Failure AclListing)}
    {k : TopicKey} {a : TopicAccess} :
    (k, a) ∈ readings principal replies ↔
      ∃ l, (k, .ok l) ∈ replies ∧ l.errorCode = 0 ∧
        a = .ofOperations (evaluate k.topic principal l.resources) := by
  simp only [readings, List.mem_filterMap, Option.map_eq_some_iff, Prod.mk.injEq]
  constructor
  · rintro ⟨⟨k', answer⟩, hm, a', ha, rfl, rfl⟩
    obtain ⟨l, rfl, hl, he⟩ := evaluated?_eq_some ha
    exact ⟨l, hm, hl, he⟩
  · rintro ⟨l, hm, hl, rfl⟩
    exact ⟨(k, .ok l), hm, _, by simp [evaluated?, hl], rfl, rfl⟩

namespace AccessCache

/-- Several answers stored at one time. -/
def storeAll (c : AccessCache) (now : Nat) (found : List (TopicKey × TopicAccess)) : AccessCache :=
  found.foldl (fun c x => c.store now x.1 x.2) c

/-- Of several answers the last about a topic is the one remembered. -/
theorem find?_storeAll (c : AccessCache) (now : Nat) (found : List (TopicKey × TopicAccess))
    (k : TopicKey) :
    (c.storeAll now found).entries.find? k =
      (((Table.ofList found).find? k).map (⟨·, now⟩)).or (c.entries.find? k) := by
  induction found generalizing c with
  | nil => simp [storeAll, Table.ofList]
  | cons x found ih =>
    have hlist : (Table.ofList (x :: found)).find? k =
        ((Table.ofList found).find? k).or ((Table.empty.insert x.1 x.2).find? k) :=
      Table.find?_foldl_insert found _ k
    rw [storeAll, List.foldl_cons, ← storeAll, ih, hlist, store, Table.find?_insert,
      Table.find?_insert]
    cases (Table.ofList found).find? k <;> split <;> simp

@[simp] theorem ttlMs_storeAll (c : AccessCache) (now : Nat)
    (found : List (TopicKey × TopicAccess)) : (c.storeAll now found).ttlMs = c.ttlMs := by
  induction found generalizing c with
  | nil => rfl
  | cons x found ih => exact ih _

end AccessCache

end Acl

namespace Services

open Acl

/-- Everything that asking brokers about a topic can come to: there is no handle to ask over, or an
answer comes, of which the finding is told. -/
theorem query_cases (s : Services) (c : Cluster) (principal topic : String) :
    (∃ f p, s.pool.getHandle c = (.error f, p) ∧
      s.query c principal topic = (.error (queryFailure topic f), { s with pool := p })) ∨
    ∃ h p q, s.pool.getHandle c = (.ok h, p) ∧
      q.fleet = (p.fleet.describeAcls h (.forTopic topic)).2 ∧ q.now = p.now ∧
      s.query c principal topic =
        ((finding topic principal (p.fleet.describeAcls h (.forTopic topic)).1).mapError
          (queryFailure topic), { s with pool := q, access := s.access.countQuery }) := by
  cases hg : s.pool.getHandle c with
  | mk r p =>
    cases r with
    | error f => exact .inl ⟨f, p, rfl, by simp [query, hg]⟩
    | ok h =>
      refine .inr ?_
      cases hf : finding topic principal (p.fleet.describeAcls h (.forTopic topic)).1 with
      | ok e =>
        exact ⟨h, p, { p with fleet := (p.fleet.describeAcls h (.forTopic topic)).2 }, rfl, rfl,
          rfl, by simp [query, hg, hf, Except.mapError]⟩
      | error f =>
        refine ⟨h, p, if f.retryable then
          { p with fleet := (p.fleet.describeAcls h (.forTopic topic)).2 }.markDisconnected c
          else { p with fleet := (p.fleet.describeAcls h (.forTopic topic)).2 }, rfl, ?_, ?_,
          by simp [query, hg, hf, Except.mapError]⟩
        all_goals
          split
          · simp only [Pool.markDisconnected]
            split <;> rfl
          · rfl

/-- What there is to remember of findings about topics of a cluster. -/
def keepable (c : Cluster) (answers : List (String × Except Failure Finding)) :
    List (TopicKey × TopicAccess) :=
  answers.filterMap fun x => (kept? x.2).map (⟨c.key, x.1⟩, ·)

/-- Brokers were asked about topics of a cluster over handles that are known, and what there is to
remember of the outcomes is what the brokers said and what tells what may be done. Nothing was
stored yet, and no time has passed. -/
structure Consulted (c : Cluster) (principal : String) (s : Services)
    (answers : List (String × Except Failure Finding)) (s' : Services) : Prop where
  heard : ∃ qs, s.pool.fleet.Hears qs s'.pool.fleet ∧
    ∀ q ∈ qs, ∃ k, s'.pool.fleet.key? q.1 = some k
  readings : readings principal (s.pool.fleet.replies s'.pool.fleet) = keepable c answers
  told : ∀ t e, (t, .ok e) ∈ answers → e.access.available = e.cacheable
  entries : s'.access.entries = s.access.entries
  ttlMs : s'.access.ttlMs = s.access.ttlMs
  now : s'.now = s.now

theorem Consulted.quiet (c : Cluster) (principal : String) {s s' : Services}
    {answers : List (String × Except Failure Finding)} (quiet : s.pool.fleet.Quiet s'.pool.fleet)
    (untold : ∀ t e, (t, .ok e) ∉ answers) (access : s'.access = s.access) (now : s'.now = s.now) :
    Consulted c principal s answers s' := by
  have hkeep : keepable c answers = [] := by
    apply List.filterMap_eq_nil_iff.mpr
    rintro ⟨t, r⟩ hm
    cases r with
    | error f => rfl
    | ok e => exact absurd hm (untold t e)
  refine ⟨⟨[], quiet.hears, by simp⟩, ?_, ?_, by rw [access], by rw [access], now⟩
  · rw [quiet.replies, hkeep]
    rfl
  · intro t e hm
    exact absurd hm (untold t e)

theorem Consulted.trans {c : Cluster} {principal : String} {s s' s'' : Services}
    {xs ys : List (String × Except Failure Finding)} (h : Consulted c principal s xs s')
    (h' : Consulted c principal s' ys s'') : Consulted c principal s (xs ++ ys) s'' := by
  obtain ⟨qs, hears, known⟩ := h.heard
  obtain ⟨rs, hears', known'⟩ := h'.heard
  refine ⟨⟨qs ++ rs, hears.trans hears', ?_⟩, ?_, ?_, h'.entries.trans h.entries,
    h'.ttlMs.trans h.ttlMs, h'.now.trans h.now⟩
  · intro q hq
    rcases List.mem_append.mp hq with hq | hq
    · obtain ⟨k, hk⟩ := known q hq
      exact ⟨k, hears'.key _ _ hk⟩
    · exact known' q hq
  · rw [hears.replies_append hears' known, Acl.readings, List.filterMap_append, ← Acl.readings,
      ← Acl.readings, h.readings, h'.readings, keepable, keepable, keepable, List.filterMap_append]
  · intro t e hm
    rcases List.mem_append.mp hm with hm | hm
    · exact h.told t e hm
    · exact h'.told t e hm

theorem Consulted.of_recount {c : Cluster} {principal : String} {s s' : Services} {n : AccessStats}
    {answers : List (String × Except Failure Finding)}
    (h : Consulted c principal (s.recount n) answers s') : Consulted c principal s answers s' :=
  ⟨h.heard, h.readings, h.told, h.entries, h.ttlMs, h.now⟩

theorem consulted_query {s : Services} (a : s.pool.Accounted) (c : Cluster)
    (principal topic : String) :
    Consulted c principal s [(topic, (s.query c principal topic).1)]
      (s.query c principal topic).2 := by
  have hq := s.pool.quiet_getHandle c
  have hn := s.pool.now_getHandle c
  rcases s.query_cases c principal topic with ⟨f, p, hg, he⟩ | ⟨h, p, q, hg, hf, hnow, he⟩
  · rw [hg] at hq hn
    rw [he]
    exact .quiet c principal hq (by simp) rfl hn
  · rw [hg] at hq hn
    have hkey := a.key_getHandle hg
    have hears := hq.hears.trans (Fleet.hears_describeAcls p.fleet h (.forTopic topic))
    rw [← hf] at hears
    have hknown : q.fleet.key? h = some c.key := by
      rw [hf]
      exact (Fleet.hears_describeAcls p.fleet h (.forTopic topic)).key h _ hkey
    rw [he]
    have hanswer : s.pool.fleet.replies q.fleet =
        [(⟨c.key, topic⟩, (p.fleet.describeAcls h (.forTopic topic)).1)] := by
      rw [Fleet.replies, hears.heard, ← hq.describes]
      simp only [Fleet.describeAcls]
      split
      · rename_i hd
        simp [show p.fleet.describes = _ from hd, Fleet.exchanges, Fleet.reply?, hknown,
          AclFilter.forTopic]
      · rename_i hd
        simp [show p.fleet.describes = _ from hd, Fleet.exchanges, Fleet.reply?, hknown,
          AclFilter.forTopic]
    refine ⟨⟨_, hears, by simp [hknown]⟩, ?_, ?_, rfl, rfl, hnow.trans hn⟩
    · rw [hanswer]
      simp [Acl.readings, keepable, kept?_finding, List.filterMap_cons]
    · intro t e hm
      cases hfound : finding topic principal (p.fleet.describeAcls h (.forTopic topic)).1 with
      | error f => simp [hfound, Except.mapError] at hm
      | ok e' =>
        simp only [hfound, Except.mapError, List.mem_singleton, Prod.mk.injEq,
          Except.ok.injEq] at hm
        rw [hm.2]
        exact available_finding hfound

/-- A list of queries stores nothing by itself; what there is to remember is what brokers said. -/
theorem consulted_queryEach {s : Services} (a : s.pool.Accounted) (c : Cluster)
    (principal : String) (topics : List String) :
    Consulted c principal s (queryEach c principal topics s).1
      (queryEach c principal topics s).2 := by
  induction topics generalizing s with
  | nil => exact .quiet c principal (.refl _) (by simp [queryEach]) rfl rfl
  | cons t ts ih =>
    have ha := (s.moves_query c principal t).accounted a
    exact (consulted_query a c principal t).trans (ih ha)

/-- Settling stores what there is to remember, also when it fails. -/
theorem settle_snd (c : Cluster) (answers : List (String × Except Failure Finding))
    (s : Services) :
    (settle c answers s).2 =
      { s with access := s.access.storeAll s.now (keepable c answers) } := by
  induction answers generalizing s with
  | nil => rfl
  | cons x answers ih =>
    obtain ⟨t, r⟩ := x
    cases r with
    | error f => exact ih s
    | ok e =>
      have h : (settle c ((t, .ok e) :: answers) s).2 =
          (settle c answers (s.remember ⟨c.key, t⟩ e)).2 := by
        simp only [settle]
        split <;> simp [*]
      rw [h, ih]
      cases hc : e.cacheable <;> simp [remember, keepable, kept?, hc, AccessCache.storeAll, now]

end Services

end ClusterAdmin
