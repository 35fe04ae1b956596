import ClusterAdmin.Proofs.Remembering

namespace ClusterAdmin

open Acl

theorem exists_of_map_ok {α β : Type} {f : α → β} {r : Except Failure α} {b : β}
    (h : r.map f = .ok b) : ∃ a, r = .ok a ∧ f a = b := by
  cases r <;> simp_all [Except.map]

namespace Services

theorem nodup_eraseDups (topics : List String) : topics.eraseDups.Nodup := by
  generalize hn : topics.length = n
  induction n using Nat.strongRecOn generalizing topics with
  | ind n ih =>
    cases topics with
    | nil => exact .nil
    | cons t ts =>
      rw [List.eraseDups_cons, List.nodup_cons]
      refine ⟨by simp [List.mem_eraseDups], ih _ ?_ _ rfl⟩
      have hle := List.length_filter_le (fun b => !b == t) ts
      rw [List.length_cons] at hn
      omega

theorem queryEach_topics (c : Cluster) (principal : String) (topics : List String)
    (s : Services) : (queryEach c principal topics s).1.map (·.1) = topics := by
  induction topics generalizing s with
  | nil => rfl
  | cons t ts ih => exact congrArg (t :: ·) (ih _)

/-- Settling succeeds if there is a finding about each topic, and answers with these. -/
theorem settle_ok {c : Cluster} {answers : List (String × Except Failure Finding)} {s : Services}
    {found : List (String × TopicAccess)} (h : (settle c answers s).1 = .ok found) :
    ∃ es : List (String × Finding), answers = es.map (fun x => (x.1, .ok x.2)) ∧
      found = es.map fun x => (x.1, x.2.access) := by
  induction answers generalizing s found with
  | nil =>
    cases h
    exact ⟨[], rfl, rfl⟩
  | cons x answers ih =>
    obtain ⟨t, r⟩ := x
    cases r with
    | error f => cases h
    | ok e =>
      simp only [settle] at h
      split at h
      · rename_i more s' hs
        cases h
        obtain ⟨es, rfl, rfl⟩ := ih (congrArg Prod.fst hs)
        exact ⟨(t, e) :: es, rfl, rfl⟩
      · cases h

/-- Where an answer of a call comes from: from memory; from a credential that tells no principal; or
from brokers, and then it is stored if it tells what may be done. -/
inductive Source (s : Services) (a : Action) (c : Cluster) (credential : Credential)
    (topic : String) (b : TopicAccess) : Prop
  | memory (recalled : s.recalled c topic = some b)
  | credential {why : String} (missed : s.recalled c topic = none)
    (underivable : Principal.ofCredential credential = .underivable why)
    (answer : b = .unavailable why)
  | brokers {principal : String} (missed : s.recalled c topic = none)
    (user : Principal.ofCredential credential = .user principal)
    (stored : (⟨s, a⟩ : Moment).stored? ⟨c.key, topic⟩ = if b.available then some b else none)

/-- What is stored of the outcome about one of several different topics. -/
theorem Consulted.stored? {c : Cluster} {principal : String} {s mid : Services}
    {answers : List (String × Except Failure Finding)} (h : Consulted c principal s answers mid)
    (a : Action) (hp : a.principal? = some principal) (hpool : (s.act a).pool = mid.pool)
    (nodup : (answers.map (·.1)).Nodup) {t : String} {r : Except Failure Finding}
    (hm : (t, r) ∈ answers) : (⟨s, a⟩ : Moment).stored? ⟨c.key, t⟩ = kept? r := by
  have hunique : ∀ r', (t, r') ∈ answers → r' = r := by
    intro r' hm'
    have hl := (Table.lookup_eq_some_iff nodup t r).mpr hm
    rw [(Table.lookup_eq_some_iff nodup t r').mpr hm'] at hl
    exact Option.some.inj hl
  rw [Moment.stored?, hp, Option.bind_some, Moment.replies, Moment.after, hpool, h.readings]
  apply Table.find?_ofList_eq
  intro b
  simp only [keepable, List.mem_filterMap, Option.map_eq_some_iff, Prod.mk.injEq,
    TopicKey.mk.injEq, true_and]
  constructor
  · rintro ⟨⟨t', r'⟩, hm', a', ha, rfl, rfl⟩
    rw [← hunique r' hm', ha]
  · intro hb
    exact ⟨(t, r), hm, b, hb, rfl, rfl⟩

theorem Consulted.kept?_ok {c : Cluster} {principal : String} {s mid : Services}
    {answers : List (String × Except Failure Finding)} (h : Consulted c principal s answers mid)
    {t : String} {e : Finding} (hm : (t, .ok e) ∈ answers) :
    kept? (.ok e) = if e.access.available then some e.access else none := by
  rw [kept?, h.told t e hm]

section

variable {s : Services} {c : Cluster} {credential : Credential} {principal : String}

/-- A call about a topic that is not remembered comes to a query. -/
theorem topicAccess_query {topic : String} (missed : s.recalled c topic = none)
    (user : Principal.ofCredential credential = .user principal) :
    (s.topicAccess c topic credential).1 = (s.query c principal topic).1.map (·.access) ∧
      (s.topicAccess c topic credential).2.pool = (s.query c principal topic).2.pool := by
  obtain ⟨m, hm⟩ := s.query_recount (s.countLookup false) c principal topic
  rw [topicAccess_eq, missed, user]
  simp only [hm]
  cases hq : s.query c principal topic with
  | mk r s' => cases r <;> simp [Except.map]

/-- What is stored by a call about a topic that was not remembered is what its query found. -/
theorem stored?_topicAccess {topic : String} (acc : s.pool.Accounted)
    (missed : s.recalled c topic = none)
    (user : Principal.ofCredential credential = .user principal) :
    (⟨s, .topicAccess c topic credential⟩ : Moment).stored? ⟨c.key, topic⟩ =
      kept? (s.query c principal topic).1 :=
  (consulted_query acc c principal topic).stored? (.topicAccess c topic credential)
    (by simp [Action.principal?, user]) (topicAccess_query missed user).2 (by simp) (by simp)

end

/-- What a call about a topic stores is also its answer. -/
theorem topicAccess_of_stored? {s : Services} (acc : s.pool.Accounted) {c : Cluster}
    {topic : String} {credential : Credential} {b : TopicAccess}
    (missed : s.recalled c topic = none)
    (h : (⟨s, .topicAccess c topic credential⟩ : Moment).stored? ⟨c.key, topic⟩ = some b) :
    (s.topicAccess c topic credential).1 = .ok b := by
  cases hp : Principal.ofCredential credential with
  | underivable why => simp [Moment.stored?, Action.principal?, hp] at h
  | user principal =>
    rw [stored?_topicAccess acc missed hp] at h
    rw [(topicAccess_query missed hp).1]
    cases hq : (s.query c principal topic).1 with
    | error f =>
      rw [hq] at h
      cases h
    | ok e =>
      rw [hq, kept?] at h
      split at h <;> cases h
      rfl

theorem source_topicAccess {s : Services} (acc : s.pool.Accounted) (c : Cluster) (topic : String)
    (credential : Credential) {b : TopicAccess}
    (h : (s.topicAccess c topic credential).1 = .ok b) :
    Source s (.topicAccess c topic credential) c credential topic b := by
  cases hr : s.recalled c topic with
  | some a =>
    rw [topicAccess_eq, hr] at h
    cases h
    exact .memory hr
  | none =>
    cases hp : Principal.ofCredential credential with
    | underivable why =>
      rw [topicAccess_eq, hr, hp] at h
      cases h
      exact .credential hr hp rfl
    | user principal =>
      refine .brokers hr hp ?_
      rw [(topicAccess_query hr hp).1] at h
      have hc := consulted_query acc c principal topic
      rw [stored?_topicAccess acc hr hp]
      cases hq : (s.query c principal topic).1 with
      | error f =>
        rw [hq] at h
        cases h
      | ok e =>
        rw [hq] at h hc
        cases h
        exact hc.kept?_ok (List.mem_singleton.mpr rfl)

theorem queryEach_recount (c : Cluster) (principal : String) (topics : List String)
    (s : Services) (n : AccessStats) :
    ∃ m, queryEach c principal topics (s.recount n) =
      ((queryEach c principal topics s).1, (queryEach c principal topics s).2.recount m) := by
  induction topics generalizing s n with
  | nil => exact ⟨n, rfl⟩
  | cons t ts ih =>
    obtain ⟨m, hm⟩ := s.query_recount n c principal t
    obtain ⟨m', hm'⟩ := ih (s.query c principal t).2 m
    exact ⟨m', by simp only [queryEach, hm, hm']⟩

/-- The answer to a settled list of findings hangs on the findings alone. -/
theorem settle_fst (c : Cluster) (answers : List (String × Except Failure Finding))
    (s s' : Services) : (settle c answers s).1 = (settle c answers s').1 := by
  induction answers generalizing s s' with
  | nil => rfl
  | cons x answers ih =>
    obtain ⟨t, r⟩ := x
    cases r with
    | error f => rfl
    | ok e =>
      have h := ih (s.remember ⟨c.key, t⟩ e) (s'.remember ⟨c.key, t⟩ e)
      simp only [settle]
      split <;> split <;> simp_all

section

variable {s : Services} {c : Cluster} {credential : Credential} {principal : String}
  {topics : List String}

/-- A call about several topics comes to a query for each one that is not remembered. -/
theorem topicAccesses_query (user : Principal.ofCredential credential = .user principal) :
    (s.topicAccesses c topics credential).1 =
        (settle c (queryEach c principal (s.unknown c topics.eraseDups) s).1 s).1.map
          (s.known c topics.eraseDups ++ ·) ∧
      (s.topicAccesses c topics credential).2.pool =
        (queryEach c principal (s.unknown c topics.eraseDups) s).2.pool := by
  obtain ⟨n, hn⟩ := s.topicAccesses_eq c topics credential
  obtain ⟨m, hm⟩ := queryEach_recount c principal (s.unknown c topics.eraseDups) s n
  rw [hn, user]
  simp only [hm]
  cases hu : s.unknown c topics.eraseDups with
  | nil => simp [queryEach, settle, Except.map]
  | cons t ts =>
    simp only [List.isEmpty_cons, Bool.false_eq_true, ↓reduceIte]
    rw [settle_fst c _ s ((queryEach c principal (t :: ts) s).2.recount m)]
    have hpool := pool_settle c (queryEach c principal (t :: ts) s).1
      ((queryEach c principal (t :: ts) s).2.recount m)
    split
    all_goals
      rename_i hs
      rw [hs] at hpool ⊢
      exact ⟨rfl, hpool⟩

theorem topicAccesses_underivable {why : String}
    (underivable : Principal.ofCredential credential = .underivable why) :
    (s.topicAccesses c topics credential).1 =
        .ok (s.known c topics.eraseDups ++
          (s.unknown c topics.eraseDups).map (·, TopicAccess.unavailable why)) ∧
      (s.topicAccesses c topics credential).2.pool = s.pool := by
  obtain ⟨n, hn⟩ := s.topicAccesses_eq c topics credential
  rw [hn, underivable]
  cases hu : s.unknown c topics.eraseDups with
  | nil => simp
  | cons t ts => simp

theorem stored?_topicAccesses {t : String} {r : Except Failure Finding} (acc : s.pool.Accounted)
    (user : Principal.ofCredential credential = .user principal)
    (hm : (t, r) ∈ (queryEach c principal (s.unknown c topics.eraseDups) s).1) :
    (⟨s, .topicAccesses c topics credential⟩ : Moment).stored? ⟨c.key, t⟩ = kept? r := by
  refine (consulted_queryEach acc c principal _).stored? (.topicAccesses c topics credential)
    (by simp [Action.principal?, user]) (topicAccesses_query user).2 ?_ hm
  rw [queryEach_topics]
  exact (nodup_eraseDups topics).filter _

/-- A batch answers about each of its topics once. -/
theorem topics_topicAccesses {answers : List (String × TopicAccess)}
    (h : (s.topicAccesses c topics credential).1 = .ok answers) :
    (answers.map (·.1)).Perm topics.eraseDups := by
  have hsplit : ((s.known c topics.eraseDups).map (·.1) ++ s.unknown c topics.eraseDups).Perm
      topics.eraseDups := by
    have hknown : (s.known c topics.eraseDups).map (·.1) =
        topics.eraseDups.filter fun t => !(s.recalled c t).isNone := by
      rw [known, List.map_filterMap, ← List.filterMap_eq_filter]
      congr 1
      funext t
      cases hr : s.recalled c t <;> simp [Option.guard, hr]
    rw [hknown]
    exact List.perm_append_comm.trans (List.filter_append_perm _ _)
  cases hp : Principal.ofCredential credential with
  | underivable why =>
    rw [(topicAccesses_underivable hp).1] at h
    cases h
    simpa [Function.comp_def] using hsplit
  | user principal =>
    rw [(topicAccesses_query hp).1] at h
    obtain ⟨found, hf, rfl⟩ := exists_of_map_ok h
    obtain ⟨es, he, rfl⟩ := settle_ok hf
    have ht := queryEach_topics c principal (s.unknown c topics.eraseDups) s
    rw [he] at ht
    simpa [← ht, Function.comp_def] using hsplit

theorem mem_known {t : String} {b : TopicAccess} {ts : List String}
    (h : (t, b) ∈ s.known c ts) : s.recalled c t = some b := by
  obtain ⟨t', -, ht⟩ := List.mem_filterMap.mp h
  obtain ⟨b', hb, he⟩ := Option.map_eq_some_iff.mp ht
  cases he
  exact hb

theorem mem_unknown {t : String} {ts : List String} (h : t ∈ s.unknown c ts) :
    s.recalled c t = none := by
  simpa using (List.mem_filter.mp h).2

theorem source_topicAccesses (acc : s.pool.Accounted) {answers : List (String × TopicAccess)}
    (h : (s.topicAccesses c topics credential).1 = .ok answers) {t : String} {b : TopicAccess}
    (hm : (t, b) ∈ answers) : Source s (.topicAccesses c topics credential) c credential t b := by
  cases hp : Principal.ofCredential credential with
  | underivable why =>
    rw [(topicAccesses_underivable hp).1] at h
    cases h
    rcases List.mem_append.mp hm with hm | hm
    · exact .memory (mem_known hm)
    · obtain ⟨t', ht, he⟩ := List.mem_map.mp hm
      cases he
      exact .credential (mem_unknown ht) hp rfl
  | user principal =>
    rw [(topicAccesses_query hp).1] at h
    obtain ⟨found, hf, rfl⟩ := exists_of_map_ok h
    rcases List.mem_append.mp hm with hm | hm
    · exact .memory (mem_known hm)
    · obtain ⟨es, he, rfl⟩ := settle_ok hf
      obtain ⟨⟨t, e⟩, hx, hxe⟩ := List.mem_map.mp hm
      cases hxe
      have hmem : (t, .ok e) ∈ (queryEach c principal (s.unknown c topics.eraseDups) s).1 := by
        rw [he]
        exact List.mem_map.mpr ⟨(t, e), hx, rfl⟩
      have ht : t ∈ s.unknown c topics.eraseDups := by
        rw [← queryEach_topics c principal (s.unknown c topics.eraseDups) s]
        exact List.mem_map.mpr ⟨_, hmem, rfl⟩
      refine .brokers (mem_unknown ht) hp ?_
      rw [stored?_topicAccesses acc hp hmem]
      exact (consulted_queryEach acc c principal _).kept?_ok hmem

end

/-- What was not stored is not recalled later, if it was not recalled before. -/
theorem recalled_act {s : Services} (acc : s.pool.Accounted) (a : Action) {c : Cluster}
    {topic : String} (missed : s.recalled c topic = none)
    (hs : (⟨s, a⟩ : Moment).stored? ⟨c.key, topic⟩ = none) {later : Nat} (hl : s.now ≤ later) :
    ((s.act a).setNow later).recalled c topic = none := by
  have hfind := find?_act acc a ⟨c.key, topic⟩
  rw [hs] at hfind
  have hage : ∀ e, s.access.entries.find? ⟨c.key, topic⟩ = some e →
      ¬later - e.storedAt < s.access.ttlMs := by
    intro e he
    rw [recalled, AccessCache.fresh?, he] at missed
    simp only [ite_eq_right_iff, reduceCtorEq, imp_false] at missed
    omega
  change (s.act a).access.fresh? later ⟨c.key, topic⟩ = none
  rw [AccessCache.fresh?, ttlMs_act acc, hfind]
  cases a.clears ⟨c.key, topic⟩ with
  | true => rfl
  | false =>
    cases he : s.access.entries.find? ⟨c.key, topic⟩ with
    | none => rfl
    | some e => simp [hage e he]

end Services

namespace Run

variable {past : List Moment} {s : Services}

/-- An answer is recalled if it was stored, not cleared or replaced since, and is young enough. -/
theorem recalled_eq_some_iff (run : Run past s) (c : Cluster) (topic : String) (a : TopicAccess) :
    s.recalled c topic = some a ↔
      ∃ m, Since (Moment.Passes ⟨c.key, topic⟩) past m ∧ m.stored? ⟨c.key, topic⟩ = some a ∧
        s.now - m.before.now < s.access.ttlMs := by
  rw [Services.recalled_eq_some]
  constructor
  · rintro ⟨e, he, rfl, hage⟩
    obtain ⟨m, hm, hs, ht⟩ := (run.find?_eq_some_iff _ e).mp he
    exact ⟨m, hm, hs, ht ▸ hage⟩
  · rintro ⟨m, hm, hs, hage⟩
    exact ⟨⟨a, m.before.now⟩, (run.find?_eq_some_iff _ _).mpr ⟨m, hm, hs, rfl⟩, rfl, hage⟩

/-- Something is recalled about a topic if anything that was stored and not cleared since is young
enough. -/
theorem recalled_isSome_iff (run : Run past s) (c : Cluster) (topic : String) :
    (s.recalled c topic).isSome ↔
      ∃ m, Since (Moment.Keeps ⟨c.key, topic⟩) past m ∧ (m.stored? ⟨c.key, topic⟩).isSome ∧
        s.now - m.before.now < s.access.ttlMs := by
  constructor
  · intro h
    obtain ⟨a, ha⟩ := Option.isSome_iff_exists.mp h
    obtain ⟨m, hm, hs, hage⟩ := (run.recalled_eq_some_iff c topic a).mp ha
    exact ⟨m, hm.imp fun _ hp => hp.1, by simp [hs], hage⟩
  · rintro ⟨m, hm, hs, hage⟩
    obtain ⟨m', hm', hs', hle⟩ := run.exists_passes hm hs
    obtain ⟨a, ha⟩ := Option.isSome_iff_exists.mp hs'
    exact Option.isSome_iff_exists.mpr
      ⟨a, (run.recalled_eq_some_iff c topic a).mpr ⟨m', hm', ha, by omega⟩⟩

end Run

/-- What is remembered was worked out from brokers' answers without an error and is used as long as
it is young enough; all else is asked about again. -/
structure Faithful (past : List Moment) (s : Services) : Prop where
  /-- Every entry tells what may be done, and that from a broker's answer to whoever asked. -/
  entries : ∀ k e, s.access.entries.find? k = some e →
    e.access.available = true ∧ e.access.error = none ∧
    ∃ m ∈ past, ∃ principal l, m.action.principal? = some principal ∧ (k, .ok l) ∈ m.replies ∧
      l.errorCode = 0 ∧ e.access.operations = evaluate k.topic principal l.resources ∧
      m.before.now = e.storedAt
  /-- A look-up finds something exactly if something young enough was stored and not cleared
  since. -/
  found : ∀ c topic, (s.recalled c topic).isSome ↔
    ∃ m, Since (Moment.Keeps ⟨c.key, topic⟩) past m ∧ (m.stored? ⟨c.key, topic⟩).isSome ∧
      s.now - m.before.now < s.access.ttlMs
  /-- It finds the latest of what was stored. -/
  latest : ∀ c topic a, s.recalled c topic = some a →
    ∃ m, Since (Moment.Passes ⟨c.key, topic⟩) past m ∧ m.stored? ⟨c.key, topic⟩ = some a
  /-- What is found is the answer, and nothing but the count of look-ups changes. -/
  hit : ∀ c topic credential a, s.recalled c topic = some a →
    s.topicAccess c topic credential = (.ok a, s.recount (s.countLookup true))
  /-- What is not found is asked for, if the credential tells a principal. -/
  miss : ∀ c topic credential principal, s.recalled c topic = none →
    Principal.ofCredential credential = .user principal →
    (s.topicAccess c topic credential).1 = (s.query c principal topic).1.map (·.access) ∧
      (s.topicAccess c topic credential).2.pool = (s.query c principal topic).2.pool
  /-- A batch answers about each topic once, and as remembered where something is found. -/
  hits : ∀ c topics credential answers, (s.topicAccesses c topics credential).1 = .ok answers →
    (answers.map (·.1)).Perm topics.eraseDups ∧
      ∀ t b a, (t, b) ∈ answers → s.recalled c t = some a → b = a
  /-- A batch asks about just the topics of which nothing is found. -/
  misses : ∀ c topics credential principal, Principal.ofCredential credential = .user principal →
    (s.topicAccesses c topics credential).2.pool =
      (Services.queryEach c principal (s.unknown c topics.eraseDups) s).2.pool
  /-- Without a principal nobody is asked, about one topic or several. -/
  unasked : ∀ c topic topics credential why,
    Principal.ofCredential credential = .underivable why →
    (s.topicAccess c topic credential).2.pool = s.pool ∧
      (s.topicAccesses c topics credential).2.pool = s.pool
  /-- Whatever is done, a topic about which no broker answers without an error is not found
  later. -/
  unanswered : ∀ a c topic, s.recalled c topic = none →
    (∀ l, (⟨c.key, topic⟩, .ok l) ∈ (⟨s, a⟩ : Moment).replies → l.errorCode ≠ 0) →
    ∀ later, s.now ≤ later → ((s.act a).setNow later).recalled c topic = none
  /-- A failure, or an answer that does not tell what may be done, is not found later. -/
  untold : ∀ c topic credential, s.recalled c topic = none →
    (∀ b, (s.topicAccess c topic credential).1 = .ok b → b.available = false) →
    ∀ later, s.now ≤ later →
      ((s.topicAccess c topic credential).2.setNow later).recalled c topic = none
  /-- Nor is an answer of a batch that does not tell what may be done. -/
  untoldEach : ∀ c topics credential answers t b,
    (s.topicAccesses c topics credential).1 = .ok answers → (t, b) ∈ answers →
    b.available = false → s.recalled c t = none →
    ∀ later, s.now ≤ later →
      ((s.topicAccesses c topics credential).2.setNow later).recalled c t = none

/-- In every state that the services can come to, memory is faithful to what brokers said. -/
theorem memory_faithful {past : List Moment} {s : Services} (run : Run past s) :
    Faithful past s where
  entries := by
    intro k e he
    obtain ⟨m, hm, hs, ht⟩ := (run.find?_eq_some_iff k e).mp he
    obtain ⟨principal, l, hp, hl, hcode, ha⟩ := Moment.exists_of_stored? hs
    rw [ha]
    exact ⟨rfl, rfl, m, hm.mem, principal, l, hp, hl, hcode, rfl, ht⟩
  found := run.recalled_isSome_iff
  latest := by
    intro c topic a h
    obtain ⟨m, hm, hs, -⟩ := (run.recalled_eq_some_iff c topic a).mp h
    exact ⟨m, hm, hs⟩
  hit := by
    intro c topic credential a h
    rw [Services.topicAccess_eq, h]
  miss := fun _ _ _ _ missed user => Services.topicAccess_query missed user
  hits := by
    intro c topics credential answers h
    refine ⟨Services.topics_topicAccesses h, ?_⟩
    intro t b a hm ha
    cases Services.source_topicAccesses run.accounted h hm with
    | memory recalled => exact Option.some.inj (recalled.symm.trans ha)
    | credential missed => simp [ha] at missed
    | brokers missed => simp [ha] at missed
  misses := fun _ _ _ _ user => (Services.topicAccesses_query user).2
  unasked := by
    intro c topic topics credential why h
    refine ⟨?_, (Services.topicAccesses_underivable h).2⟩
    rw [Services.topicAccess_eq, h]
    cases s.recalled c topic <;> rfl
  unanswered := by
    intro a c topic missed hl
    refine fun later => Services.recalled_act run.accounted a missed ?_
    rw [Option.eq_none_iff_forall_not_mem]
    intro b hb
    obtain ⟨principal, l, -, hm, hcode, -⟩ := Moment.exists_of_stored? hb
    exact hl l hm hcode
  untold := by
    intro c topic credential missed hb
    refine fun later =>
      Services.recalled_act run.accounted (.topicAccess c topic credential) missed ?_
    rw [Option.eq_none_iff_forall_not_mem]
    intro b hs
    obtain ⟨principal, l, hp, -, -, rfl⟩ := Moment.exists_of_stored? hs
    have h := hb _ (Services.topicAccess_of_stored? run.accounted missed hs)
    cases h
  untoldEach := by
    intro c topics credential answers t b h hm hb missed
    refine fun later =>
      Services.recalled_act run.accounted (.topicAccesses c topics credential) missed ?_
    cases Services.source_topicAccesses run.accounted h hm with
    | memory recalled => simp [recalled] at missed
    | credential _ underivable => simp [Moment.stored?, Action.principal?, underivable]
    | brokers _ _ stored => simpa [hb] using stored

/-- An answer that was stored a second ago is found and given to another user. -/
theorem memory_faithful_reused :
    let c := Cluster.behind "conn" "main" "localhost:9092"
    let asked := [.topicAccess c "orders" (.ofUser "alice"), .wait 1000].foldl Services.act .idle
    asked.topicAccess c "orders" (.ofUser "bob") =
        (.ok (.ofOperations everyTopicOperation), asked.recount (asked.countLookup true)) ∧
      ∃ m, Since (Moment.Keeps ⟨c.key, "orders"⟩)
        (moments .idle [.topicAccess c "orders" (.ofUser "alice"), .wait 1000]) m ∧
        (m.stored? ⟨c.key, "orders"⟩).isSome ∧ asked.now - m.before.now < asked.access.ttlMs := by
  intro c asked
  have faithful := memory_faithful
    (Run.idle.acts [.topicAccess c "orders" (.ofUser "alice"), .wait 1000])
  have hr : asked.recalled c "orders" = some (.ofOperations everyTopicOperation) := by
    decide
  exact ⟨faithful.hit c "orders" (.ofUser "bob") _ hr,
    (faithful.found c "orders").mp (Option.isSome_iff_exists.mpr ⟨_, hr⟩)⟩

end ClusterAdmin
