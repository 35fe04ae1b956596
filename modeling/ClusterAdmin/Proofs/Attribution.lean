import ClusterAdmin.Proofs.Recollection

namespace ClusterAdmin

open Acl

/-- A call in the name of a credential answers about a topic of a cluster. -/
inductive Answered (s : Services) :
    Action → Cluster → Credential → String → TopicAccess → Prop
  | one {c : Cluster} {topic : String} {credential : Credential} {b : TopicAccess}
    (answer : (s.topicAccess c topic credential).1 = .ok b) :
    Answered s (.topicAccess c topic credential) c credential topic b
  | among {c : Cluster} {topics : List String} {credential : Credential}
    {answers : List (String × TopicAccess)} {topic : String} {b : TopicAccess}
    (answer : (s.topicAccesses c topics credential).1 = .ok answers)
    (mem : (topic, b) ∈ answers) :
    Answered s (.topicAccesses c topics credential) c credential topic b

namespace Answered

variable {s : Services} {a : Action} {c : Cluster} {credential : Credential} {topic : String}
  {b : TopicAccess}

theorem source (h : Answered s a c credential topic b) (acc : s.pool.Accounted) :
    s.Source a c credential topic b := by
  cases h with
  | one answer => exact Services.source_topicAccess acc c topic credential answer
  | among answer mem => exact Services.source_topicAccesses acc answer mem

theorem principal? (h : Answered s a c credential topic b) {principal : String}
    (hp : a.principal? = some principal) : Principal.ofCredential credential = .user principal := by
  cases h with
  | one | among =>
    simp only [Action.principal?] at hp
    split at hp
    · cases hp
      assumption
    · cases hp

/-- What an answer tells was stored in a moment: now if nothing was remembered, else in the latest
moment since which it was neither cleared nor replaced, and not too long ago. -/
theorem stored {past : List Moment} (h : Answered s a c credential topic b) (run : Run past s)
    (hb : b.available = true) :
    ∃ m ∈ past ++ [⟨s, a⟩], m.stored? ⟨c.key, topic⟩ = some b ∧
      (s.recalled c topic = none → m = ⟨s, a⟩) ∧
      (s.recalled c topic ≠ none →
        Since (Moment.Passes ⟨c.key, topic⟩) past m ∧ s.now - m.before.now < s.access.ttlMs) := by
  cases h.source run.accounted with
  | memory recalled =>
    obtain ⟨m, hm, hs, hage⟩ := (run.recalled_eq_some_iff c topic b).mp recalled
    refine ⟨m, List.mem_append_left _ hm.mem, hs, ?_, fun _ => ⟨hm, hage⟩⟩
    intro hnone
    rw [hnone] at recalled
    cases recalled
  | credential _ _ answer =>
    rw [answer] at hb
    cases hb
  | brokers missed _ stored =>
    rw [if_pos hb] at stored
    exact ⟨⟨s, a⟩, by simp, stored, fun _ => rfl, fun hne => absurd missed hne⟩

end Answered

namespace Services

/-- A query hangs on the pool and nothing else. -/
theorem query_congr {s s' : Services} (h : s'.pool = s.pool) (c : Cluster)
    (principal topic : String) :
    (s'.query c principal topic).1 = (s.query c principal topic).1 ∧
      (s'.query c principal topic).2.pool = (s.query c principal topic).2.pool := by
  simp only [query, h]
  split
  · exact ⟨rfl, rfl⟩
  · split <;> exact ⟨rfl, rfl⟩

theorem queryEach_congr {s s' : Services} (h : s'.pool = s.pool) (c : Cluster)
    (principal : String) (topics : List String) :
    (queryEach c principal topics s').1 = (queryEach c principal topics s).1 := by
  induction topics generalizing s s' with
  | nil => rfl
  | cons t ts ih =>
    obtain ⟨hr, hp⟩ := query_congr h c principal t
    simp only [queryEach, hr, ih hp]

theorem topicAccess_congr {s s' : Services} {c : Cluster} {topic : String}
    (h : s'.pool = s.pool) (hr : s'.recalled c topic = s.recalled c topic)
    (credential : Credential) :
    (s'.topicAccess c topic credential).1 = (s.topicAccess c topic credential).1 := by
  cases hs : s.recalled c topic with
  | some a => simp only [topicAccess_eq, hr, hs]
  | none =>
    cases hp : Principal.ofCredential credential with
    | underivable why => simp only [topicAccess_eq, hr, hs, hp]
    | user principal =>
      rw [(topicAccess_query (hr.trans hs) hp).1, (topicAccess_query hs hp).1,
        (query_congr h c principal topic).1]

theorem topicAccesses_congr {s s' : Services} {c : Cluster} {topics : List String}
    (h : s'.pool = s.pool) (hr : ∀ t ∈ topics, s'.recalled c t = s.recalled c t)
    (credential : Credential) :
    (s'.topicAccesses c topics credential).1 = (s.topicAccesses c topics credential).1 := by
  have hdup : ∀ t ∈ topics.eraseDups, s'.recalled c t = s.recalled c t :=
    fun t ht => hr t (List.mem_eraseDups.mp ht)
  have hknown := known_congr hdup
  have hunknown := unknown_congr hdup
  cases hp : Principal.ofCredential credential with
  | underivable why =>
    rw [(topicAccesses_underivable hp).1, (topicAccesses_underivable hp).1, hknown, hunknown]
  | user principal =>
    rw [(topicAccesses_query hp).1, (topicAccesses_query hp).1, hknown, hunknown,
      queryEach_congr h, settle_fst c _ s' s]

end Services

/-- An answer that tells what may be done is what a broker's rules let a principal do: the one who
asks, if nothing was remembered; else the one who asked when the answer was stored. So it is for the
one who asks if nobody else had an answer about the topic stored. On other users' calls an answer
hangs only as far as they left something in memory about its topic. -/
theorem answers_attributed {past : List Moment} {s : Services} (run : Run past s) :
    (∀ a c credential topic b, Answered s a c credential topic b → b.available = true →
      ∃ m ∈ past ++ [⟨s, a⟩], ∃ principal l, m.action.principal? = some principal ∧
        (⟨c.key, topic⟩, .ok l) ∈ m.replies ∧ l.errorCode = 0 ∧
        b.operations = evaluate topic principal l.resources ∧
        (s.recalled c topic = none →
          m = ⟨s, a⟩ ∧ Principal.ofCredential credential = .user principal) ∧
        (s.recalled c topic ≠ none →
          Since (Moment.Passes ⟨c.key, topic⟩) past m ∧
            s.now - m.before.now < s.access.ttlMs)) ∧
    (∀ a c credential topic b own, Answered s a c credential topic b → b.available = true →
      Principal.ofCredential credential = .user own →
      (∀ m ∈ past, m.action.principal? ≠ some own → m.stored? ⟨c.key, topic⟩ = none) →
      ∃ m ∈ past ++ [⟨s, a⟩], ∃ l, (⟨c.key, topic⟩, .ok l) ∈ m.replies ∧ l.errorCode = 0 ∧
        b.operations = evaluate topic own l.resources) ∧
    (∀ (s' : Services) c topic credential, s'.pool = s.pool →
      s'.recalled c topic = s.recalled c topic →
      (s'.topicAccess c topic credential).1 = (s.topicAccess c topic credential).1) ∧
    (∀ (s' : Services) c topics credential, s'.pool = s.pool →
      (∀ t ∈ topics, s'.recalled c t = s.recalled c t) →
      (s'.topicAccesses c topics credential).1 = (s.topicAccesses c topics credential).1) := by
  refine ⟨?_, ?_, fun s' c topic credential h hr => Services.topicAccess_congr h hr credential,
    fun s' c topics credential h hr => Services.topicAccesses_congr h hr credential⟩
  · intro a c credential topic b h hb
    obtain ⟨m, hm, hs, hnow, hpast⟩ := h.stored run hb
    obtain ⟨principal, l, hp, hl, hcode, he⟩ := Moment.exists_of_stored? hs
    refine ⟨m, hm, principal, l, hp, hl, hcode, by rw [he]; rfl, ?_, hpast⟩
    intro hnone
    obtain rfl := hnow hnone
    exact ⟨rfl, h.principal? hp⟩
  · intro a c credential topic b own h hb hown honly
    obtain ⟨m, hm, hs, hnow, hpast⟩ := h.stored run hb
    obtain ⟨principal, l, hp, hl, hcode, he⟩ := Moment.exists_of_stored? hs
    have hsame : principal = own := by
      rcases List.mem_append.mp hm with hm | hm
      · by_contra hne
        have hother : m.action.principal? ≠ some own := by
          rw [hp]
          exact fun h => hne (Option.some.inj h)
        rw [honly m hm hother] at hs
        cases hs
      · obtain rfl := List.mem_singleton.mp hm
        have huser := h.principal? hp
        rw [hown] at huser
        cases huser
        rfl
    subst hsame
    exact ⟨m, hm, l, hl, hcode, by rw [he]; rfl⟩

/-- Rules that let alice read the topic of orders, and nobody else do anything. -/
def readableByAlice : AclListing :=
  ⟨0, none, [⟨.topic, "orders", .literal, [.anywhere "User:alice" .read .allow]⟩]⟩

/-- Alice asks about a topic that only she may read. -/
def askedByAlice : List Action :=
  [.prepare { Fleet.empty with describes := [.ok readableByAlice, .ok readableByAlice] },
    .topicAccess (.behind "conn-1" "c1" "b1:9092") "orders" (.ofUser "alice")]

def askedByBob : Action := .topicAccess (.behind "conn-1" "c1" "b1:9092") "orders" (.ofUser "bob")

/-- What bob is told after alice has asked is what she may do. -/
theorem answered_afterAlice :
    Answered (askedByAlice.foldl Services.act .idle) askedByBob (.behind "conn-1" "c1" "b1:9092")
      (.ofUser "bob") "orders" (.ofOperations ["READ"]) :=
  .one (by rfl)

/-- Not every answer is what the rules let the one who asks do: bob may do nothing. -/
theorem answers_not_own :
    ¬∀ (past : List Moment) (s : Services), Run past s →
      ∀ a c credential topic b, Answered s a c credential topic b → b.available = true →
        ∃ principal, Principal.ofCredential credential = .user principal ∧
          ∃ m ∈ past ++ [⟨s, a⟩], ∃ l, (⟨c.key, topic⟩, .ok l) ∈ m.replies ∧
            b.operations = evaluate topic principal l.resources := by
  intro h
  obtain ⟨principal, hp, m, hm, l, hl, he⟩ :=
    h _ _ (Run.idle.acts askedByAlice) _ _ _ _ _ answered_afterAlice rfl
  have hbob : Principal.ofCredential (.ofUser "bob") = .user "User:bob" := by decide
  obtain rfl := Principal.user.inj (hp.symm.trans hbob)
  have hreplies : ([] ++ moments .idle askedByAlice ++
      [(⟨askedByAlice.foldl Services.act .idle, askedByBob⟩ : Moment)]).map Moment.replies =
        [[], [(⟨⟨"conn-1", "c1"⟩, "orders"⟩, .ok readableByAlice)], []] := by
    rfl
  have hmem := List.mem_map_of_mem hm (f := Moment.replies)
  rw [hreplies] at hmem
  simp only [List.mem_cons, List.not_mem_nil, or_false] at hmem
  rcases hmem with hr | hr | hr
  · simp [hr] at hl
  · rw [hr] at hl
    simp only [List.mem_singleton, Prod.mk.injEq, Except.ok.injEq] at hl
    rw [hl.2] at he
    exact absurd he (by decide)
  · simp [hr] at hl

/-- Bob's answer was worked out for alice when she asked, from the rules that brokers told her. -/
theorem answers_attributed_toAlice :
    ∃ m, Since (Moment.Passes ⟨⟨"conn-1", "c1"⟩, "orders"⟩) (moments .idle askedByAlice) m ∧
      ∃ principal, m.action.principal? = some principal ∧
        ∃ l : AclListing, (⟨⟨"conn-1", "c1"⟩, "orders"⟩, .ok l) ∈ m.replies ∧
          ["READ"] = evaluate "orders" principal l.resources := by
  obtain ⟨m, -, principal, l, hp, hl, -, he, -, hpast⟩ :=
    (answers_attributed (Run.idle.acts askedByAlice)).1 _ _ _ _ _ answered_afterAlice rfl
  exact ⟨m, (hpast (by decide)).1, principal, hp, l, hl, he⟩

end ClusterAdmin
