import ClusterAdmin.Proofs.Recollection

namespace ClusterAdmin

namespace Acl.AccessCache

/-- Counts look-ups of which some found something and others did not. -/
def count (c : AccessCache) (found missing : Nat) : AccessCache :=
  { c with stats := { c.stats with
      hits := c.stats.hits + found
      misses := c.stats.misses + missing } }

theorem count_count (c : AccessCache) (k u k' u' : Nat) :
    (c.count k u).count k' u' = c.count (k + k') (u + u') := by
  simp [count, Nat.add_assoc]

theorem count_storeAll (c : AccessCache) (now k u : Nat) (found : List (TopicKey × TopicAccess)) :
    (c.storeAll now found).count k u = (c.count k u).storeAll now found := by
  induction found generalizing c with
  | nil => rfl
  | cons x found ih => exact ih (c.store now x.1 x.2)

theorem countQuery_storeAll (c : AccessCache) (now : Nat)
    (found : List (TopicKey × TopicAccess)) :
    (c.storeAll now found).countQuery = c.countQuery.storeAll now found := by
  induction found generalizing c with
  | nil => rfl
  | cons x found ih => exact ih (c.store now x.1 x.2)

theorem storeAll_append (c : AccessCache) (now : Nat) (xs ys : List (TopicKey × TopicAccess)) :
    c.storeAll now (xs ++ ys) = (c.storeAll now xs).storeAll now ys :=
  List.foldl_append

end Acl.AccessCache

namespace Services

open Acl

theorem now_query (s : Services) (c : Cluster) (principal topic : String) :
    (s.query c principal topic).2.now = s.now := by
  have hn := s.pool.now_getHandle c
  rcases s.query_cases c principal topic with ⟨f, p, hg, he⟩ | ⟨h, p, q, hg, -, hq, he⟩
  · rw [hg] at hn
    rw [he]
    exact hn
  · rw [hg] at hn
    rw [he]
    exact hq.trans hn

/-- What a topic that is not remembered comes to: a query, if the credential tells a principal. -/
def ask (s : Services) (c : Cluster) (credential : Credential) (topic : String) :
    Except Failure Finding × Services :=
  match Principal.ofCredential credential with
  | .underivable why => (.ok ⟨.unavailable why, false⟩, s)
  | .user principal => s.query c principal topic

def askEach (c : Cluster) (credential : Credential) :
    List String → Services → List (String × Except Failure Finding) × Services
  | [], s => ([], s)
  | t :: ts, s =>
    let (r, s) := s.ask c credential t
    let (rs, s) := askEach c credential ts s
    ((t, r) :: rs, s)

section

variable (s : Services) (c : Cluster) (credential : Credential)

theorem askEach_user {principal : String}
    (user : Principal.ofCredential credential = .user principal) (ts : List String) :
    askEach c credential ts s = queryEach c principal ts s := by
  induction ts generalizing s with
  | nil => rfl
  | cons t ts ih => simp only [askEach, queryEach, ask, user, ih]

theorem askEach_underivable {why : String}
    (underivable : Principal.ofCredential credential = .underivable why) (ts : List String) :
    askEach c credential ts s = (ts.map (·, .ok ⟨.unavailable why, false⟩), s) := by
  induction ts generalizing s with
  | nil => rfl
  | cons t ts ih => simp only [askEach, ask, underivable, ih, List.map_cons]

theorem now_ask (topic : String) : (s.ask c credential topic).2.now = s.now := by
  simp only [ask]
  split
  · rfl
  · exact s.now_query c _ topic

/-- Asking changes nothing in memory but counts. -/
theorem access_ask (topic : String) :
    (s.ask c credential topic).2.access = s.access ∨
      (s.ask c credential topic).2.access = s.access.countQuery := by
  simp only [ask]
  split
  · exact .inl rfl
  · rename_i principal _
    rcases s.query_cases c principal topic with ⟨f, p, -, he⟩ | ⟨h, p, q, -, -, -, he⟩
    · exact .inl (by rw [he])
    · exact .inr (by rw [he])

@[simp] theorem entries_ask (topic : String) :
    (s.ask c credential topic).2.access.entries = s.access.entries := by
  rcases s.access_ask c credential topic with h | h
  · rw [h]
  · rw [h]
    rfl

@[simp] theorem ttlMs_ask (topic : String) :
    (s.ask c credential topic).2.access.ttlMs = s.access.ttlMs := by
  rcases s.access_ask c credential topic with h | h
  · rw [h]
  · rw [h]
    rfl

theorem cacheable_ask {topic : String} {e : Finding}
    (h : (s.ask c credential topic).1 = .ok e) : e.cacheable = e.access.available := by
  simp only [ask] at h
  split at h
  · cases h
    rfl
  · rename_i principal _
    rcases s.query_cases c principal topic with ⟨f, p, -, he⟩ | ⟨n, p, q, -, -, -, he⟩
    · rw [he] at h
      cases h
    · rw [he] at h
      obtain ⟨e', hf, rfl⟩ : ∃ e', finding topic principal
          (p.fleet.describeAcls n (.forTopic topic)).1 = .ok e' ∧ e' = e := by
        cases hf : finding topic principal (p.fleet.describeAcls n (.forTopic topic)).1 with
        | error f => simp [hf, Except.mapError] at h
        | ok e' => exact ⟨e', rfl, by simpa [hf, Except.mapError] using h⟩
      exact (available_finding hf).symm

end

/-- Look-ups counted, and findings put into memory. -/
def absorb (s : Services) (found missing : Nat) (kept : List (TopicKey × TopicAccess)) :
    Services :=
  { s with access := (s.access.count found missing).storeAll s.now kept }

section

variable (s : Services) (k u : Nat) (kept : List (TopicKey × TopicAccess))

@[simp] theorem now_absorb : (s.absorb k u kept).now = s.now := rfl

@[simp] theorem ttlMs_absorb : (s.absorb k u kept).access.ttlMs = s.access.ttlMs :=
  AccessCache.ttlMs_storeAll ..

theorem absorb_absorb (k' u' : Nat) (kept' : List (TopicKey × TopicAccess)) :
    (s.absorb k u kept).absorb k' u' kept' = s.absorb (k + k') (u + u') (kept ++ kept') := by
  simp only [absorb, AccessCache.count_storeAll, AccessCache.count_count,
    AccessCache.storeAll_append]
  rfl

/-- A query neither reads memory nor writes to it, so that it may as well come first. -/
theorem query_absorb (c : Cluster) (principal topic : String) :
    (s.absorb k u kept).query c principal topic =
      ((s.query c principal topic).1, (s.query c principal topic).2.absorb k u kept) := by
  have hn := s.now_query c principal topic
  simp only [absorb, hn]
  simp only [query]
  split
  · rfl
  · split
    all_goals
      rw [AccessCache.countQuery_storeAll]
      rfl

theorem ask_absorb (c : Cluster) (credential : Credential) (topic : String) :
    (s.absorb k u kept).ask c credential topic =
      ((s.ask c credential topic).1, (s.ask c credential topic).2.absorb k u kept) := by
  simp only [ask]
  split
  · rfl
  · exact s.query_absorb k u kept c _ topic

theorem askEach_absorb (c : Cluster) (credential : Credential) (ts : List String) :
    askEach c credential ts (s.absorb k u kept) =
      ((askEach c credential ts s).1, (askEach c credential ts s).2.absorb k u kept) := by
  induction ts generalizing s with
  | nil => rfl
  | cons t ts ih => simp only [askEach, ask_absorb, ih]

theorem find?_absorb {key : TopicKey} (h : ∀ x ∈ kept, x.1 ≠ key) :
    (s.absorb k u kept).access.entries.find? key = s.access.entries.find? key := by
  have hnone : (Table.ofList kept).find? key = none := by
    apply Option.eq_none_iff_forall_ne_some.mpr
    intro a ha
    exact h _ (Table.mem_of_find?_ofList ha) rfl
  simp only [absorb, AccessCache.find?_storeAll, hnone, Option.map_none, Option.none_or]
  rfl

end

/-- Calls about topics one after another, each topic with its answer. -/
def topicAccessEach (c : Cluster) (credential : Credential) :
    List String → Services → List (String × Except Failure TopicAccess) × Services
  | [], s => ([], s)
  | t :: ts, s =>
    let (r, s) := s.topicAccess c t credential
    let (rs, s) := topicAccessEach c credential ts s
    ((t, r) :: rs, s)

theorem topicAccessEach_cons (c : Cluster) (credential : Credential) (t : String)
    (ts : List String) (s : Services) :
    topicAccessEach c credential (t :: ts) s =
      ((t, (s.topicAccess c t credential).1) ::
          (topicAccessEach c credential ts (s.topicAccess c t credential).2).1,
        (topicAccessEach c credential ts (s.topicAccess c t credential).2).2) :=
  rfl

section

variable {s : Services} {c : Cluster} {credential : Credential} {topic : String}

theorem topicAccess_known {a : TopicAccess} (h : s.recalled c topic = some a) :
    s.topicAccess c topic credential = (.ok a, s.absorb 1 0 []) := by
  rw [topicAccess_eq, h]
  rfl

theorem topicAccess_unknown (h : s.recalled c topic = none) :
    s.topicAccess c topic credential =
      ((s.ask c credential topic).1.map (·.access),
        (s.ask c credential topic).2.absorb 0 1
          (keepable c [(topic, (s.ask c credential topic).1)])) := by
  have hcount : s.recount (s.countLookup false) = s.absorb 0 1 [] := rfl
  rw [topicAccess_eq, h, hcount]
  simp only [ask]
  cases Principal.ofCredential credential with
  | underivable why => rfl
  | user principal =>
    simp only [query_absorb]
    cases hq : s.query c principal topic with
    | mk r s' =>
      cases r with
      | error f => rfl
      | ok e => cases hc : e.cacheable <;> simp [remember, hc, keepable, kept?, absorb, Except.map,
          AccessCache.storeAll, now]

end

theorem ne_of_mem_keepable {c : Cluster} {topic : String} {key : TopicKey}
    {r : Except Failure Finding} (h : key ≠ ⟨c.key, topic⟩) :
    ∀ x ∈ keepable c [(topic, r)], x.1 ≠ key := by
  rintro x hx rfl
  obtain ⟨y, hy, hk⟩ := List.mem_filterMap.mp hx
  obtain ⟨a, -, rfl⟩ := Option.map_eq_some_iff.mp hk
  obtain rfl := List.mem_singleton.mp hy
  exact h rfl

section

variable (s : Services) (c : Cluster) (credential : Credential)

theorem now_topicAccess (topic : String) :
    (s.topicAccess c topic credential).2.now = s.now := by
  cases h : s.recalled c topic with
  | some a => rw [topicAccess_known h, now_absorb]
  | none => rw [topicAccess_unknown h, now_absorb, now_ask]

theorem ttlMs_topicAccess (topic : String) :
    (s.topicAccess c topic credential).2.access.ttlMs = s.access.ttlMs := by
  cases h : s.recalled c topic with
  | some a => rw [topicAccess_known h, ttlMs_absorb]
  | none => rw [topicAccess_unknown h, ttlMs_absorb, ttlMs_ask]

/-- A call about one topic leaves alone what is remembered about others. -/
theorem find?_topicAccess {topic : String} {key : TopicKey} (h : key ≠ ⟨c.key, topic⟩) :
    (s.topicAccess c topic credential).2.access.entries.find? key =
      s.access.entries.find? key := by
  cases hr : s.recalled c topic with
  | some a => rw [topicAccess_known hr, find?_absorb _ _ _ _ (by simp)]
  | none =>
    rw [topicAccess_unknown hr, find?_absorb _ _ _ _ (ne_of_mem_keepable h), entries_ask]

theorem recalled_topicAccess {topic t : String} (ht : t ≠ topic) :
    (s.topicAccess c topic credential).2.recalled c t = s.recalled c t := by
  have hkey : (⟨c.key, t⟩ : TopicKey) ≠ ⟨c.key, topic⟩ := fun he => ht (TopicKey.mk.inj he).2
  simp only [recalled, AccessCache.fresh?, s.find?_topicAccess c credential hkey,
    ttlMs_topicAccess, now_topicAccess]

end

/-- Answers from memory and from asking, put together in one order of topics. -/
inductive Interleaved : List (String × TopicAccess) → List (String × Except Failure Finding) →
    List (String × Except Failure TopicAccess) → Prop
  | nil : Interleaved [] [] []
  | known {ks qs rs} (t : String) (a : TopicAccess) (rest : Interleaved ks qs rs) :
    Interleaved ((t, a) :: ks) qs ((t, .ok a) :: rs)
  | asked {ks qs rs} (t : String) (r : Except Failure Finding) (rest : Interleaved ks qs rs) :
    Interleaved ks ((t, r) :: qs) ((t, r.map (·.access)) :: rs)

/-- Calls about different topics ask about those that are not remembered, in their order, and do
everything else as if it came after all the asking. -/
theorem topicAccessEach_eq (c : Cluster) (credential : Credential) {ts : List String}
    (nodup : ts.Nodup) (s : Services) :
    Interleaved (s.known c ts) (askEach c credential (s.unknown c ts) s).1
        (topicAccessEach c credential ts s).1 ∧
      (topicAccessEach c credential ts s).2 =
        (askEach c credential (s.unknown c ts) s).2.absorb (s.known c ts).length
          (s.unknown c ts).length (keepable c (askEach c credential (s.unknown c ts) s).1) := by
  induction ts generalizing s with
  | nil => exact ⟨.nil, rfl⟩
  | cons t ts ih =>
    obtain ⟨hfresh, nodup⟩ := List.nodup_cons.mp nodup
    -- The first call is about no later topic, so those are known or unknown as they were before it.
    have hsame : ∀ t' ∈ ts,
        (s.topicAccess c t credential).2.recalled c t' = s.recalled c t' := by
      intro t' ht'
      exact s.recalled_topicAccess c credential fun he => hfresh (he ▸ ht')
    have hk := known_congr hsame
    have hu := unknown_congr hsame
    obtain ⟨hi, hs⟩ := ih nodup (s.topicAccess c t credential).2
    rw [hk, hu] at hi hs
    cases hr : s.recalled c t with
    | some a =>
      have hknown : s.known c (t :: ts) = (t, a) :: s.known c ts := by simp [known, hr]
      have hunknown : s.unknown c (t :: ts) = s.unknown c ts := by simp [unknown, hr]
      rw [topicAccess_known hr, askEach_absorb] at hi hs
      rw [absorb_absorb] at hs
      rw [hknown, hunknown]
      rw [topicAccessEach_cons, topicAccess_known hr]
      refine ⟨.known t a hi, ?_⟩
      rw [hs, List.length_cons, Nat.add_comm 1, Nat.zero_add, List.nil_append]
    | none =>
      have hknown : s.known c (t :: ts) = s.known c ts := by simp [known, hr]
      have hunknown : s.unknown c (t :: ts) = t :: s.unknown c ts := by simp [unknown, hr]
      rw [topicAccess_unknown hr, askEach_absorb] at hi hs
      rw [absorb_absorb] at hs
      rw [hknown, hunknown]
      rw [topicAccessEach_cons, topicAccess_unknown hr]
      simp only [askEach]
      refine ⟨.asked t _ hi, ?_⟩
      rw [hs, List.length_cons, Nat.add_comm 1, Nat.zero_add, keepable, keepable, keepable,
        ← List.filterMap_append, List.singleton_append]

theorem Interleaved.perm {ks : List (String × TopicAccess)}
    {qs : List (String × Except Failure Finding)}
    {rs : List (String × Except Failure TopicAccess)} (h : Interleaved ks qs rs) :
    List.Perm (ks.map (fun x => (x.1, .ok x.2)) ++ qs.map fun x => (x.1, x.2.map (·.access)))
      rs := by
  induction h with
  | nil => exact .nil
  | known t a _ ih => exact ih.cons _
  | asked t r _ ih => exact List.perm_middle.trans (ih.cons _)

/-- The failure of the first call that failed. -/
def earliestFailure? {α : Type} : List (String × Except Failure α) → Option Failure
  | [] => none
  | (_, .error f) :: _ => some f
  | (_, .ok _) :: rest => earliestFailure? rest

theorem earliestFailure?_eq_none_iff {α : Type} (rs : List (String × Except Failure α)) :
    earliestFailure? rs = none ↔ ∀ x ∈ rs, ∃ a, x.2 = .ok a := by
  induction rs with
  | nil => simp [earliestFailure?]
  | cons x rs ih =>
    obtain ⟨t, r⟩ := x
    cases r with
    | error f => simp [earliestFailure?]
    | ok a => simpa [earliestFailure?] using ih

theorem Interleaved.earliestFailure? {ks : List (String × TopicAccess)}
    {qs : List (String × Except Failure Finding)}
    {rs : List (String × Except Failure TopicAccess)} (h : Interleaved ks qs rs) :
    earliestFailure? rs = earliestFailure? qs := by
  induction h with
  | nil => rfl
  | known t a _ ih => exact ih
  | asked t r _ ih =>
    cases r with
    | error f => rfl
    | ok e => exact ih

theorem settle_eq_error_iff (c : Cluster) (answers : List (String × Except Failure Finding))
    (s : Services) (f : Failure) :
    (settle c answers s).1 = .error f ↔ earliestFailure? answers = some f := by
  induction answers generalizing s with
  | nil => simp [settle, earliestFailure?]
  | cons x answers ih =>
    obtain ⟨t, r⟩ := x
    cases r with
    | error g => simp [settle, earliestFailure?]
    | ok e =>
      rw [earliestFailure?, ← ih (s.remember ⟨c.key, t⟩ e), settle]
      cases settle c answers (s.remember ⟨c.key, t⟩ e) with
      | mk r s' => cases r <;> simp

/-- What was not worked out is not kept. -/
theorem keepable_unavailable (c : Cluster) (why : String) (ts : List String) :
    keepable c (ts.map (·, .ok ⟨.unavailable why, false⟩)) = [] := by
  apply List.filterMap_eq_nil_iff.mpr
  intro x hx
  obtain ⟨t, -, rfl⟩ := List.mem_map.mp hx
  rfl

theorem settle_unavailable (s : Services) (c : Cluster) (why : String) (ts : List String) :
    settle c (ts.map (·, .ok ⟨.unavailable why, false⟩)) s =
      (.ok (ts.map (·, .unavailable why)), s) := by
  induction ts with
  | nil => rfl
  | cons t ts ih =>
    have hremember : s.remember ⟨c.key, t⟩ ⟨.unavailable why, false⟩ = s := rfl
    rw [List.map_cons, settle, hremember, ih]
    rfl

/-- A call about several topics asks about those that are not remembered, and settles what comes
of it. -/
theorem topicAccesses_ask (s : Services) (c : Cluster) (topics : List String)
    (credential : Credential) :
    let known := s.known c topics.eraseDups
    let asked := askEach c credential (s.unknown c topics.eraseDups) s
    (s.topicAccesses c topics credential).1 = (settle c asked.1 s).1.map (known ++ ·) ∧
      (s.topicAccesses c topics credential).2 =
        asked.2.absorb known.length (s.unknown c topics.eraseDups).length
          (keepable c asked.1) := by
  cases hp : Principal.ofCredential credential with
  | underivable why =>
    rw [askEach_underivable s c credential hp]
    simp only [settle_unavailable, keepable_unavailable]
    refine ⟨(topicAccesses_underivable hp).1, ?_⟩
    rw [topicAccesses_tally, hp]
    simp only
    split <;> rfl
  | user principal =>
    rw [askEach_user s c credential hp]
    refine ⟨(topicAccesses_query hp).1, ?_⟩
    have hcounted : s.recount (s.tally (s.known c topics.eraseDups).length
        (s.unknown c topics.eraseDups).length) =
      s.absorb (s.known c topics.eraseDups).length (s.unknown c topics.eraseDups).length [] := rfl
    rw [topicAccesses_tally, hp]
    simp only
    split
    · rename_i hempty
      rw [hcounted, List.isEmpty_iff.mp hempty]
      rfl
    · rw [hcounted, ← askEach_user _ c credential hp, askEach_absorb,
        askEach_user s c credential hp]
      have hsettled := settle_snd c (queryEach c principal (s.unknown c topics.eraseDups) s).1
        ((queryEach c principal (s.unknown c topics.eraseDups) s).2.absorb
          (s.known c topics.eraseDups).length (s.unknown c topics.eraseDups).length [])
      split
      all_goals
        rename_i h
        rw [h] at hsettled
        exact hsettled

/-- It leaves the same services behind as one call for each of them. -/
theorem topicAccesses_snd (s : Services) (c : Cluster) (topics : List String)
    (credential : Credential) :
    (s.topicAccesses c topics credential).2 =
      (topicAccessEach c credential topics.eraseDups s).2 :=
  (s.topicAccesses_ask c topics credential).2.trans
    (topicAccessEach_eq c credential (nodup_eraseDups topics) s).2.symm

/-- An answer that tells what may be done is in memory after the call, stored now or lately. -/
theorem kept_topicAccess {s : Services} {c : Cluster} {credential : Credential} {topic : String}
    {a : TopicAccess} (h : (s.topicAccess c topic credential).1 = .ok a)
    (ha : a.available = true) :
    ∃ storedAt, (s.topicAccess c topic credential).2.access.entries.find? ⟨c.key, topic⟩ =
        some ⟨a, storedAt⟩ ∧
      (storedAt = s.now ∨ s.now - storedAt < s.access.ttlMs) := by
  cases hr : s.recalled c topic with
  | some b =>
    rw [topicAccess_known hr] at h ⊢
    cases h
    rw [find?_absorb _ _ _ _ (by simp)]
    obtain ⟨e, he, rfl, hage⟩ := recalled_eq_some.mp hr
    exact ⟨e.storedAt, he, .inr hage⟩
  | none =>
    rw [topicAccess_unknown hr] at h ⊢
    cases hq : (s.ask c credential topic).1 with
    | error f =>
      rw [hq] at h
      cases h
    | ok e =>
      rw [hq] at h
      cases h
      have hkept : keepable c [(topic, .ok e)] = [(⟨c.key, topic⟩, e.access)] := by
        have hc := s.cacheable_ask c credential hq
        simp [keepable, kept?, hc, ha]
      refine ⟨s.now, ?_, .inl rfl⟩
      rw [hkept, ← s.now_ask c credential topic]
      simp [absorb, AccessCache.storeAll, AccessCache.store]

section

variable {c : Cluster} {credential : Credential} {ts : List String}

theorem find?_topicAccessEach {key : TopicKey} (h : ∀ t ∈ ts, key ≠ ⟨c.key, t⟩) (s : Services) :
    (topicAccessEach c credential ts s).2.access.entries.find? key =
      s.access.entries.find? key := by
  induction ts generalizing s with
  | nil => rfl
  | cons t ts ih =>
    have hlater := ih (fun t' ht' => h t' (List.mem_cons_of_mem t ht'))
    exact (hlater _).trans (s.find?_topicAccess c credential (h t List.mem_cons_self))

/-- What a call put into memory is still there after the calls about other topics. -/
theorem kept_topicAccessEach (nodup : ts.Nodup) {s : Services} {t : String} {a : TopicAccess}
    (h : (t, .ok a) ∈ (topicAccessEach c credential ts s).1) (ha : a.available = true) :
    ∃ storedAt, (topicAccessEach c credential ts s).2.access.entries.find? ⟨c.key, t⟩ =
        some ⟨a, storedAt⟩ ∧
      (storedAt = s.now ∨ s.now - storedAt < s.access.ttlMs) := by
  induction ts generalizing s with
  | nil => simp [topicAccessEach] at h
  | cons t' ts ih =>
    obtain ⟨hfresh, nodup⟩ := List.nodup_cons.mp nodup
    rw [topicAccessEach_cons] at h ⊢
    rcases List.mem_cons.mp h with he | h
    · obtain ⟨rfl, hr⟩ := Prod.mk.inj he
      obtain ⟨storedAt, hs, hage⟩ := kept_topicAccess hr.symm ha
      have hkey : ∀ t' ∈ ts, (⟨c.key, t⟩ : TopicKey) ≠ ⟨c.key, t'⟩ :=
        fun t' ht' he => hfresh ((TopicKey.mk.inj he).2 ▸ ht')
      exact ⟨storedAt, (find?_topicAccessEach hkey _).trans hs, hage⟩
    · obtain ⟨storedAt, hs, hage⟩ := ih nodup h
      rw [now_topicAccess, ttlMs_topicAccess] at hage
      exact ⟨storedAt, hs, hage⟩

end

/-- A call about several topics comes to one call for each of them, in the order of their first
mention. It leaves the same services behind; it answers if all those calls do, about each topic
once and the same; else it fails as the first of them that fails, and what the others found is
remembered all the same. -/
theorem topicAccesses_eq_each (s : Services) (c : Cluster) (topics : List String)
    (credential : Credential) :
    let batch := s.topicAccesses c topics credential
    let each := topicAccessEach c credential topics.eraseDups s
    batch.2 = each.2 ∧
      ((∃ found, batch.1 = .ok found) ↔ ∀ x ∈ each.1, ∃ a, x.2 = .ok a) ∧
      (∀ found, batch.1 = .ok found →
        (found.map (·.1)).Nodup ∧ (∀ t, t ∈ found.map (·.1) ↔ t ∈ topics) ∧
          ∀ t a, (t, a) ∈ found ↔ (t, .ok a) ∈ each.1) ∧
      (∀ f, batch.1 = .error f ↔ earliestFailure? each.1 = some f) ∧
      ∀ t a, (t, .ok a) ∈ each.1 → a.available = true →
        ∃ storedAt, batch.2.access.entries.find? ⟨c.key, t⟩ = some ⟨a, storedAt⟩ ∧
          (storedAt = s.now ∨ s.now - storedAt < s.access.ttlMs) := by
  intro batch each
  have nodup := nodup_eraseDups topics
  obtain ⟨hi, heach⟩ := topicAccessEach_eq c credential nodup s
  obtain ⟨hanswer, hbatch⟩ := s.topicAccesses_ask c topics credential
  have hstate : batch.2 = each.2 := hbatch.trans heach.symm
  have hfailure : ∀ f, batch.1 = .error f ↔ earliestFailure? each.1 = some f := by
    intro f
    rw [hi.earliestFailure?, ← settle_eq_error_iff c _ s f, hanswer]
    cases (settle c (askEach c credential (s.unknown c topics.eraseDups) s).1 s).1 <;>
      simp [Except.map]
  refine ⟨hstate, ?_, ?_, hfailure, ?_⟩
  · rw [← earliestFailure?_eq_none_iff, Option.eq_none_iff_forall_ne_some]
    simp only [ne_eq, ← hfailure]
    cases batch.1 <;> simp
  · intro found hfound
    have hperm := topics_topicAccesses hfound
    refine ⟨hperm.nodup_iff.mpr nodup, ?_, ?_⟩
    · intro t
      rw [hperm.mem_iff, List.mem_eraseDups]
    · obtain ⟨more, hmore, rfl⟩ := exists_of_map_ok (hanswer.symm.trans hfound)
      obtain ⟨es, hes, rfl⟩ := settle_ok hmore
      have hsame := hi.perm
      rw [hes] at hsame
      intro t a
      rw [← hsame.mem_iff]
      simp [Except.map]
  · intro t a ht ha
    rw [hstate]
    exact kept_topicAccessEach nodup ht ha

end Services

end ClusterAdmin
