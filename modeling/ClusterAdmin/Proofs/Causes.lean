import ClusterAdmin.Proofs.Batches

namespace ClusterAdmin

open Acl

namespace Failure

/-- A failure carries one that caused it: it is as that one in all that callers act on, and that one
can be found along its causes, with its own causes behind it. -/
structure Carries (f e : Failure) : Prop where
  category : f.category = e.category
  retryable : f.retryable = e.retryable
  message : ∃ lead, f.message = lead ++ e.message
  causes : ∃ nearer, f.causes = nearer ++ e.toCause :: e.causes

/-- What a context puts before a message. -/
def lead (operation resource : String) : String :=
  if resource.isEmpty then operation ++ ": " else operation ++ " '" ++ resource ++ "': "

theorem message_inContext (f : Failure) (operation resource : String) :
    (f.inContext operation resource).message = lead operation resource ++ f.message := by
  simp only [inContext, lead]
  split <;> rfl

theorem carries_inContext (f : Failure) (operation resource : String) :
    (f.inContext operation resource).Carries f :=
  ⟨rfl, rfl, ⟨_, f.message_inContext operation resource⟩, [], rfl⟩

theorem Carries.inContext {f e : Failure} (h : f.Carries e) (operation resource : String) :
    (f.inContext operation resource).Carries e := by
  obtain ⟨lead, hmessage⟩ := h.message
  obtain ⟨nearer, hcauses⟩ := h.causes
  refine ⟨h.category, h.retryable, ⟨Failure.lead operation resource ++ lead, ?_⟩,
    f.toCause :: nearer, ?_⟩
  · rw [message_inContext, hmessage, String.append_assoc]
  · rw [causes_inContext, hcauses, List.cons_append]

/-- A failure in several contexts, the innermost first. -/
def inContexts (f : Failure) (contexts : List (String × String)) : Failure :=
  contexts.foldl (fun f x => f.inContext x.1 x.2) f

/-- Contexts keep the kind of a failure and whether to try again, stand before its message with the
outermost first, and make its chain of causes longer by one each. -/
theorem inContexts_spec (f : Failure) (contexts : List (String × String)) :
    (f.inContexts contexts).category = f.category ∧
      (f.inContexts contexts).retryable = f.retryable ∧
      (f.inContexts contexts).message =
        String.join (contexts.reverse.map fun x => lead x.1 x.2) ++ f.message ∧
      f.causes <:+ (f.inContexts contexts).causes ∧
      (f.inContexts contexts).causes.length = f.causes.length + contexts.length := by
  induction contexts generalizing f with
  | nil => exact ⟨rfl, rfl, by simp [inContexts], List.suffix_refl _, rfl⟩
  | cons x contexts ih =>
    obtain ⟨hcategory, hretryable, hmessage, hsuffix, hlength⟩ := ih (f.inContext x.1 x.2)
    refine ⟨hcategory, hretryable, ?_, (List.suffix_cons _ _).trans hsuffix, ?_⟩
    · rw [inContexts, List.foldl_cons, ← inContexts, hmessage, message_inContext]
      simp [String.append_assoc]
    · rw [inContexts, List.foldl_cons, ← inContexts, hlength, causes_inContext]
      simp only [List.length_cons]
      omega

end Failure

/-- The failure that a result is, if it is one. -/
def failureOf {α : Type} : Except Failure α → Option Failure
  | .error f => some f
  | .ok _ => none

@[simp] theorem failureOf_eq_some {α : Type} {r : Except Failure α} {f : Failure} :
    failureOf r = some f ↔ r = .error f := by
  cases r <;> simp [failureOf]

namespace Fleet

@[simp] theorem connects_reconnect (f : Fleet) (h : Nat) :
    (f.reconnect h).2.connects = f.connects := by
  simp only [reconnect, reaccept]
  split <;> rfl

theorem connects_of_connect_error {f f' : Fleet} {t : Target} {e : Failure}
    (h : f.connect t = (.error e, f')) : f.connects = some e :: f'.connects := by
  simp only [connect, accept] at h
  split at h <;> cases h
  assumption

theorem connects_of_connect_ok {f f' : Fleet} {t : Target} {n : Nat}
    (h : f.connect t = (.ok n, f')) (e : Failure) : f.connects ≠ some e :: f'.connects := by
  intro he
  simp only [connect, accept] at h
  split at h
  · cases h
  · rename_i hnext
    exact absurd (hnext.symm.trans he) (by simp)
  · rename_i hnext
    exact absurd (hnext.symm.trans he) (by simp)

end Fleet

/-- Everything that making out a target can fail with: there is no server, or the stored connection
cannot be read or used. -/
theorem Target.ofCluster_error {store : ConnectionStore} {c : Cluster} {f : Failure}
    (h : ofCluster store c = .error f) :
    c.bootstrapServers = [] ∨
    (c.bootstrapServers ≠ [] ∧ c.connectionType = .selfHostedDirect ∧
      ∃ e, store.find c.connectionId = .error e ∧
        f = e.inContext "load connection" c.connectionId) ∨
    ∃ r, store.find c.connectionId = .ok (some r) ∧ security r = .error f := by
  by_cases hservers : c.bootstrapServers = []
  · exact .inl hservers
  · have hempty : c.bootstrapServers.isEmpty = false := by simpa using hservers
    simp only [ofCluster, plan, hempty, Bool.false_eq_true, if_false] at h
    by_cases hdirect : c.connectionType = .selfHostedDirect
    · simp only [hdirect, ne_eq, not_true_eq_false, if_false, Plan.run] at h
      cases hfind : store.find c.connectionId with
      | error e =>
        rw [hfind] at h
        cases h
        exact .inr (.inl ⟨hservers, hdirect, e, rfl, rfl⟩)
      | ok stored =>
        rw [hfind] at h
        cases stored with
        | none => cases h
        | some r =>
          cases hsecurity : security r with
          | ok x => simp [ofStored, hsecurity, bind, Except.bind, pure, Except.pure] at h
          | error f' =>
            simp only [ofStored, hsecurity] at h
            cases h
            exact .inr (.inr ⟨r, rfl, hsecurity⟩)
    · simp only [hdirect, ne_eq, not_false_eq_true, if_true, Plan.run] at h
      cases h

theorem Target.ofCluster_unreadable {store : ConnectionStore} {c : Cluster} {e : Failure}
    (servers : c.bootstrapServers ≠ []) (direct : c.connectionType = .selfHostedDirect)
    (unreadable : store.find c.connectionId = .error e) :
    ofCluster store c = .error (e.inContext "load connection" c.connectionId) := by
  simp [ofCluster, plan, Plan.run, ofStored, servers, direct, unreadable]

namespace Pool

/-- A failure from outside leaves a call without a handle: what is stored cannot be read when a
handle is to be opened, or opening one fails. -/
inductive Breaks (p : Pool) (c : Cluster) (e : Failure) : Prop
  | store (accepted : p.refusal? c = none) (servers : c.bootstrapServers ≠ [])
    (direct : c.connectionType = .selfHostedDirect)
    (unreadable : p.store.find c.connectionId = .error e)
    (without : ∃ f, (p.getHandle c).1 = .error f)
  | connect (refused : p.fleet.connects = some e :: (p.getHandle c).2.fleet.connects)

/-- What leaves a call without a handle though nothing from outside fails: it is turned away, there
is no server to connect to, or what is stored cannot be used. -/
inductive Objects (p : Pool) (c : Cluster) : Prop
  | refused {f : Failure} (refusal : p.refusal? c = some f)
  | unreachable (servers : c.bootstrapServers = [])
  | unusable {r : ConnectionRecord} {f : Failure}
    (stored : p.store.find c.connectionId = .ok (some r)) (security : Target.security r = .error f)

/-- A call for a handle is turned away, gives a handle without opening one, or opens one. -/
theorem getHandle_opens (p : Pool) (c : Cluster) :
    (∃ f, p.refusal? c = some f ∧ p.getHandle c = (.error f, p)) ∨
    (∃ h q, p.getHandle c = (.ok h, q) ∧ q.fleet.connects = p.fleet.connects) ∨
    p.refusal? c = none ∧ ∃ q : Pool, p.getHandle c = q.openInto c ∧ q.store = p.store ∧
      q.fleet.connects = p.fleet.connects := by
  cases hr : p.refusal? c with
  | some f => exact .inl ⟨f, rfl, by simp [getHandle, hr]⟩
  | none =>
    refine .inr ?_
    cases hh : p.held c.key with
    | none => exact .inr ⟨rfl, p.setSlot c.key none, by simp [getHandle, hr, hh], rfl, rfl⟩
    | some e =>
      by_cases hu : p.isUsable e = true
      · exact .inl ⟨e.handle, p.reuse c.key e, by simp [getHandle, hr, hh, hu], rfl⟩
      · have hconnects := p.fleet.connects_reconnect e.handle
        cases hc : p.fleet.reconnect e.handle with
        | mk r fleet =>
          rw [hc] at hconnects
          cases r with
          | ok u =>
            exact .inl ⟨e.handle, { p with fleet }.restore c.key e,
              by simp [getHandle, hr, hh, hu, hc], hconnects⟩
          | error f =>
            exact .inr ⟨rfl, { p with fleet }.discard c.key e,
              by simp [getHandle, hr, hh, hu, hc], rfl, hconnects⟩

/-- A call for a handle that ends with a failure was broken by one from outside, which that failure
carries, or there is an objection to it. -/
theorem breaks_of_getHandle {p : Pool} {c : Cluster} {f : Failure}
    (h : (p.getHandle c).1 = .error f) : (∃ e, p.Breaks c e ∧ f.Carries e) ∨ p.Objects c := by
  rcases p.getHandle_opens c with ⟨f', hr, -⟩ | ⟨n, q, hq, -⟩ | ⟨hr, q, hq, hstore, hconnects⟩
  · exact .inr (.refused hr)
  · rw [hq] at h
    cases h
  · rw [hq] at h
    rcases q.openInto_cases c with
      ⟨f', ht, ho⟩ | ⟨t, f', fleet, -, hc, ho⟩ | ⟨t, n, fleet, -, hc, ho⟩
    all_goals rw [ho] at h; cases h
    · rw [hstore] at ht
      rcases Target.ofCluster_error ht with
        hservers | ⟨hservers, hdirect, e, he, rfl⟩ | ⟨r, hr', hs⟩
      · exact .inr (.unreachable hservers)
      · exact .inl ⟨e, .store hr hservers hdirect he ⟨_, by rw [hq, ho]⟩,
          Failure.carries_inContext e _ _⟩
      · exact .inr (.unusable hr' hs)
    · have hrefused := Fleet.connects_of_connect_error hc
      rw [hconnects] at hrefused
      exact .inl ⟨f', .connect (by rw [hq, ho]; exact hrefused), Failure.carries_inContext f' _ _⟩

theorem getHandle_of_breaks {p : Pool} {c : Cluster} {e : Failure} (h : p.Breaks c e) :
    ∃ f, (p.getHandle c).1 = .error f ∧ f.Carries e := by
  rcases p.getHandle_opens c with ⟨f, hr, hg⟩ | ⟨n, q, hg, hsame⟩ | ⟨-, q, hg, hstore, hsame⟩
  · cases h with
    | store accepted => cases accepted.symm.trans hr
    | connect refused =>
      rw [hg] at refused
      exact absurd refused.symm (List.cons_ne_self _ _)
  · cases h with
    | store _ _ _ _ without =>
      obtain ⟨f, hf⟩ := without
      rw [hg] at hf
      cases hf
    | connect refused =>
      rw [hg, hsame] at refused
      exact absurd refused.symm (List.cons_ne_self _ _)
  · rw [hg]
    cases h with
    | store _ servers direct unreadable =>
      refine ⟨_, ?_, Failure.carries_inContext e "load connection" c.connectionId⟩
      rw [openInto, hstore, Target.ofCluster_unreadable servers direct unreadable]
    | connect refused =>
      rw [hg, ← hsame] at refused
      rcases q.openInto_cases c with
        ⟨f, -, ho⟩ | ⟨t, f, fleet, -, hc, ho⟩ | ⟨t, n, fleet, -, hc, ho⟩
      all_goals rw [ho] at refused ⊢
      · exact absurd refused.symm (List.cons_ne_self _ _)
      · have hconnects := Fleet.connects_of_connect_error hc
        cases refused.symm.trans hconnects
        exact ⟨_, rfl, Failure.carries_inContext _ _ _⟩
      · exact absurd refused (Fleet.connects_of_connect_ok hc e)

/-- A failure from outside ends what is done on a cluster's handle: no handle is given because of
it, or the request on the handle fails with it. -/
inductive Interrupts (p : Pool) (c : Cluster) (fails : Fleet → Nat → Option Failure)
    (e : Failure) : Prop
  | handle (broken : p.Breaks c e)
  | request {h : Nat} {q : Pool} (given : p.getHandle c = (.ok h, q))
    (failed : fails q.fleet h = some e)

end Pool

/-- The failure of the request that a call for topic administration sends on a handle, if it
fails. -/
def TopicCall.requestFailure? (call : TopicCall) (f : Fleet) (h : Nat) : Option Failure :=
  match call with
  | .list _ => failureOf (f.metadata h none).1
  | .describe name | .lookFor name => failureOf (f.metadata h (some [name])).1
  | .create r => failureOf (f.createTopics h [r.toNewTopic] r.validateOnly).1
  | .delete name => failureOf (f.deleteTopics h [name]).1

/-- The failure of a request for the rules about a topic. One that says that there are none to be
read counts as an answer. -/
def describeFailure? (topic : String) (f : Fleet) (h : Nat) : Option Failure :=
  (failureOf (f.describeAcls h (.forTopic topic)).1).filter fun e => !saysUnavailable e

namespace Services

/-- The failure that an action ends with. -/
def failure? (s : Services) : Action → Option Failure
  | .getHandle c => failureOf (s.pool.getHandle c).1
  | .topicAccess c topic credential => failureOf (s.topicAccess c topic credential).1
  | .topicAccesses c topics credential => failureOf (s.topicAccesses c topics credential).1
  | .query c principal topic => failureOf (s.query c principal topic).1
  | .topics b c (.list includeInternal) => failureOf (s.listTopics b c includeInternal).1
  | .topics b c (.describe name) => failureOf (s.describeTopic b c name).1
  | .topics b c (.lookFor name) => failureOf (s.topicExists b c name).1
  | .topics b c (.create request) => failureOf (s.createTopic b c request).1
  | .topics b c (.delete name) => failureOf (s.deleteTopic b c name).1
  | _ => none

/-- A failure from outside breaks an action off. Of several topics it is the first whose query fails
that decides. -/
inductive Breaks (s : Services) (e : Failure) : Action → Prop
  | getHandle {c : Cluster} (broken : s.pool.Breaks c e) : Breaks s e (.getHandle c)
  | query {c : Cluster} {principal topic : String}
    (interrupted : s.pool.Interrupts c (describeFailure? topic) e) :
    Breaks s e (.query c principal topic)
  | topicAccess {c : Cluster} {topic principal : String} {credential : Credential}
    (missed : s.recalled c topic = none)
    (user : Principal.ofCredential credential = .user principal)
    (interrupted : s.pool.Interrupts c (describeFailure? topic) e) :
    Breaks s e (.topicAccess c topic credential)
  | topicAccesses {c : Cluster} {topics before after : List String} {topic principal : String}
    {credential : Credential} (user : Principal.ofCredential credential = .user principal)
    (unknown : s.unknown c topics.eraseDups = before ++ topic :: after)
    (earlier : ∀ x ∈ (queryEach c principal before s).1, ∃ a, x.2 = .ok a)
    (interrupted :
      (queryEach c principal before s).2.pool.Interrupts c (describeFailure? topic) e) :
    Breaks s e (.topicAccesses c topics credential)
  | topics {c : Cluster} {call : TopicCall}
    (interrupted : s.pool.Interrupts c call.requestFailure? e) :
    Breaks s e (.topics .native c call)

/-- What can make an action fail though nothing from outside does: an objection to giving a handle,
or what brokers answer about topics. -/
inductive Objects (s : Services) : Action → Prop
  | getHandle {c : Cluster} (objection : s.pool.Objects c) : Objects s (.getHandle c)
  | query {c : Cluster} {principal topic : String} (objection : s.pool.Objects c) :
    Objects s (.query c principal topic)
  | topicAccess {c : Cluster} {topic principal : String} {credential : Credential}
    (missed : s.recalled c topic = none)
    (user : Principal.ofCredential credential = .user principal)
    (objection : s.pool.Objects c) : Objects s (.topicAccess c topic credential)
  | topicAccesses {c : Cluster} {topics before after : List String} {topic principal : String}
    {credential : Credential} (user : Principal.ofCredential credential = .user principal)
    (unknown : s.unknown c topics.eraseDups = before ++ topic :: after)
    (earlier : ∀ x ∈ (queryEach c principal before s).1, ∃ a, x.2 = .ok a)
    (objection : (queryEach c principal before s).2.pool.Objects c) :
    Objects s (.topicAccesses c topics credential)
  | topics {c : Cluster} {call : TopicCall} (objection : s.pool.Objects c) :
    Objects s (.topics .native c call)
  | answered {c : Cluster} {call : TopicCall} {h : Nat} {q : Pool}
    (given : s.pool.getHandle c = (.ok h, q))
    (answer : call.requestFailure? q.fleet h = none) : Objects s (.topics .native c call)

section

variable {s : Services} {c : Cluster} {principal topic : String}

theorem query_of_interrupts {e : Failure} (principal : String)
    (h : s.pool.Interrupts c (describeFailure? topic) e) :
    ∃ f, (s.query c principal topic).1 = .error f ∧ f.Carries e := by
  cases h with
  | handle broken =>
    obtain ⟨f, hf, hcarries⟩ := Pool.getHandle_of_breaks broken
    rcases s.query_cases c principal topic with ⟨f', p, hg, hq⟩ | ⟨n, p, q, hg, -⟩
    · rw [hg] at hf
      cases hf
      exact ⟨_, by rw [hq]; rfl, hcarries.inContext "describe ACLs" topic⟩
    · rw [hg] at hf
      cases hf
  | request given failed =>
    obtain ⟨hfailed, hshown⟩ := Option.filter_eq_some_iff.mp failed
    rw [failureOf_eq_some] at hfailed
    rcases s.query_cases c principal topic with ⟨f', p, hg, hq⟩ | ⟨n, p, q, hg, -, -, hq⟩
    · cases given.symm.trans hg
    · cases given.symm.trans hg
      refine ⟨_, ?_, e.carries_inContext "describe ACLs" topic⟩
      simp only [Bool.not_eq_true'] at hshown
      rw [hq, hfailed, finding, hshown]
      rfl

theorem interrupts_of_query {f : Failure} (h : (s.query c principal topic).1 = .error f) :
    (∃ e, s.pool.Interrupts c (describeFailure? topic) e ∧ f.Carries e) ∨ s.pool.Objects c := by
  rcases s.query_cases c principal topic with ⟨f', p, hg, hq⟩ | ⟨n, p, q, hg, -, -, hq⟩
  · rw [hq] at h
    cases h
    rcases Pool.breaks_of_getHandle (by rw [hg] : (s.pool.getHandle c).1 = .error f') with
      ⟨e, hbroken, hcarries⟩ | hobjects
    · exact .inl ⟨e, .handle hbroken, hcarries.inContext _ _⟩
    · exact .inr hobjects
  · rw [hq] at h
    cases ha : (p.fleet.describeAcls n (.forTopic topic)).1 with
    | ok l =>
      simp only [ha, finding] at h
      split at h <;> cases h
    | error e =>
      simp only [ha, finding] at h
      split at h
      · cases h
      · rename_i hshown
        cases h
        refine .inl ⟨e, .request hg ?_, e.carries_inContext _ _⟩
        rw [describeFailure?, ha]
        simpa [failureOf] using hshown

/-- Of several topics, the query of the first one fails that the failure comes from. -/
theorem earliestFailure?_queryEach {f : Failure} (topics : List String) (s : Services) :
    earliestFailure? (queryEach c principal topics s).1 = some f ↔
      ∃ before topic after, topics = before ++ topic :: after ∧
        (∀ x ∈ (queryEach c principal before s).1, ∃ a, x.2 = .ok a) ∧
        ((queryEach c principal before s).2.query c principal topic).1 = .error f := by
  induction topics generalizing s with
  | nil => simp [queryEach, earliestFailure?]
  | cons t ts ih =>
    simp only [queryEach]
    cases hr : (s.query c principal t).1 with
    | error g =>
      simp only [earliestFailure?]
      constructor
      · rintro ⟨⟩
        exact ⟨[], t, ts, rfl, by simp [queryEach], hr⟩
      · rintro ⟨before, topic, after, hsplit, earlier, hfails⟩
        cases before with
        | nil =>
          cases hsplit
          exact congrArg some (Except.error.inj (hr.symm.trans hfails))
        | cons t' before =>
          cases hsplit
          obtain ⟨a, ha⟩ := earlier (t, .error g) (by simp [queryEach, hr])
          cases ha
    | ok a =>
      simp only [earliestFailure?, ih]
      constructor
      · rintro ⟨before, topic, after, rfl, earlier, hfails⟩
        refine ⟨t :: before, topic, after, rfl, ?_, hfails⟩
        simpa [queryEach, hr] using earlier
      · rintro ⟨before, topic, after, hsplit, earlier, hfails⟩
        cases before with
        | nil =>
          cases hsplit
          cases hr.symm.trans hfails
        | cons t' before =>
          cases hsplit
          refine ⟨before, topic, after, rfl, ?_, hfails⟩
          intro x hx
          exact earlier x (by simp [queryEach, hx])

/-- A call about one topic fails as its query does, if there is one. -/
theorem failure?_topicAccess {credential : Credential}
    (user : Principal.ofCredential credential = .user principal) (f : Failure) :
    s.failure? (.topicAccess c topic credential) = some f ↔
      s.recalled c topic = none ∧ (s.query c principal topic).1 = .error f := by
  rw [failure?, failureOf_eq_some]
  cases hr : s.recalled c topic with
  | some a => simp [topicAccess_known hr]
  | none =>
    rw [(topicAccess_query hr user).1]
    cases (s.query c principal topic).1 <;> simp [Except.map]

/-- A call about several topics fails as the first of its queries that fails. -/
theorem failure?_topicAccesses {topics : List String} {credential : Credential}
    (user : Principal.ofCredential credential = .user principal) (f : Failure) :
    s.failure? (.topicAccesses c topics credential) = some f ↔
      ∃ before topic after, s.unknown c topics.eraseDups = before ++ topic :: after ∧
        (∀ x ∈ (queryEach c principal before s).1, ∃ a, x.2 = .ok a) ∧
        ((queryEach c principal before s).2.query c principal topic).1 = .error f := by
  rw [failure?, failureOf_eq_some, (topicAccesses_query user).1, ← earliestFailure?_queryEach,
    ← settle_eq_error_iff c _ s]
  cases (settle c (queryEach c principal (s.unknown c topics.eraseDups) s).1 s).1 <;>
    simp [Except.map]

end

section

variable {α : Type} {s : Services} {c : Cluster} {operation resource : String}
  {request : Fleet → Nat → Except Failure α × Fleet}

/-- Everything that a request on a cluster's handle can come to. -/
theorem onHandle_cases (s : Services) (c : Cluster) (operation resource : String)
    (request : Fleet → Nat → Except Failure α × Fleet) :
    (∃ f q, s.pool.getHandle c = (.error f, q) ∧
      (s.onHandle c operation resource request).1 = .error (f.inContext operation resource)) ∨
    ∃ n q, s.pool.getHandle c = (.ok n, q) ∧
      (s.onHandle c operation resource request).1 =
        (request q.fleet n).1.mapError (·.inContext operation resource) := by
  cases hg : s.pool.getHandle c with
  | mk r q =>
    cases r with
    | error f => exact .inl ⟨f, q, rfl, by simp [onHandle, hg]⟩
    | ok n =>
      refine .inr ⟨n, q, rfl, ?_⟩
      simp only [onHandle, hg]
      split
      all_goals
        rename_i ha
        rw [ha]
        rfl

theorem onHandle_of_interrupts {e : Failure} (operation resource : String)
    (h : s.pool.Interrupts c (fun f n => failureOf (request f n).1) e) :
    ∃ f, (s.onHandle c operation resource request).1 = .error f ∧ f.Carries e := by
  rcases s.onHandle_cases c operation resource request with ⟨f, q, hg, ho⟩ | ⟨n, q, hg, ho⟩
  · cases h with
    | handle broken =>
      obtain ⟨f', hf, hcarries⟩ := Pool.getHandle_of_breaks broken
      rw [hg] at hf
      cases hf
      exact ⟨_, ho, hcarries.inContext operation resource⟩
    | request given => cases given.symm.trans hg
  · cases h with
    | handle broken =>
      obtain ⟨f', hf, -⟩ := Pool.getHandle_of_breaks broken
      rw [hg] at hf
      cases hf
    | request given failed =>
      cases given.symm.trans hg
      rw [failureOf_eq_some.mp failed] at ho
      exact ⟨_, ho, e.carries_inContext operation resource⟩

theorem interrupts_of_onHandle {f : Failure}
    (h : (s.onHandle c operation resource request).1 = .error f) :
    (∃ e, s.pool.Interrupts c (fun f n => failureOf (request f n).1) e ∧ f.Carries e) ∨
      s.pool.Objects c := by
  rcases s.onHandle_cases c operation resource request with ⟨f', q, hg, ho⟩ | ⟨n, q, hg, ho⟩
  · cases ho.symm.trans h
    rcases Pool.breaks_of_getHandle (by rw [hg] : (s.pool.getHandle c).1 = .error f') with
      ⟨e, hbroken, hcarries⟩ | hobjects
    · exact .inl ⟨e, .handle hbroken, hcarries.inContext _ _⟩
    · exact .inr hobjects
  · cases ha : (request q.fleet n).1 with
    | ok a =>
      rw [ho, ha] at h
      cases h
    | error e =>
      rw [ho, ha] at h
      cases h
      exact .inl ⟨e, .request hg (failureOf_eq_some.mpr ha), e.carries_inContext _ _⟩

end

theorem eq_of_failed {α β : Type} {r : Except Failure α × β} {f : Failure} (h : r.1 = .error f) :
    r = (.error f, r.2) := Prod.ext h rfl

/-- Whether a call only looks whether a topic is there. -/
def looksFor : TopicCall → Bool
  | .lookFor _ => true
  | _ => false

/-- A call for topic administration on a handle fails as its request does, but for a look-up that
does not find the topic. -/
theorem native_failure (s : Services) (c : Cluster) (call : TopicCall) :
    ∃ (α : Type) (operation resource : String) (request : Fleet → Nat → Except Failure α × Fleet),
      call.requestFailure? = (fun f n => failureOf (request f n).1) ∧
      ∀ f, (s.onHandle c operation resource request).1 = .error f →
        s.failure? (.topics .native c call) =
          if looksFor call && f.isNotFound then none else some f := by
  cases call with
  | list includeInternal =>
    refine ⟨_, "list topics", c.clusterId, fun f n => f.metadata n none, rfl, fun f hf => ?_⟩
    simp only [failure?, listTopics, nativeList]
    rw [eq_of_failed hf]
    rfl
  | describe name =>
    refine ⟨_, "describe topic", name, fun f n => f.metadata n (some [name]), rfl, fun f hf => ?_⟩
    simp only [failure?, describeTopic, nativeDescribe]
    rw [eq_of_failed hf]
    rfl
  | lookFor name =>
    refine ⟨_, "describe topic", name, fun f n => f.metadata n (some [name]), rfl, fun f hf => ?_⟩
    simp only [failure?, topicExists, nativeExists, nativeDescribe]
    rw [eq_of_failed hf]
    cases hfound : f.isNotFound <;> simp [hfound, looksFor, failureOf]
  | create r =>
    refine ⟨_, "create topic", r.name, fun f n => f.createTopics n [r.toNewTopic] r.validateOnly,
      rfl, fun f hf => ?_⟩
    simp only [failure?, createTopic, nativeCreate]
    rw [eq_of_failed hf]
    rfl
  | delete name =>
    refine ⟨_, "delete topic", name, fun f n => f.deleteTopics n [name], rfl, fun f hf => ?_⟩
    simp only [failure?, deleteTopic, nativeDelete]
    rw [eq_of_failed hf]
    rfl

/-- A failure from outside that breaks an action off is carried by the failure that the action ends
with. Only a look-up for a topic may take such a failure for an answer. -/
theorem carries_of_breaks {s : Services} {a : Action} {e : Failure} (h : s.Breaks e a) :
    (∃ f, s.failure? a = some f ∧ f.Carries e) ∨
      ∃ c name, a = .topics .native c (.lookFor name) ∧ e.isNotFound = true ∧
        s.failure? a = none := by
  cases h with
  | getHandle broken =>
    obtain ⟨f, hf, hcarries⟩ := Pool.getHandle_of_breaks broken
    exact .inl ⟨f, failureOf_eq_some.mpr hf, hcarries⟩
  | @query c principal topic interrupted =>
    obtain ⟨f, hf, hcarries⟩ := query_of_interrupts principal interrupted
    exact .inl ⟨f, failureOf_eq_some.mpr hf, hcarries⟩
  | topicAccess missed user interrupted =>
    obtain ⟨f, hf, hcarries⟩ := query_of_interrupts _ interrupted
    exact .inl ⟨f, (failure?_topicAccess user f).mpr ⟨missed, hf⟩, hcarries⟩
  | topicAccesses user unknown earlier interrupted =>
    obtain ⟨f, hf, hcarries⟩ := query_of_interrupts _ interrupted
    exact .inl ⟨f, (failure?_topicAccesses user f).mpr ⟨_, _, _, unknown, earlier, hf⟩, hcarries⟩
  | @topics c call interrupted =>
    obtain ⟨α, operation, resource, request, hrequest, hfailure⟩ := s.native_failure c call
    rw [hrequest] at interrupted
    obtain ⟨f, hf, hcarries⟩ := onHandle_of_interrupts operation resource interrupted
    have hsame : f.isNotFound = e.isNotFound := by simp only [Failure.isNotFound, hcarries.category]
    rw [hfailure f hf, hsame]
    cases call with
    | lookFor name =>
      cases hfound : e.isNotFound with
      | true => exact .inr ⟨c, name, rfl, rfl, rfl⟩
      | false => exact .inl ⟨f, rfl, hcarries⟩
    | _ => exact .inl ⟨f, rfl, hcarries⟩

/-- An action that ends with a failure was broken off by one from outside, which that failure
carries, or there is an objection to it. -/
theorem breaks_of_failure {s : Services} {a : Action} {f : Failure} (h : s.failure? a = some f)
    (native : ∀ flavor c call, a ≠ .topics (.rest flavor) c call) :
    (∃ e, s.Breaks e a ∧ f.Carries e) ∨ s.Objects a := by
  cases a with
  | getHandle c =>
    rcases Pool.breaks_of_getHandle (failureOf_eq_some.mp h) with ⟨e, hbroken, hcarries⟩ | hobjects
    · exact .inl ⟨e, .getHandle hbroken, hcarries⟩
    · exact .inr (.getHandle hobjects)
  | query c principal topic =>
    rcases interrupts_of_query (failureOf_eq_some.mp h) with ⟨e, hbroken, hcarries⟩ | hobjects
    · exact .inl ⟨e, .query hbroken, hcarries⟩
    · exact .inr (.query hobjects)
  | topicAccess c topic credential =>
    cases user : Principal.ofCredential credential with
    | underivable why =>
      rw [failure?, failureOf_eq_some, topicAccess_eq, user] at h
      cases hr : s.recalled c topic <;> simp [hr] at h
    | user principal =>
      obtain ⟨missed, hf⟩ := (failure?_topicAccess user f).mp h
      rcases interrupts_of_query hf with ⟨e, hbroken, hcarries⟩ | hobjects
      · exact .inl ⟨e, .topicAccess missed user hbroken, hcarries⟩
      · exact .inr (.topicAccess missed user hobjects)
  | topicAccesses c topics credential =>
    cases user : Principal.ofCredential credential with
    | underivable why =>
      rw [failure?, failureOf_eq_some, (topicAccesses_underivable user).1] at h
      cases h
    | user principal =>
      obtain ⟨before, topic, after, unknown, earlier, hf⟩ := (failure?_topicAccesses user f).mp h
      rcases interrupts_of_query hf with ⟨e, hbroken, hcarries⟩ | hobjects
      · exact .inl ⟨e, .topicAccesses user unknown earlier hbroken, hcarries⟩
      · exact .inr (.topicAccesses user unknown earlier hobjects)
  | topics b c call =>
    cases b with
    | rest flavor => exact absurd rfl (native flavor c call)
    | native =>
      obtain ⟨α, operation, resource, request, hrequest, hfailure⟩ := s.native_failure c call
      cases ho : (s.onHandle c operation resource request).1 with
      | error f' =>
        rw [hfailure f' ho] at h
        obtain ⟨-, rfl⟩ : _ ∧ f' = f := by simpa using h
        rcases interrupts_of_onHandle ho with ⟨e, hbroken, hcarries⟩ | hobjects
        · exact .inl ⟨e, .topics (hrequest ▸ hbroken), hcarries⟩
        · exact .inr (.topics hobjects)
      | ok a =>
        rcases s.onHandle_cases c operation resource request with ⟨f', q, -, hq⟩ | ⟨n, q, hg, hq⟩
        · cases ho.symm.trans hq
        · refine .inr (.answered hg ?_)
          rw [hrequest]
          cases ha : (request q.fleet n).1 with
          | ok b => simp only [ha, failureOf]
          | error f' =>
            rw [ho, ha] at hq
            cases hq
  | _ => cases h

end Services

/-- A failure from outside that breaks an action off, of whatever kind, is what the failure of the
action tells: the same kind and whether to try again, its message last, and itself along the causes.
It goes unnoticed by a look-up for a topic only, if it says that the topic is not there. All other
failures of actions on handles are objections and brokers' answers. -/
theorem failures_carried (s : Services) :
    (∀ a e, s.Breaks e a → (∃ f, s.failure? a = some f ∧ f.Carries e) ∨
      ∃ c name, a = .topics .native c (.lookFor name) ∧ e.isNotFound = true ∧
        s.failure? a = none) ∧
    (∀ a f, s.failure? a = some f → (∀ flavor c call, a ≠ .topics (.rest flavor) c call) →
      (∃ e, s.Breaks e a ∧ f.Carries e) ∨ s.Objects a) ∧
    ∀ (f : Failure) (contexts : List (String × String)),
      (f.inContexts contexts).category = f.category ∧
      (f.inContexts contexts).retryable = f.retryable ∧
      (f.inContexts contexts).message =
        String.join (contexts.reverse.map fun x => Failure.lead x.1 x.2) ++ f.message ∧
      f.causes <:+ (f.inContexts contexts).causes ∧
      (f.inContexts contexts).causes.length = f.causes.length + contexts.length :=
  ⟨fun _ _ h => Services.carries_of_breaks h,
    fun _ _ h native => Services.breaks_of_failure h native, Failure.inContexts_spec⟩

/-- Services whose stored connections cannot be read. -/
def Services.locked (e : Failure) : Services :=
  idle.act (.setStore { ConnectionStore.empty with fault := some e })

/-- What reading the stored connections fails with is carried by the failure of a call that needs a
handle, also where the category does not go with trying again. -/
theorem failures_carried_fromStore :
    ∃ f, (Services.locked ⟨.auth, "store is locked", true, []⟩).failure?
        (.topics .native (.behind "conn-1" "c1" "b1:9092") (.delete "orders")) = some f ∧
      f.Carries ⟨.auth, "store is locked", true, []⟩ := by
  have hbroken : (Services.locked ⟨.auth, "store is locked", true, []⟩).Breaks
      ⟨.auth, "store is locked", true, []⟩
      (.topics .native (.behind "conn-1" "c1" "b1:9092") (.delete "orders")) :=
    .topics (.handle (.store rfl (by decide) rfl rfl ⟨_, rfl⟩))
  rcases (failures_carried _).1 _ _ hbroken with h | ⟨_, _, h, -⟩
  · exact h
  · cases h

end ClusterAdmin
