import ClusterAdmin.Proofs.Causes
import ClusterAdmin.Proofs.Clearings
import ClusterAdmin.Proofs.Forgetting

namespace ClusterAdmin

open Acl

/-- What decides on the handle that a cluster is given next. -/
inductive Deed where
  /-- A handle is asked for. -/
  | asked (p : Pool) (c : Cluster)
  /-- A request failed in a way that may pass, or a handle is said to be broken. This is the handle
  that is kept then. -/
  | broke (k : ClusterKey) (kept : Option Nat)

namespace Pool

/-- What a handle is that is not simply used again: it was kept and is reconnected now, or it is
opened now. -/
inductive Renews (p : Pool) (c : Cluster) (kept : Option Nat) (h : Nat) : Prop
  | reconnected (same : kept = some h) (success : (p.fleet.reconnect h).1 = .ok ())
      (log : (p.getHandle c).2.fleet.log = p.fleet.log ++ [.reconnect h])
      (unused : (p.getHandle c).2.stats.reused = p.stats.reused)
  | opened {t : Target} {earlier : List Request} (new : h = p.fleet.handles.length)
      (target : Target.ofCluster p.store c = .ok t)
      (log : (p.getHandle c).2.fleet.log = p.fleet.log ++ (earlier ++ [.connect t]))
      (unused : (p.getHandle c).2.stats.reused = p.stats.reused)

/-- From one pool to another by calls for handles, by notes of failures, and by moves that hand out
nothing. -/
inductive Trail : List Deed → Pool → Pool → Prop
  | start (p : Pool) : Trail [] p p
  | asked {ds : List Deed} {p q : Pool} (before : Trail ds p q) (c : Cluster) :
    Trail (ds ++ [.asked q c]) p (q.getHandle c).2
  | broke {ds : List Deed} {p q : Pool} (before : Trail ds p q) (c : Cluster) :
    Trail (ds ++ [.broke c.key (q.handle? c.key)]) p (q.markDisconnected c)
  | other {ds : List Deed} {p q r : Pool} (before : Trail ds p q) (rest : Moves 0 q r) :
    Trail ds p r

theorem Trail.trans {ds ds' : List Deed} {p q r : Pool} (h : Trail ds p q) (h' : Trail ds' q r) :
    Trail (ds ++ ds') p r := by
  induction h' with
  | start => simpa using h
  | asked _ c ih => simpa using (ih h).asked c
  | broke _ c ih => simpa using (ih h).broke c
  | other _ rest ih => exact (ih h).other rest

theorem Moves.trail {p q : Pool} (h : Moves 0 p q) : Trail [] p q := (Trail.start p).other h

theorem held_openInto_ne (p : Pool) {c : Cluster} {k : ClusterKey} (h : c.key ≠ k) :
    (p.openInto c).2.held k = p.held k := by
  rcases p.openInto_cases c with ⟨f, _, he⟩ | ⟨t, f, fleet, _, _, he⟩ | ⟨t, n, fleet, _, _, he⟩
  all_goals rw [he]
  · rfl
  · rw [held_keep, if_neg h]
    rfl

theorem held_openInto_error {p : Pool} {c : Cluster} {f : Failure}
    (h : (p.openInto c).1 = .error f) (k : ClusterKey) : (p.openInto c).2.held k = p.held k := by
  rcases p.openInto_cases c with ⟨f, _, he⟩ | ⟨t, f, fleet, _, _, he⟩ | ⟨t, n, fleet, _, _, he⟩
  all_goals rw [he] at h ⊢
  · rfl
  · cases h

theorem held_getHandle_ne (p : Pool) {c : Cluster} {k : ClusterKey} (h : c.key ≠ k) :
    (p.getHandle c).2.held k = p.held k := by
  rcases p.getHandle_cases c with ⟨f, he⟩ | ⟨_, he⟩ |
    ⟨e, _, he | ⟨fleet, _, he⟩ | ⟨f, fleet, _, he⟩⟩
  all_goals rw [he]
  · rw [held_openInto_ne _ h, held_setSlot, if_neg h]
  · exact (held_setSlot _ _ _ _).trans (if_neg h)
  · exact (held_setSlot _ _ _ _).trans (if_neg h)
  · rw [held_openInto_ne _ h, held_discard, if_neg h]
    rfl

/-- A call that gives no handle leaves the slot as it was, or empty. -/
theorem held_getHandle_error {p : Pool} {c : Cluster} {f : Failure}
    (h : (p.getHandle c).1 = .error f) :
    (p.getHandle c).2.held c.key = p.held c.key ∨ (p.getHandle c).2.held c.key = none := by
  rcases p.getHandle_cases c with ⟨f, he⟩ | ⟨_, he⟩ |
    ⟨e, _, he | ⟨fleet, _, he⟩ | ⟨f, fleet, _, he⟩⟩
  all_goals rw [he] at h ⊢
  · exact .inl rfl
  · exact .inr (by rw [held_openInto_error h, held_setSlot, if_pos rfl])
  · cases h
  · cases h
  · exact .inr (by rw [held_openInto_error h, held_discard, if_pos rfl])

theorem held_markDisconnected (p : Pool) (c : Cluster) (k : ClusterKey) :
    (p.markDisconnected c).held k =
      if c.key = k then (p.held k).map ({ · with connected := false }) else p.held k := by
  simp only [markDisconnected]
  by_cases hk : c.key = k
  · subst hk
    cases hheld : p.held c.key <;> simp [hheld]
  · cases hheld : p.held c.key <;> simp [hk]

theorem held_evict (p : Pool) (k k' : ClusterKey) :
    (p.evict k).held k' = if k = k' then none else p.held k' := by
  rw [evict_eq]
  simp only [held, Table.find?_erase]
  split <;> rfl

/-- What is kept for a cluster is known to be broken, and is the handle that was kept once. -/
def Flagged (k : ClusterKey) (kept : Option Nat) (p : Pool) : Prop :=
  ∀ e, p.held k = some e → e.connected = false ∧ kept = some e.handle

namespace Flagged

variable {k : ClusterKey} {kept : Option Nat} {p q : Pool}

theorem of_held (fl : p.Flagged k kept) (same : q.held k = p.held k) : q.Flagged k kept :=
  fun e he => fl e (same ▸ he)

theorem of_empty (empty : p.held k = none) : p.Flagged k kept := by
  intro e he
  cases empty.symm.trans he

theorem mark (p : Pool) (c : Cluster) :
    (p.markDisconnected c).Flagged c.key (p.handle? c.key) := by
  intro e he
  rw [held_markDisconnected, if_pos rfl] at he
  obtain ⟨e', he', rfl⟩ := Option.map_eq_some_iff.mp he
  exact ⟨rfl, by rw [handle?, he']; rfl⟩

theorem markDisconnected (fl : p.Flagged k kept) (c : Cluster) :
    (p.markDisconnected c).Flagged k kept := by
  intro e he
  rw [held_markDisconnected] at he
  split at he
  · obtain ⟨e', he', rfl⟩ := Option.map_eq_some_iff.mp he
    exact ⟨rfl, (fl e' he').2⟩
  · exact fl e he

theorem getHandle (fl : p.Flagged k kept) {c : Cluster}
    (failed : c.key = k → ∃ f, (p.getHandle c).1 = .error f) :
    (p.getHandle c).2.Flagged k kept := by
  by_cases hk : c.key = k
  · obtain ⟨f, hf⟩ := failed hk
    rw [← hk] at fl ⊢
    rcases held_getHandle_error hf with hsame | hempty
    · exact fl.of_held hsame
    · exact of_empty hempty
  · exact fl.of_held (p.held_getHandle_ne hk)

theorem move {n : Nat} (fl : p.Flagged k kept) (h : Move n p q) (idle : n = 0) :
    q.Flagged k kept := by
  cases h with
  | getHandle _ c =>
    refine fl.getHandle fun _ => ?_
    simp only [grants] at idle
    split at idle
    · cases idle
    · rename_i f hf
      exact ⟨f, hf⟩
  | ask | retire | outside => exact fl.of_held rfl
  | markDisconnected _ c => exact fl.markDisconnected c
  | evict _ k' =>
    intro e he
    rw [held_evict] at he
    split at he
    · cases he
    · exact fl e he

theorem moves {n : Nat} (fl : p.Flagged k kept) (h : Moves n p q) (idle : n = 0) :
    q.Flagged k kept := by
  induction h with
  | none => exact fl
  | more _ last ih => exact (ih fl (by omega)).move last (by omega)

end Flagged

theorem openInto_ok {p : Pool} {c : Cluster} {h : Nat} (given : (p.openInto c).1 = .ok h) :
    h = p.fleet.handles.length ∧ (p.openInto c).2.stats.reused = p.stats.reused ∧
      ∃ t, Target.ofCluster p.store c = .ok t ∧
        (p.openInto c).2.fleet.log = p.fleet.log ++ [.connect t] := by
  rcases p.openInto_cases c with ⟨f, _, he⟩ | ⟨t, f, fleet, _, _, he⟩ | ⟨t, n, fleet, ht, hc, he⟩
  all_goals rw [he] at given ⊢; cases given
  obtain ⟨hn, -, -, -⟩ := Fleet.accept_ok hc
  rw [Fleet.length_roll] at hn
  have hlog := p.fleet.log_connect t
  rw [hc] at hlog
  exact ⟨hn, rfl, t, ht, hlog⟩

/-- What is known to be broken is not simply used again. -/
theorem renews_of_flagged {p : Pool} {c : Cluster} {kept : Option Nat} {h : Nat}
    (fl : p.Flagged c.key kept) (given : (p.getHandle c).1 = .ok h) : p.Renews c kept h := by
  cases hr : p.refusal? c with
  | some f =>
    rw [getHandle, hr] at given
    cases given
  | none =>
    cases hk : p.held c.key with
    | none =>
      have hopen : p.getHandle c = (p.setSlot c.key none).openInto c := by
        simp [getHandle, hr, hk]
      rw [hopen] at given
      obtain ⟨hnew, hunused, t, ht, hlog⟩ := openInto_ok given
      rw [← hopen] at hunused hlog
      have hnone : (p.getHandle c).2.fleet.log = p.fleet.log ++ ([] ++ [.connect t]) := hlog
      exact .opened hnew ht hnone hunused
    | some e =>
      obtain ⟨hbroken, hkept⟩ := fl e hk
      have hunusable : p.isUsable e = false := by simp [PoolCore.isUsable, hbroken]
      have hrecord := p.fleet.log_reconnect e.handle
      cases hc : p.fleet.reconnect e.handle with
      | mk r fleet =>
        rw [hc] at hrecord
        cases r with
        | ok =>
          have hrestore : p.getHandle c = (.ok e.handle, { p with fleet }.restore c.key e) := by
            simp [getHandle, hr, hk, hunusable, hc]
          rw [hrestore] at given
          cases given
          refine .reconnected hkept (by rw [hc]) ?_ ?_
          · rw [hrestore]
            exact hrecord
          · rw [hrestore]
            rfl
        | error f =>
          have hreplace : p.getHandle c = ({ p with fleet }.discard c.key e).openInto c := by
            simp [getHandle, hr, hk, hunusable, hc]
          rw [hreplace] at given
          obtain ⟨hnew, hunused, t, ht, hlog⟩ := openInto_ok given
          have hhandles := (Fleet.alike_reconnect hc).length_handles
          have hinstead : (p.getHandle c).2.fleet.log =
              p.fleet.log ++ ([.reconnect e.handle, .close e.handle] ++ [.connect t]) := by
            rw [hreplace, hlog]
            change (fleet.log ++ [.close e.handle]) ++ [.connect t] = _
            rw [hrecord]
            simp
          refine .opened ?_ ht hinstead ?_
          · rw [hnew, ← hhandles]
            exact List.length_modify _ _ _
          · rw [hreplace, hunused]
            rfl

/-- The last of some deeds is the one that is told of, or it comes later. -/
theorem last_or_later {α : Type} {xs before after : List α} {x y : α}
    (h : xs ++ [x] = before ++ y :: after) :
    (after = [] ∧ xs = before ∧ x = y) ∨
      ∃ rest, after = rest ++ [x] ∧ xs = before ++ y :: rest := by
  rcases List.eq_nil_or_concat after with rfl | ⟨rest, z, rfl⟩
  · obtain ⟨rfl, hx⟩ := List.append_inj' h rfl
    exact .inl ⟨rfl, rfl, (List.cons.inj hx).1⟩
  · rw [List.concat_eq_append, ← List.cons_append, ← List.append_assoc] at h
    obtain ⟨rfl, hx⟩ := List.append_inj' h rfl
    cases hx
    exact .inr ⟨rest, List.concat_eq_append, rfl⟩

variable {ds before between after : List Deed} {p q r : Pool} {c : Cluster} {k : ClusterKey}
  {kept : Option Nat}

/-- A trail up to a call for a handle leads to the pool that was asked. -/
theorem Trail.upTo (h : Trail ds p q) (split : ds = before ++ .asked r c :: after) :
    Trail before p r := by
  induction h generalizing after with
  | start => simp at split
  | asked trail c' ih =>
    rcases last_or_later split with ⟨-, rfl, he⟩ | ⟨rest, -, hds⟩
    · cases he
      exact trail
    · exact ih hds
  | broke trail c' ih =>
    rcases last_or_later split with ⟨-, -, he⟩ | ⟨rest, -, hds⟩
    · cases he
    · exact ih hds
  | other _ _ ih => exact ih split

/-- Calls for a handle of a cluster give none. -/
def Fails (k : ClusterKey) (ds : List Deed) : Prop :=
  ∀ p c, .asked p c ∈ ds → c.key = k → ∃ f, (p.getHandle c).1 = .error f

/-- What is broken stays known to be until a handle is given. -/
theorem Trail.flagged (h : Trail ds p q) (split : ds = before ++ .broke k kept :: between)
    (failed : Fails k between) : q.Flagged k kept := by
  induction h generalizing between with
  | start => simp at split
  | asked trail c' ih =>
    rcases last_or_later split with ⟨-, -, he⟩ | ⟨rest, rfl, hds⟩
    · cases he
    · have hflagged := ih hds fun p c hm => failed p c (List.mem_append_left _ hm)
      exact hflagged.getHandle fun hk => failed _ c' (by simp) hk
  | broke trail c' ih =>
    rcases last_or_later split with ⟨-, -, he⟩ | ⟨rest, rfl, hds⟩
    · cases he
      exact .mark _ c'
    · exact (ih hds fun p c hm => failed p c (List.mem_append_left _ hm)).markDisconnected c'
  | other _ rest ih => exact (ih split failed).moves rest rfl

/-- On any trail, the first handle that is given after something broke is renewed. -/
theorem Trail.renews {h : Nat} (trail : Trail ds p q)
    (split : ds = before ++ .broke c.key kept :: (between ++ .asked r c :: after))
    (failed : Fails c.key between) (given : (r.getHandle c).1 = .ok h) : r.Renews c kept h := by
  rw [← List.cons_append, ← List.append_assoc] at split
  exact renews_of_flagged ((trail.upTo split).flagged rfl failed) given

end Pool

/-- The cluster of which an action asks something. -/
def Action.about? : Action → Option Cluster
  | .getHandle c | .topicAccess c _ _ | .topicAccesses c _ _ | .query c _ _ | .topics _ c _
  | .markDisconnected c => some c
  | _ => none

namespace Services

/-- What an action does that decides on handles. Calls that ask about rules are left out here: each
step of theirs has deeds of its own. -/
def deeds (s : Services) : Action → List Deed
  | .getHandle c => [.asked s.pool c]
  | .topics .native c call =>
    .asked s.pool c ::
      match s.pool.getHandle c with
      | (.error _, _) => []
      | (.ok h, p) =>
        if (call.requestFailure? p.fleet h).any (·.retryable) then [.broke c.key (some h)] else []
  | .markDisconnected c => [.broke c.key (s.pool.handle? c.key)]
  | _ => []

/-- Topic administration on a handle is one request, which fails as the call's request does. -/
theorem native_request (s : Services) (c : Cluster) (call : TopicCall) :
    ∃ (α : Type) (operation resource : String) (request : Fleet → Nat → Except Failure α × Fleet),
      (∀ (f : Fleet) (h : Nat), f.Alike (request f h).2) ∧
      call.requestFailure? = (fun f n => failureOf (request f n).1) ∧
      s.act (.topics .native c call) = (s.onHandle c operation resource request).2 := by
  cases call with
  | list includeInternal =>
    exact ⟨_, _, _, _, fun f h => Fleet.alike_metadata f h none, rfl,
      s.nativeList_snd c includeInternal⟩
  | describe name =>
    exact ⟨_, _, _, _, fun f h => Fleet.alike_metadata f h (some [name]), rfl,
      s.nativeDescribe_snd c name⟩
  | lookFor name =>
    exact ⟨_, _, _, _, fun f h => Fleet.alike_metadata f h (some [name]), rfl,
      (s.nativeExists_snd c name).trans (s.nativeDescribe_snd c name)⟩
  | create request =>
    exact ⟨_, _, _, _, fun f h => Fleet.alike_createTopics f h _ _, rfl, conclude_snd _ _ _⟩
  | delete name =>
    exact ⟨_, _, _, _, fun f h => Fleet.alike_deleteTopics f h _, rfl, conclude_snd _ _ _⟩

theorem trail_native (s : Services) (c : Cluster) (call : TopicCall) :
    Pool.Trail (s.deeds (.topics .native c call)) s.pool
      (s.act (.topics .native c call)).pool := by
  obtain ⟨α, operation, resource, request, alike, hfails, hact⟩ := s.native_request c call
  have htrail := (Pool.Trail.start s.pool).asked c
  rw [hact, deeds, hfails]
  simp only [onHandle]
  cases hg : s.pool.getHandle c with
  | mk r p =>
    rw [hg] at htrail
    cases r with
    | error f => exact htrail
    | ok h =>
      have hkept : p.handle? c.key = some h := Pool.handle?_getHandle hg
      have hask := htrail.other (Pool.Move.ask (alike p.fleet h)).moves
      cases hr : request p.fleet h with
      | mk answer fleet =>
        rw [hr] at hask
        cases answer with
        | ok a => simpa [hr, failureOf] using hask
        | error f =>
          cases hretry : f.retryable with
          | false => simpa [hr, failureOf, hretry] using hask
          | true =>
            have hbroke := hask.broke c
            rw [show ({ p with fleet } : Pool).handle? c.key = some h from hkept] at hbroke
            simpa [hr, failureOf, hretry] using hbroke

theorem trail_act (s : Services) {a : Action} (quiet : a.asks = false) :
    Pool.Trail (s.deeds a) s.pool (s.act a).pool := by
  have hmoves := s.moves_act a
  cases a with
  | getHandle c => exact (Pool.Trail.start s.pool).asked c
  | topics b c call =>
    cases b with
    | native => exact s.trail_native c call
    | rest flavor =>
      rw [(s.beside_proxied flavor c call).pool]
      exact .start s.pool
  | markDisconnected c => exact (Pool.Trail.start s.pool).broke c
  | topicAccess | topicAccesses | query => cases quiet
  | _ => exact Pool.Moves.trail hmoves

section

variable {c : Cluster} {k : ClusterKey}

theorem held_mark_ne (p : Pool) (h : c.key ≠ k) : (p.markDisconnected c).held k = p.held k := by
  rw [Pool.held_markDisconnected, if_neg h]

theorem held_onHandle_ne {α : Type} (s : Services) (operation resource : String)
    (request : Fleet → Nat → Except Failure α × Fleet) (h : c.key ≠ k) :
    (s.onHandle c operation resource request).2.pool.held k = s.pool.held k := by
  have hget := s.pool.held_getHandle_ne h
  simp only [onHandle]
  split
  · rename_i hg
    rw [hg] at hget
    exact hget
  · rename_i hg
    rw [hg] at hget
    split
    · exact hget
    · dsimp only
      split
      · exact (held_mark_ne _ h).trans hget
      · exact hget

theorem held_query_ne (s : Services) (principal topic : String) (h : c.key ≠ k) :
    (s.query c principal topic).2.pool.held k = s.pool.held k := by
  rw [pool_query]
  exact s.held_onHandle_ne _ _ _ h

theorem held_topicAccess_ne (s : Services) (topic : String) (credential : Credential)
    (h : c.key ≠ k) : (s.topicAccess c topic credential).2.pool.held k = s.pool.held k := by
  cases hr : s.recalled c topic with
  | some a => rw [topicAccess_known hr]; rfl
  | none =>
    rw [topicAccess_unknown hr]
    change (s.ask c credential topic).2.pool.held k = s.pool.held k
    simp only [ask]
    split
    · rfl
    · exact s.held_query_ne _ topic h

theorem held_topicAccessEach_ne (credential : Credential) (topics : List String) (s : Services)
    (h : c.key ≠ k) :
    (topicAccessEach c credential topics s).2.pool.held k = s.pool.held k := by
  induction topics generalizing s with
  | nil => rfl
  | cons t ts ih =>
    rw [topicAccessEach_cons]
    exact (ih _).trans (s.held_topicAccess_ne t credential h)

/-- What is asked of one cluster changes nothing about the slots of others. -/
theorem held_act_ne (s : Services) {a : Action} (about : a.about? = some c) (h : c.key ≠ k) :
    (s.act a).pool.held k = s.pool.held k := by
  cases a with
  | getHandle => cases about; exact s.pool.held_getHandle_ne h
  | topicAccess _ topic credential => cases about; exact s.held_topicAccess_ne topic credential h
  | topicAccesses _ topics credential =>
    cases about
    rw [act, topicAccesses_snd]
    exact held_topicAccessEach_ne credential _ s h
  | query _ principal topic => cases about; exact s.held_query_ne principal topic h
  | topics b c' call =>
    cases about
    cases b with
    | native =>
      obtain ⟨α, operation, resource, request, -, hact⟩ := s.native_onHandle c call
      rw [hact]
      exact s.held_onHandle_ne operation resource request h
    | rest flavor => rw [(s.beside_proxied flavor c call).pool]
  | markDisconnected => cases about; exact held_mark_ne s.pool h
  | _ => cases about

end

end Services

namespace Flights

/-- How far the query of an inquiry about a topic has come, and of which cluster it asks. -/
def query? (t : Flights) (i : Nat) (topic : String) : Option (Cluster × QueryStage) :=
  (t.inquiries[i]?).bind fun q => (q.queries.find? topic).map (q.cluster, ·)

/-- What a step does that decides on handles. An answer that rules cannot be read at all is no
failure of the handle. -/
def deeds (t : Flights) : Step → List Deed
  | .call .. => []
  | .send i topic =>
    match t.query? i topic with
    | some (c, .due) => [.asked t.services.pool c]
    | _ => []
  | .receive i topic =>
    match t.query? i topic with
    | some (c, .sent (.error f)) =>
      if !saysUnavailable f && f.retryable then [.broke c.key (t.services.pool.handle? c.key)]
      else []
    | _ => []
  | .other a _ => t.services.deeds a

/-- The cluster of which a step asks something. -/
def about? (t : Flights) : Step → Option Cluster
  | .call c _ _ => some c
  | .send i _ | .receive i _ => (t.inquiries[i]?).map (·.cluster)
  | .other a _ => a.about?

@[simp] theorem pool_conclude (t : Flights) (i : Nat) (q : Inquiry) :
    (t.conclude i q).services.pool = t.services.pool := by
  simp only [conclude]
  split
  · exact Services.pool_settle _ _ _
  · rfl

theorem pool_call (t : Flights) (c : Cluster) (topics : List String) (credential : Credential) :
    (t.call c topics credential).services.pool = t.services.pool := by
  simp only [call, Services.lookUpEach_eq]
  split <;> rfl

/-- Sending a query is a call for a handle, with a request on it if there is one. -/
theorem send_cases (t : Flights) (i : Nat) (topic : String) :
    (t.deeds (.send i topic) = [] ∧ (t.send i topic).services.pool = t.services.pool) ∨
    ∃ q r p fleet, t.inquiries[i]? = some q ∧
      t.deeds (.send i topic) = [.asked t.services.pool q.cluster] ∧
      t.services.pool.getHandle q.cluster = (r, p) ∧ p.fleet.Alike fleet ∧
      (t.send i topic).services.pool = { p with fleet } := by
  simp only [deeds, query?, send]
  cases hq : t.inquiries[i]? with
  | none => exact .inl ⟨rfl, rfl⟩
  | some q =>
    cases hs : q.queries.find? topic with
    | none => exact .inl ⟨by simp [hs], by simp [hs]⟩
    | some stage =>
      cases stage with
      | sent | done => exact .inl ⟨by simp [hs], by simp [hs]⟩
      | due =>
        cases hg : t.services.pool.getHandle q.cluster with
        | mk r p =>
          cases r with
          | error f =>
            exact .inr ⟨q, _, p, p.fleet, rfl, by simp [hs], hg, .refl _, by simp [hs, hg]⟩
          | ok h =>
            exact .inr ⟨q, _, p, _, rfl, by simp [hs], hg,
              Fleet.alike_describeAcls p.fleet h (.forTopic topic), by simp [hs, hg]⟩

/-- Receiving an answer is a note of a failure, or nothing to the pool. -/
theorem receive_cases (t : Flights) (i : Nat) (topic : String) :
    (t.deeds (.receive i topic) = [] ∧ (t.receive i topic).services.pool = t.services.pool) ∨
    ∃ q, t.inquiries[i]? = some q ∧
      t.deeds (.receive i topic) =
        [.broke q.cluster.key (t.services.pool.handle? q.cluster.key)] ∧
      (t.receive i topic).services.pool = t.services.pool.markDisconnected q.cluster := by
  simp only [deeds, query?, receive]
  cases hq : t.inquiries[i]? with
  | none => exact .inl ⟨rfl, rfl⟩
  | some q =>
    cases hs : q.queries.find? topic with
    | none => exact .inl ⟨by simp [hs], by simp [hs]⟩
    | some stage =>
      cases stage with
      | due | done => exact .inl ⟨by simp [hs], by simp [hs]⟩
      | sent answer =>
        cases answer with
        | ok l =>
          obtain ⟨e, he⟩ : ∃ e, finding topic q.principal (.ok l) = .ok e := by
            simp only [finding]
            split <;> exact ⟨_, rfl⟩
          exact .inl ⟨by simp [hs], by simp [hs, he]⟩
        | error f =>
          cases hu : saysUnavailable f with
          | true => exact .inl ⟨by simp [hs, hu], by simp [hs, finding, hu]⟩
          | false =>
            cases hr : f.retryable with
            | false => exact .inl ⟨by simp [hs, hr], by simp [hs, finding, hu, hr]⟩
            | true => exact .inr ⟨q, rfl, by simp [hs, hu, hr], by simp [hs, finding, hu, hr]⟩

theorem trail_step (t : Flights) (x : Step) :
    Pool.Trail (t.deeds x) t.services.pool (t.step x).services.pool := by
  cases x with
  | call c topics credential =>
    rw [step, pool_call]
    exact .start _
  | send i topic =>
    obtain ⟨hdeeds, hpool⟩ | ⟨q, r, p, fleet, -, hdeeds, hg, alike, hpool⟩ := t.send_cases i topic
    · rw [step, hdeeds, hpool]
      exact .start _
    · have htrail := (Pool.Trail.start t.services.pool).asked q.cluster
      rw [hg] at htrail
      rw [step, hdeeds, hpool]
      exact htrail.other (Pool.Move.ask alike).moves
  | receive i topic =>
    obtain ⟨hdeeds, hpool⟩ | ⟨q, -, hdeeds, hpool⟩ := t.receive_cases i topic
    · rw [step, hdeeds, hpool]
      exact .start _
    · rw [step, hdeeds, hpool]
      exact (Pool.Trail.start _).broke q.cluster
  | other a quiet => exact t.services.trail_act quiet

/-- A step that asks something of one cluster changes nothing about the slots of others. -/
theorem held_step_ne (t : Flights) {x : Step} {c : Cluster} {k : ClusterKey}
    (about : t.about? x = some c) (h : c.key ≠ k) :
    (t.step x).services.pool.held k = t.services.pool.held k := by
  cases x with
  | call _ topics credential => rw [step, pool_call]
  | send i topic =>
    obtain ⟨-, hpool⟩ | ⟨q, r, p, fleet, hq, -, hg, -, hpool⟩ := t.send_cases i topic
    · rw [step, hpool]
    · simp only [about?, hq, Option.map_some, Option.some.injEq] at about
      subst about
      have hget := t.services.pool.held_getHandle_ne h
      rw [hg] at hget
      rw [step, hpool]
      exact hget
  | receive i topic =>
    obtain ⟨-, hpool⟩ | ⟨q, hq, -, hpool⟩ := t.receive_cases i topic
    · rw [step, hpool]
    · simp only [about?, hq, Option.map_some, Option.some.injEq] at about
      subst about
      rw [step, hpool]
      exact Services.held_mark_ne _ h
  | other a quiet => exact t.services.held_act_ne about h

end Flights

/-- What an event does that decides on handles. -/
def Event.deeds (e : Event) : List Deed := e.before.deeds e.step

/-- Calls on the services lead the pool from its beginning along a trail. -/
theorem Flights.Run.trail_start {past : List Event} {t : Flights} (run : Flights.Run past t) :
    ∃ config store,
      Pool.Trail (past.flatMap Event.deeds) (Pool.start config store .empty) t.services.pool := by
  induction run with
  | @start config store _ _ _ started =>
    refine ⟨config.pool, store, ?_⟩
    rw [(Services.start_ok started).1]
    exact .start _
  | @step past t run x ih =>
    obtain ⟨config, store, trail⟩ := ih
    refine ⟨config, store, ?_⟩
    simpa [Event.deeds] using trail.trans (t.trail_step x)

theorem Flights.Run.trail {past : List Event} {t : Flights} (run : Flights.Run past t) :
    ∃ p, Pool.Trail (past.flatMap Event.deeds) p t.services.pool := by
  obtain ⟨config, store, trail⟩ := run.trail_start
  exact ⟨_, trail⟩

/-- Once a request about a cluster failed in a way that may pass, or its handle was said to be
broken, the first handle that is given for it is not simply used again: it is the one that was kept
then and is reconnected, or it is a new one. And what is asked of a cluster, whether it fails or
not, changes nothing about what is kept for others. -/
theorem handles_renewed {past : List Event} {t : Flights} (run : Flights.Run past t) :
    (∀ (before between after : List Deed) (kept : Option Nat) (p : Pool) (c : Cluster) (h : Nat),
      past.flatMap Event.deeds =
        before ++ .broke c.key kept :: (between ++ .asked p c :: after) →
      Pool.Fails c.key between → (p.getHandle c).1 = .ok h → p.Renews c kept h) ∧
    (∀ (x : Flights.Step) (c : Cluster) (k : ClusterKey), t.about? x = some c → c.key ≠ k →
      (t.step x).services.pool.held k = t.services.pool.held k) ∧
    ∀ (a : Action) (c : Cluster) (k : ClusterKey), a.about? = some c → c.key ≠ k →
      (t.services.act a).pool.held k = t.services.pool.held k := by
  obtain ⟨start, trail⟩ := run.trail
  refine ⟨fun before between after kept p c h split failed given => ?_, fun x c k => ?_,
    fun a c k => ?_⟩
  · exact trail.renews split failed given
  · exact t.held_step_ne
  · exact t.services.held_act_ne

/-- A request for the topics of a cluster fails on the way, and another cluster is asked for. -/
def listedInVain : List Flights.Step :=
  [.other (.prepare { Fleet.empty with
      metadatas := [.error (Failure.transient "Connection reset by peer")] }) rfl,
    .other (.topics .native (.behind "conn" "main" "localhost:9092") (.list true)) rfl,
    .other (.getHandle (.behind "conn" "spare" "localhost:9093")) rfl]

/-- The handle of the cluster is up, and is reconnected all the same. The other cluster's stays as
it is. -/
theorem handles_renewed_listedInVain :
    let c := Cluster.behind "conn" "main" "localhost:9092"
    let t := listedInVain.foldl Flights.step ⟨.idle, []⟩
    t.services.pool.fleet.isUp 0 = true ∧ t.services.pool.Renews c (some 0) 0 ∧
      (t.services.act (.getHandle c)).pool.held ⟨"conn", "spare"⟩ = some ⟨1, 0, true⟩ := by
  intro c t
  have run (xs : List Flights.Step) :
      Flights.Run (events ⟨.idle, []⟩ xs) (xs.foldl Flights.step ⟨.idle, []⟩) :=
    (@Flights.Run.start {} .empty .signedOut .offline _ rfl).steps xs
  obtain ⟨renewed, -, -⟩ := handles_renewed (run (listedInVain ++ [.other (.getHandle c) rfl]))
  obtain ⟨-, -, spared⟩ := handles_renewed (run listedInVain)
  refine ⟨by decide, ?_, ?_⟩
  · refine renewed [.asked _ c] [.asked _ (.behind "conn" "spare" "localhost:9093")] [] (some 0)
      t.services.pool c 0 rfl ?_ rfl
    intro p c' hm hk
    cases List.mem_singleton.mp hm
    exact absurd hk (by decide)
  · exact (spared (.getHandle c) c ⟨"conn", "spare"⟩ rfl (by decide)).trans (by decide)

end ClusterAdmin
