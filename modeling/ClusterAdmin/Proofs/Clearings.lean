import ClusterAdmin.Proofs.Flights

namespace ClusterAdmin

open Acl Relation

/-- Overlapping calls have come to a state, after some events, the latest of which is last. -/
inductive Flights.Run : List Event → Flights → Prop
  | start {config : AdminConfig} {store : ConnectionStore} {session : CloudSession}
      {web : Rest.Web} {s : Services}
      (started : Services.start config store session .empty web = .ok s) : Flights.Run [] ⟨s, []⟩
  | step {past : List Event} {t : Flights} (run : Flights.Run past t) (x : Flights.Step) :
      Flights.Run (past ++ [⟨t, x⟩]) (t.step x)

/-- The events of some steps in a row. -/
def events (t : Flights) : List Flights.Step → List Event
  | [] => []
  | x :: xs => ⟨t, x⟩ :: events (t.step x) xs

theorem Flights.Run.steps {past : List Event} {t : Flights} (run : Flights.Run past t)
    (xs : List Flights.Step) : Flights.Run (past ++ events t xs) (xs.foldl Flights.step t) := by
  induction xs generalizing past t with
  | nil => simpa [events] using run
  | cons x xs ih => simpa [events] using ih (run.step x)

/-- The query of an inquiry about a topic is underway, and the inquiry has yet to store it. -/
def Flights.Underway (t : Flights) (i : Nat) (topic : String) : Prop :=
  ∃ q stage, t.inquiries[i]? = some q ∧ q.isSettled = false ∧
    q.queries.find? topic = some stage ∧ stage.isUnderway = true

/-- The answer that is remembered about a topic comes from a query of an inquiry: the query was
sent in one event, the inquiry stored what it found in another, and all is as it was since. -/
structure Serves (past : List Event) (k : TopicKey) (a : TopicAccess) (i sent stored : Nat) :
    Prop where
  sends : ∃ e principal answer, past[sent]? = some e ∧ e.Sends i k principal answer ∧
    evaluated? k.topic principal answer = some a
  once : ∀ n e principal answer, past[n]? = some e → e.Sends i k principal answer → n = sent
  stores : ∃ e, past[stored]? = some e ∧ e.Stores i k a
  passes : ∀ n e, stored < n → past[n]? = some e → e.Passes k

namespace Flights.Run

variable {past : List Event} {t : Flights} {e e' : Event} {n m i : Nat}

theorem getElem?_concat {x : Event} (h : (past ++ [x])[n]? = some e) :
    past[n]? = some e ∨ n = past.length ∧ e = x := by
  rcases Nat.lt_or_ge n past.length with hlt | hge
  · rw [List.getElem?_append_left hlt] at h
    exact .inl h
  · rw [List.getElem?_append_right hge, List.getElem?_singleton] at h
    obtain ⟨hn, he⟩ := Option.ite_none_right_eq_some.mp h
    exact .inr ⟨by omega, (Option.some.inj he).symm⟩

theorem lt_length (h : past[n]? = some e) : n < past.length :=
  (List.getElem?_eq_some_iff.mp h).1

/-- The events before one of them lead to the state in which it was. -/
theorem upTo (run : Flights.Run past t) (h : past[n]? = some e) :
    Flights.Run (past.take n) e.before := by
  induction run with
  | start => simp at h
  | step run x ih =>
    rcases getElem?_concat h with h | ⟨rfl, rfl⟩
    · rw [List.take_append_of_le_length (Nat.le_of_lt (lt_length h))]
      exact ih h
    · rw [List.take_left]
      exact run

theorem onward (run : Flights.Run past t) (h : past[n]? = some e) : e.after.Onward t := by
  induction run with
  | start => simp at h
  | step run x ih =>
    rcases getElem?_concat h with h | ⟨rfl, rfl⟩
    · exact (ih h).trans (Flights.onward_step _ x)
    · exact .refl _

theorem onward_between (run : Flights.Run past t) (h : past[n]? = some e) (h' : past[m]? = some e')
    (hlt : n < m) : e.after.Onward e'.before :=
  (run.upTo h').onward (by rw [List.getElem?_take_of_lt hlt, h])

/-- A query is sent once. -/
theorem sent_once (run : Flights.Run past t) {k : TopicKey} {principal principal' : String}
    {answer answer' : Except Failure AclListing} (h : past[n]? = some e)
    (h' : past[m]? = some e') (hs : e.Sends i k principal answer)
    (hs' : e'.Sends i k principal' answer') : n = m := by
  have hnot : ∀ {n m : Nat} {e e' : Event} {principal principal' : String}
      {answer answer' : Except Failure AclListing}, past[n]? = some e → past[m]? = some e' →
      e.Sends i k principal answer → e'.Sends i k principal' answer' → ¬n < m := by
    intro n m e e' _ _ _ _ h h' hs hs' hlt
    obtain ⟨_, q, -, hq, -, -, -, hsent⟩ := hs
    obtain ⟨q', _, hq', -, -, -, hdue, -⟩ := hs'
    obtain ⟨q'', hq'', l⟩ := run.onward_between h h' hlt i q hq
    cases Option.some.inj (hq''.symm.trans hq')
    obtain ⟨stage, hstage, l'⟩ := l.find? hsent
    cases Option.some.inj (hstage.symm.trans hdue)
    rcases QueryStage.eq_of_sent l' with hd | hd <;> cases hd
  have hle := hnot h h' hs hs'
  have hge := hnot h' h hs' hs
  omega

/-- A query that is underway was sent. -/
theorem sends (run : Flights.Run past t) {q : Inquiry} {topic : String} {stage : QueryStage}
    (hq : t.inquiries[i]? = some q) (hs : q.queries.find? topic = some stage)
    (underway : stage.isUnderway = true) :
    ∃ (n : Nat) (e : Event) (answer : Except Failure AclListing), past[n]? = some e ∧
      e.Sends i ⟨q.cluster.key, topic⟩ q.principal answer ∧
      ReflTransGen (QueryStage.Next topic q.principal) (.sent answer) stage := by
  induction run generalizing q stage with
  | start => simp at hq
  | @step past t run x ih =>
    have hlater : ∀ {q : Inquiry} {stage : QueryStage}, t.inquiries[i]? = some q →
        q.queries.find? topic = some stage → stage.isUnderway = true →
        ∃ (n : Nat) (e : Event) (answer : Except Failure AclListing),
          (past ++ [⟨t, x⟩])[n]? = some e ∧
          e.Sends i ⟨q.cluster.key, topic⟩ q.principal answer ∧
          ReflTransGen (QueryStage.Next topic q.principal) (.sent answer) stage := by
      intro q stage hq hs underway
      obtain ⟨n, e, answer, he, hsends⟩ := ih hq hs underway
      exact ⟨n, e, answer, by rw [List.getElem?_append_left (lt_length he), he], hsends⟩
    cases hbefore : t.inquiries[i]? with
    | none =>
      rw [Flights.due_of_new hbefore hq hs] at underway
      cases underway
    | some p =>
      obtain ⟨p', hp', on⟩ := Flights.getsOn_step (x := x) hbefore
      cases Option.some.inj (hp'.symm.trans hq)
      cases on with
      | same => exact hlater hbefore hs underway
      | @put topic' old new found next =>
        rw [Inquiry.put, Table.find?_insert] at hs
        split at hs
        · rename_i he
          cases hs
          cases he
          cases next with
          | sent answer =>
            have hat : (past ++ [⟨t, x⟩])[past.length]? = some ⟨t, x⟩ :=
              List.getElem?_concat_length
            exact ⟨_, _, answer, hat, ⟨p, _, hbefore, hq, rfl, rfl, found, by simp [Inquiry.put]⟩,
              .refl⟩
          | refused f => cases underway
          | answered answer =>
            obtain ⟨n, e, answer', he, hsends, l⟩ := hlater hbefore found rfl
            exact ⟨n, e, answer', he, hsends, l.tail (.answered answer)⟩
        · exact hlater (q := p) hbefore hs underway

/-- What is remembered was stored in some event, and nothing about it has changed since. -/
theorem stores (run : Flights.Run past t) {k : TopicKey} {c : CachedAccess}
    (h : t.services.access.entries.find? k = some c) :
    ∃ (n : Nat) (e : Event) (i : Nat), past[n]? = some e ∧ e.Stores i k c.access ∧
      ∀ (m : Nat) (e' : Event), n < m → past[m]? = some e' → e'.Passes k := by
  induction run generalizing c with
  | start started =>
    rw [(Services.start_ok started).2] at h
    cases h
  | @step past t run x ih =>
    have hat : (past ++ [⟨t, x⟩])[past.length]? = some ⟨t, x⟩ := List.getElem?_concat_length
    cases Event.outcome ⟨t, x⟩ k with
    | cleared _ gone => cases h.symm.trans gone
    | stored hs new =>
      cases h.symm.trans new
      refine ⟨past.length, _, _, hat, hs, fun m e' hm he' => ?_⟩
      have hlt := lt_length he'
      rw [List.length_append, List.length_singleton] at hlt
      omega
    | passed hp same =>
      obtain ⟨n, e, i, he, hs, hpasses⟩ := ih (same.symm.trans h)
      refine ⟨n, e, i, by rw [List.getElem?_append_left (lt_length he), he], hs, ?_⟩
      intro m e' hm he'
      rcases getElem?_concat he' with he' | ⟨-, rfl⟩
      · exact hpasses m e' hm he'
      · exact hp

/-- What memory holds about a topic comes from a query. -/
theorem serves (run : Flights.Run past t) {k : TopicKey} {c : CachedAccess}
    (h : t.services.access.entries.find? k = some c) :
    ∃ i sent stored, Serves past k c.access i sent stored := by
  obtain ⟨stored, e, i, he, hstores, hpasses⟩ := run.stores h
  obtain ⟨-, q, -, hq, -, -, hkept⟩ := id hstores
  obtain ⟨hk, hdone⟩ := Inquiry.exists_of_stored? hkept
  have hat := (run.upTo he).step e.step
  obtain ⟨sent, e', answer, he', hsends, l⟩ := hat.sends hq hdone rfl
  rw [hk] at hsends
  have hsent : past[sent]? = some e' := by
    rcases getElem?_concat he' with he' | ⟨-, rfl⟩
    · have hlt := lt_length he'
      rw [List.length_take] at hlt
      rwa [List.getElem?_take_of_lt (by omega)] at he'
    · obtain ⟨-, q', -, hq', -, -, -, hstage⟩ := hsends
      cases Option.some.inj (hq.symm.trans hq')
      cases Option.some.inj (hdone.symm.trans hstage)
  have htold : evaluated? k.topic q.principal answer = some c.access := by
    rcases QueryStage.eq_of_sent l with hd | hd
    · cases hd
    · rw [← kept?_finding, ← kept?_mapError (queryFailure k.topic), ← QueryStage.done.inj hd]
      rfl
  exact ⟨i, sent, stored, ⟨e', _, answer, hsent, hsends, htold⟩,
    fun n x _ _ hx hs => run.sent_once hx hsent hs hsends, ⟨e, he, hstores⟩, hpasses⟩

end Flights.Run

namespace Serves

variable {past : List Event} {t : Flights} {k : TopicKey} {a : TopicAccess} {i sent stored n : Nat}
  {x : Event}

/-- What was cleared was stored again since. -/
theorem lt_of_clears (h : Serves past k a i sent stored) (hx : past[n]? = some x)
    (clears : x.step.clears k = true) : n < stored := by
  obtain ⟨e, he, hstores⟩ := h.stores
  rcases Nat.lt_trichotomy n stored with hlt | rfl | hgt
  · exact hlt
  · cases Option.some.inj (hx.symm.trans he)
    rw [hstores.clears] at clears
    cases clears
  · rw [(h.passes n x hgt hx).1] at clears
    cases clears

theorem ne_of_clears (h : Serves past k a i sent stored) (hx : past[n]? = some x)
    (clears : x.step.clears k = true) : n ≠ sent := by
  obtain ⟨e, principal, answer, he, hsends, -⟩ := h.sends
  rintro rfl
  cases Option.some.inj (hx.symm.trans he)
  rw [hsends.clears] at clears
  cases clears

/-- Between being sent and being stored a query is underway. -/
theorem underway (run : Flights.Run past t) (h : Serves past k a i sent stored)
    (hx : past[n]? = some x) (hsent : sent < n) (hstored : n < stored) :
    x.before.Underway i k.topic := by
  obtain ⟨e, principal, answer, he, ⟨-, q, -, hq, -, -, -, hstage⟩, -⟩ := h.sends
  obtain ⟨e', he', p, p', hp, hp', hopen, -, hkept⟩ := h.stores
  obtain ⟨-, hdone⟩ := Inquiry.exists_of_stored? hkept
  obtain ⟨r, hr, hqr⟩ := run.onward_between he hx hsent i q hq
  obtain ⟨p₁, hp₁, hrp⟩ := (Flights.onward_step x.before x.step).trans
    (run.onward_between hx he' hstored) i r hr
  cases Option.some.inj (hp₁.symm.trans hp)
  obtain ⟨p₂, hp₂, hpp⟩ := Flights.onward_step e'.before e'.step i p hp
  cases Option.some.inj (hp₂.symm.trans hp')
  obtain ⟨stage, hs, l⟩ := hqr.find? hstage
  obtain ⟨last, hlast, l'⟩ := (hrp.trans hpp).find? hs
  cases Option.some.inj (hlast.symm.trans hdone)
  rw [hqr.principal] at l'
  refine ⟨r, stage, hr, ?_, hs, QueryStage.isUnderway_of_between l l'⟩
  cases hsettled : r.isSettled with
  | false => rfl
  | true =>
    rw [hrp.isSettled hsettled] at hopen
    cases hopen

end Serves

/-- A call about a topic; memory is cleared while its query is underway. -/
def askedAndCleared (clear : Action) (quiet : clear.asks = false) : List Flights.Step :=
  [.call (.behind "conn" "main" "localhost:9092") ["orders"] (.ofUser "alice"), .send 0 "orders",
    .other clear quiet, .receive 0 "orders"]

/-- An answer from memory was stored after each time its topic was cleared. Its query was sent
after that as well, unless it was underway at the time. -/
theorem hits_stored_since_clearing {past : List Event} {t : Flights} (run : Flights.Run past t)
    {c : Cluster} {topic : String} {a : TopicAccess}
    (hit : t.services.recalled c topic = some a) :
    ∃ i sent stored, Serves past ⟨c.key, topic⟩ a i sent stored ∧
      ∀ n e, past[n]? = some e → e.step.clears ⟨c.key, topic⟩ = true →
        n < stored ∧ (n < sent ∨ e.before.Underway i topic) := by
  obtain ⟨e, he, rfl, -⟩ := Services.recalled_eq_some.mp hit
  obtain ⟨i, sent, stored, serves⟩ := run.serves he
  refine ⟨i, sent, stored, serves, fun n x hx clears => ?_⟩
  have hstored := serves.lt_of_clears hx clears
  rcases Nat.lt_or_gt_of_ne (serves.ne_of_clears hx clears) with hlt | hgt
  · exact ⟨hstored, .inl hlt⟩
  · exact ⟨hstored, .inr (serves.underway run hx hgt hstored)⟩

/-- The connection is forgotten while the query is underway, and what it finds is remembered. -/
theorem hits_stored_since_clearing_underway :
    let c := Cluster.behind "conn" "main" "localhost:9092"
    let xs := askedAndCleared (.forgetConnection "conn") rfl
    let t := xs.foldl Flights.step ⟨.idle, []⟩
    Flights.Run (events ⟨.idle, []⟩ xs) t ∧
      t.services.recalled c "orders" = some (.ofOperations everyTopicOperation) ∧
      ∃ i sent stored, Serves (events ⟨.idle, []⟩ xs) ⟨c.key, "orders"⟩
          (.ofOperations everyTopicOperation) i sent stored ∧
        ∀ n e, (events ⟨.idle, []⟩ xs)[n]? = some e →
          e.step.clears ⟨c.key, "orders"⟩ = true →
          n < stored ∧ (n < sent ∨ e.before.Underway i "orders") := by
  intro c xs t
  have run : Flights.Run (events ⟨.idle, []⟩ xs) t :=
    (@Flights.Run.start {} .empty .signedOut .offline _ rfl).steps xs
  have hit : t.services.recalled c "orders" = some (.ofOperations everyTopicOperation) := by decide
  exact ⟨run, hit, hits_stored_since_clearing run hit⟩

/-- No answer from memory comes from a query that was sent before its topic was cleared in a
certain way. -/
def SentSince (clear : Action) : Prop :=
  ∀ past t, Flights.Run past t → ∀ c topic a i sent stored, t.services.recalled c topic = some a →
    Serves past ⟨c.key, topic⟩ a i sent stored → ∀ n e quiet, past[n]? = some e →
      e.step = .other clear quiet → clear.clears ⟨c.key, topic⟩ = true → n < sent

theorem not_sentSince {clear : Action} (quiet : clear.asks = false)
    (clears : clear.clears ⟨⟨"conn", "main"⟩, "orders"⟩ = true)
    (hit : (((askedAndCleared clear quiet).foldl Flights.step ⟨.idle, []⟩).services.recalled
      (.behind "conn" "main" "localhost:9092") "orders").isSome) : ¬SentSince clear := by
  intro h
  have run := (@Flights.Run.start {} .empty .signedOut .offline _ rfl).steps
    (askedAndCleared clear quiet)
  obtain ⟨a, ha⟩ := Option.isSome_iff_exists.mp hit
  obtain ⟨e, he, rfl, -⟩ := Services.recalled_eq_some.mp ha
  obtain ⟨i, sent, stored, serves⟩ := run.serves he
  have hlater : 2 < sent := h _ _ run _ _ _ i sent stored ha serves 2 _ quiet rfl rfl clears
  obtain ⟨x, principal, answer, hx, ⟨q, -, hq, -, -, -, hdue, -⟩, -⟩ := serves.sends
  -- only the last event is later, and there the query is on its way already
  have hlast : sent = 3 := by
    have hlt : sent < 4 := Flights.Run.lt_length hx
    omega
  subst hlast
  cases hx
  cases i with
  | zero =>
    cases hq
    cases hdue
  | succ i => cases hq

/-- However memory is cleared, it may then answer from a query that was sent before. -/
theorem hits_sent_before_clearing :
    ¬SentSince (.forgetConnection "conn") ∧
      ¬SentSince (.clearAccessOfCluster (.behind "conn" "main" "localhost:9092")) ∧
      ¬SentSince .clearAccess :=
  ⟨not_sentSince rfl rfl (by decide), not_sentSince rfl rfl (by decide),
    not_sentSince rfl rfl (by decide)⟩

end ClusterAdmin
