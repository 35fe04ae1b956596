import Mathlib.Data.Option.Basic
import Mathlib.Logic.Relation
import ClusterAdmin.Services.Flights
import ClusterAdmin.Proofs.Recollection

namespace ClusterAdmin

open Acl Relation

namespace QueryStage

/-- The query was sent and has not failed. -/
def isUnderway : QueryStage → Bool
  | sent _ | done (.ok _) => true
  | due | done (.error _) => false

/-- What there is to remember of a query. -/
def kept? : QueryStage → Option TopicAccess
  | done r => Acl.kept? r
  | due | sent _ => none

/-- One step of a query about a topic on behalf of a principal. -/
inductive Next (topic principal : String) : QueryStage → QueryStage → Prop
  | sent (answer : Except Failure AclListing) : Next topic principal due (sent answer)
  | refused (f : Failure) : Next topic principal due (done (.error f))
  | answered (answer : Except Failure AclListing) : Next topic principal (sent answer)
      (done ((finding topic principal answer).mapError (queryFailure topic)))

variable {topic principal : String}

theorem Next.isDone {stage stage' : QueryStage} (h : Next topic principal stage stage') :
    stage.isDone = false := by
  cases h <;> rfl

theorem eq_of_done {r : Except Failure Finding} {stage : QueryStage}
    (h : ReflTransGen (Next topic principal) (done r) stage) : stage = done r := by
  rcases h.cases_head with rfl | ⟨_, hn, -⟩
  · rfl
  · cases hn

theorem eq_of_sent {answer : Except Failure AclListing} {stage : QueryStage}
    (h : ReflTransGen (Next topic principal) (sent answer) stage) :
    stage = sent answer ∨
      stage = done ((finding topic principal answer).mapError (queryFailure topic)) := by
  rcases h.cases_head with rfl | ⟨_, hn, hl⟩
  · exact .inl rfl
  · cases hn
    exact .inr (eq_of_done hl)

theorem isDone_of_isDone {stage stage' : QueryStage}
    (h : ReflTransGen (Next topic principal) stage stage') (hd : stage.isDone = true) :
    stage'.isDone = true := by
  cases stage with
  | done r => rw [eq_of_done h]; rfl
  | due | sent => cases hd

/-- Between being sent and having found something a query is underway. -/
theorem isUnderway_of_between {answer : Except Failure AclListing} {stage : QueryStage}
    {e : Finding} (h : ReflTransGen (Next topic principal) (sent answer) stage)
    (h' : ReflTransGen (Next topic principal) stage (done (.ok e))) : stage.isUnderway = true := by
  rcases eq_of_sent h with rfl | rfl
  · rfl
  · rw [← eq_of_done h']
    rfl

end QueryStage

namespace Inquiry

variable {q q' q'' : Inquiry}

theorem isSettled_iff : q.isSettled = true ↔
    ∀ topic stage, q.queries.find? topic = some stage → stage.isDone = true := by
  simp only [isSettled, Table.values, List.all_map, List.all_eq_true, Table.find?_eq_some_iff]
  exact ⟨fun h topic stage hm => h _ hm, fun h x hx => h _ _ hx⟩

theorem isSettled_of_not_isDone {topic : String} {stage : QueryStage}
    (hs : q.queries.find? topic = some stage) (undone : stage.isDone = false) :
    q.isSettled = false := by
  cases h : q.isSettled with
  | false => rfl
  | true =>
    rw [isSettled_iff.mp h topic stage hs] at undone
    cases undone

theorem mem_outcomes {topic : String} {r : Except Failure Finding} :
    (topic, r) ∈ q.outcomes ↔ q.queries.find? topic = some (.done r) := by
  rw [Table.find?_eq_some_iff, outcomes, List.mem_filterMap]
  constructor
  · rintro ⟨⟨t, stage⟩, hm, h⟩
    cases stage <;> cases h
    exact hm
  · exact fun hm => ⟨_, hm, rfl⟩

@[simp] theorem cluster_put (q : Inquiry) (topic : String) (stage : QueryStage) :
    (q.put topic stage).cluster = q.cluster := rfl

@[simp] theorem principal_put (q : Inquiry) (topic : String) (stage : QueryStage) :
    (q.put topic stage).principal = q.principal := rfl

theorem put_put (q : Inquiry) (topic : String) (stage stage' : QueryStage) :
    (q.put topic stage).put topic stage' = q.put topic stage' := by
  simp only [put, Table.insert_insert]

/-- The answer about a topic that is stored when the inquiry is settled. -/
def stored? (q : Inquiry) (k : TopicKey) : Option TopicAccess :=
  if q.cluster.key = k.cluster then (q.queries.find? k.topic).bind QueryStage.kept? else none

theorem exists_of_stored? {k : TopicKey} {a : TopicAccess} (h : q.stored? k = some a) :
    q.cluster.key = k.cluster ∧ q.queries.find? k.topic = some (.done (.ok ⟨a, true⟩)) := by
  obtain ⟨hk, hb⟩ := Option.ite_none_right_eq_some.mp h
  obtain ⟨stage, hs, ha⟩ := Option.bind_eq_some_iff.mp hb
  refine ⟨hk, hs.trans ?_⟩
  cases stage with
  | due | sent => cases ha
  | done r =>
    cases r with
    | error f => cases ha
    | ok e =>
      obtain ⟨access, cacheable⟩ := e
      obtain ⟨hc, he⟩ := Option.ite_none_right_eq_some.mp ha
      cases hc
      cases he
      rfl

/-- Settling stores what the inquiry has found about each of its topics. -/
theorem find?_keepable (k : TopicKey) :
    (Table.ofList (Services.keepable q.cluster q.outcomes)).find? k = q.stored? k := by
  apply Table.find?_ofList_eq
  intro a
  simp only [Services.keepable, List.mem_filterMap, Option.map_eq_some_iff, Prod.mk.injEq]
  constructor
  · rintro ⟨⟨t, r⟩, hm, b, hb, rfl, rfl⟩
    simpa [stored?, mem_outcomes.mp hm, QueryStage.kept?] using hb
  · intro h
    obtain ⟨hk, hs⟩ := exists_of_stored? h
    exact ⟨(k.topic, .ok ⟨a, true⟩), mem_outcomes.mpr hs, a, rfl, by simp [hk], rfl⟩

/-- An inquiry has these outcomes and is yet to ask about these topics. -/
def Stands (q : Inquiry) (found : List (String × Except Failure Finding)) (due : List String) :
    Prop :=
  q.queries.entries = found.map (fun x => (x.1, .done x.2)) ++ due.map (·, .due)

section

variable {found : List (String × Except Failure Finding)} {due : List String} {topic : String}

theorem Stands.find? (h : q.Stands found (topic :: due)) :
    q.queries.find? topic = some .due := by
  rw [Table.find?_eq_some_iff, show q.queries.entries = _ from h]
  simp

theorem Stands.put (h : q.Stands found (topic :: due)) (r : Except Failure Finding) :
    (q.put topic (.done r)).Stands (found ++ [(topic, r)]) due := by
  have hnodup := q.queries.keys_nodup
  rw [show q.queries.entries = _ from h, List.map_append, List.nodup_append] at hnodup
  have hfresh : topic ∉ (found.map fun x => (x.1, QueryStage.done x.2)).map (·.1) :=
    fun hm => hnodup.2.2 _ hm _ (by simp) rfl
  change Table.put topic (.done r) q.queries.entries = _
  rw [show q.queries.entries = _ from h, List.map_cons, Table.put_append_cons hfresh]
  simp

theorem Stands.isSettled (h : q.Stands found due) : q.isSettled = due.isEmpty := by
  rw [Inquiry.isSettled, Table.values, show q.queries.entries = _ from h]
  cases due <;> simp [QueryStage.isDone]

theorem Stands.outcomes (h : q.Stands found due) : q.outcomes = found := by
  rw [Inquiry.outcomes, show q.queries.entries = _ from h]
  simp [List.filterMap_append, List.filterMap_map]

end

/-- An inquiry in one step: nothing happens to it, or one of its queries gets on. -/
inductive GetsOn (q : Inquiry) : Inquiry → Prop
  | same : GetsOn q q
  | put {topic : String} {stage stage' : QueryStage} (found : q.queries.find? topic = some stage)
      (next : QueryStage.Next topic q.principal stage stage') : GetsOn q (q.put topic stage')

/-- An inquiry at two times. -/
structure Onward (q q' : Inquiry) : Prop where
  cluster : q'.cluster = q.cluster
  principal : q'.principal = q.principal
  queries : ∀ topic, Option.Rel (ReflTransGen (QueryStage.Next topic q.principal))
    (q.queries.find? topic) (q'.queries.find? topic)

theorem Onward.refl (q : Inquiry) : q.Onward q := by
  refine ⟨rfl, rfl, fun topic => ?_⟩
  cases q.queries.find? topic with
  | none => exact .none
  | some stage => exact .some .refl

theorem Onward.trans (h : q.Onward q') (h' : q'.Onward q'') : q.Onward q'' := by
  refine ⟨h'.cluster.trans h.cluster, h'.principal.trans h.principal, fun topic => ?_⟩
  have hfirst := h.queries topic
  have hsecond := h'.queries topic
  rw [h.principal] at hsecond
  generalize q.queries.find? topic = x, q'.queries.find? topic = y,
    q''.queries.find? topic = z at hfirst hsecond
  cases hfirst with
  | none =>
    cases hsecond
    exact .none
  | some l =>
    cases hsecond with
    | some l' => exact .some (l.trans l')

theorem GetsOn.onward (h : q.GetsOn q') : q.Onward q' := by
  cases h with
  | same => exact .refl q
  | @put topic stage stage' found next =>
    refine ⟨rfl, rfl, fun topic' => ?_⟩
    rw [Inquiry.put, Table.find?_insert]
    split
    · rename_i he
      rw [← he, found]
      exact .some (.single next)
    · exact (Onward.refl q).queries topic'

theorem Onward.find? (h : q.Onward q') {topic : String} {stage : QueryStage}
    (hs : q.queries.find? topic = some stage) :
    ∃ stage', q'.queries.find? topic = some stage' ∧
      ReflTransGen (QueryStage.Next topic q.principal) stage stage' := by
  have hrel := h.queries topic
  rw [hs] at hrel
  generalize q'.queries.find? topic = y at hrel
  cases hrel with
  | some l => exact ⟨_, rfl, l⟩

theorem Onward.isSettled (h : q.Onward q') (hs : q.isSettled = true) : q'.isSettled = true := by
  rw [isSettled_iff] at hs ⊢
  intro topic stage' hf
  have hrel := h.queries topic
  rw [hf] at hrel
  cases hq : q.queries.find? topic with
  | none =>
    rw [hq] at hrel
    cases hrel
  | some stage =>
    rw [hq] at hrel
    cases hrel with
    | some l => exact QueryStage.isDone_of_isDone l (hs topic stage hq)

end Inquiry

namespace Flights

/-- A step of overlapping calls: one of a call about topics, or an action in between. -/
inductive Step where
  | call (c : Cluster) (topics : List String) (credential : Credential)
  | send (i : Nat) (topic : String)
  | receive (i : Nat) (topic : String)
  | other (a : Action) (quiet : a.asks = false)

/-- Whether a step clears what is remembered about a topic. -/
def Step.clears (k : TopicKey) : Step → Bool
  | other a _ => a.clears k
  | call .. | send .. | receive .. => false

def step (t : Flights) : Step → Flights
  | .call c topics credential => t.call c topics credential
  | .send i topic => t.send i topic
  | .receive i topic => t.receive i topic
  | .other a _ => { t with services := t.services.act a }

/-- Everything that a step can come to. -/
inductive Change (t : Flights) : Step → Flights → Prop
  /-- Look-ups are counted. -/
  | counted {x : Step} (n : AccessStats) (clears : ∀ k, x.clears k = false) :
      Change t x { t with services := t.services.recount n }
  | opened {x : Step} (n : AccessStats) (q : Inquiry) (clears : ∀ k, x.clears k = false)
      (due : ∀ topic stage, q.queries.find? topic = some stage → stage = .due) :
      Change t x ⟨t.services.recount n, t.inquiries ++ [q]⟩
  | gotOn {x : Step} {i : Nat} {q : Inquiry} {topic : String} {stage stage' : QueryStage}
      {s : Services} (clears : ∀ k, x.clears k = false) (inquiry : t.inquiries[i]? = some q)
      (found : q.queries.find? topic = some stage)
      (next : QueryStage.Next topic q.principal stage stage')
      (access : s.access.entries = t.services.access.entries) (now : s.now = t.services.now) :
      Change t x ({ t with services := s }.conclude i (q.put topic stage'))
  | acted (a : Action) (quiet : a.asks = false) :
      Change t (.other a quiet) { t with services := t.services.act a }

variable {t t' t'' : Flights}

theorem Change.none {x : Step} (clears : ∀ k, x.clears k = false) : Change t x t :=
  .counted t.services.access.stats clears

theorem change_call (t : Flights) (c : Cluster) (topics : List String) (credential : Credential) :
    Change t (.call c topics credential) (t.call c topics credential) := by
  simp only [call, Services.lookUpEach_eq, List.nil_append]
  split
  · rename_i topic more principal _ _
    refine .opened _ _ (fun _ => rfl) fun topic' stage h => ?_
    obtain ⟨_, -, he⟩ := List.mem_map.mp (Table.mem_of_find?_ofList h)
    exact (Prod.mk.inj he).2.symm
  · exact .counted _ fun _ => rfl

theorem change_send (t : Flights) (i : Nat) (topic : String) :
    Change t (.send i topic) (t.send i topic) := by
  simp only [send]
  split
  · exact .none fun _ => rfl
  rename_i q hq
  split
  · rename_i hs
    have hnow := t.services.pool.now_getHandle q.cluster
    split
    all_goals
      rename_i hg
      rw [hg] at hnow
    · exact .gotOn (fun _ => rfl) hq hs (.refused _) rfl hnow
    · exact .gotOn (fun _ => rfl) hq hs (.sent _) rfl hnow
  · exact .none fun _ => rfl

theorem change_receive (t : Flights) (i : Nat) (topic : String) :
    Change t (.receive i topic) (t.receive i topic) := by
  simp only [receive]
  split
  · exact .none fun _ => rfl
  rename_i q hq
  split
  · rename_i answer hs
    have hn : QueryStage.Next topic q.principal _ _ := .answered answer
    split
    all_goals
      rename_i hf
      rw [hf] at hn
    · exact .gotOn (fun _ => rfl) hq hs hn rfl rfl
    · refine .gotOn (fun _ => rfl) hq hs hn rfl ?_
      split
      · exact Pool.now_markDisconnected _ _
      · rfl
  · exact .none fun _ => rfl

theorem change_step (t : Flights) (x : Step) : Change t x (t.step x) := by
  cases x with
  | call c topics credential => exact t.change_call c topics credential
  | send i topic => exact t.change_send i topic
  | receive i topic => exact t.change_receive i topic
  | other a quiet => exact .acted a quiet

@[simp] theorem inquiries_conclude (t : Flights) (i : Nat) (q : Inquiry) :
    (t.conclude i q).inquiries = t.inquiries.set i q := rfl

/-- A query whose answer comes at once is a query by itself. -/
theorem receive_send {i : Nat} {q : Inquiry} {topic : String} (hq : t.inquiries[i]? = some q)
    (hs : q.queries.find? topic = some .due) :
    (t.send i topic).receive i topic =
      { t with services := (t.services.query q.cluster q.principal topic).2 }.conclude i
        (q.put topic (.done (t.services.query q.cluster q.principal topic).1)) := by
  have hput : ∀ stage, (t.inquiries.set i (q.put topic stage))[i]? = some (q.put topic stage) :=
    fun stage => List.getElem?_set_self (List.getElem?_eq_some_iff.mp hq).1
  have hfound : ∀ stage, (q.put topic stage).queries.find? topic = some stage :=
    fun stage => by simp [Inquiry.put]
  have hopen : ∀ answer, (q.put topic (.sent answer)).isSettled = false :=
    fun answer => Inquiry.isSettled_of_not_isDone (hfound _) rfl
  cases hg : t.services.pool.getHandle q.cluster with
  | mk r pool =>
    cases r with
    | error f =>
      have hsend : t.send i topic = { t with services := { t.services with pool } }.conclude i
          (q.put topic (.done (.error (queryFailure topic f)))) := by
        simp only [send, hq, hs, hg]
      rw [hsend, receive, inquiries_conclude, hput]
      simp only [hfound, Services.query, hg]
    | ok h =>
      obtain ⟨answer, hanswer⟩ : ∃ a, pool.fleet.describeAcls h (AclFilter.forTopic topic) = a :=
        ⟨_, rfl⟩
      have hsend : t.send i topic = ⟨{ t.services with
          pool := { pool with fleet := answer.2 }
          access := t.services.access.countQuery },
          t.inquiries.set i (q.put topic (.sent answer.1))⟩ := by
        simp [send, hq, hs, hg, hanswer, conclude, hopen]
      simp only [hsend, receive, hput, hfound, Services.query, hg, hanswer]
      cases hf : finding topic q.principal answer.1 with
      | ok e => simp [hf, conclude, Inquiry.put_put]
      | error f => simp [hf, conclude, Inquiry.put_put]

/-- The steps by which an inquiry asks about topics one after another. -/
def asking (i : Nat) (topics : List String) : List Step :=
  topics.flatMap fun topic => [.send i topic, .receive i topic]

theorem asking_of_new {i : Nat} (new : t.inquiries[i]? = none) (topics : List String) :
    (asking i topics).foldl step t = t := by
  induction topics with
  | nil => rfl
  | cons topic topics ih =>
    have hnothing : (t.send i topic).receive i topic = t := by simp only [send, receive, new]
    exact (congrArg ((asking i topics).foldl step) hnothing).trans ih

/-- An inquiry that asks about topics one after another comes to the queries one after another,
settled at the end. -/
theorem services_asking {i : Nat} {topic : String} {due : List String} {q : Inquiry}
    {found : List (String × Except Failure Finding)} (hq : t.inquiries[i]? = some q)
    (stands : q.Stands found (topic :: due)) :
    ((asking i (topic :: due)).foldl step t).services =
      (Services.settle q.cluster
        (found ++ (Services.queryEach q.cluster q.principal (topic :: due) t.services).1)
        (Services.queryEach q.cluster q.principal (topic :: due) t.services).2).2 := by
  induction due generalizing t q found topic with
  | nil =>
    change ((t.send i topic).receive i topic).services = _
    have hput := stands.put (t.services.query q.cluster q.principal topic).1
    have hsettled := hput.isSettled
    rw [receive_send hq stands.find?]
    simp [conclude, hsettled, hput.outcomes, Services.queryEach]
  | cons topic' due ih =>
    have hput := stands.put (t.services.query q.cluster q.principal topic).1
    have hopen := hput.isSettled
    change ((asking i (topic' :: due)).foldl step ((t.send i topic).receive i topic)).services = _
    rw [receive_send hq stands.find?]
    have hset : ({ t with
        services := (t.services.query q.cluster q.principal topic).2 }.conclude i
          (q.put topic (.done (t.services.query q.cluster q.principal topic).1))).inquiries[i]? =
        some (q.put topic (.done (t.services.query q.cluster q.principal topic).1)) :=
      List.getElem?_set_self (List.getElem?_eq_some_iff.mp hq).1
    rw [ih hset hput]
    simp [conclude, hopen, Services.queryEach]

/-- A call whose steps are taken with nothing in between leaves the services as the call does. -/
theorem services_call_asking (t : Flights) (c : Cluster) (topics : List String)
    (credential : Credential) :
    ((asking t.inquiries.length (t.services.unknown c topics.eraseDups)).foldl step
        (t.call c topics credential)).services =
      (t.services.topicAccesses c topics credential).2 := by
  have hnew : ∀ s : Services, (⟨s, t.inquiries⟩ : Flights).inquiries[t.inquiries.length]? = none :=
    fun s => List.getElem?_eq_none (Nat.le_refl _)
  rw [Services.topicAccesses_tally, call, Services.lookUpEach_eq, Services.unseen_nil]
  simp only [List.nil_append]
  cases hu : t.services.unknown c topics.eraseDups with
  | nil => simp [asking]
  | cons topic due =>
    cases Principal.ofCredential credential with
    | underivable why => simp [asking_of_new (hnew _)]
    | user principal =>
      have hnodup : (((topic :: due).map (·, QueryStage.due)).map (·.1)).Nodup := by
        rw [List.map_map, show ((·.1) ∘ (·, QueryStage.due) : String → String) = id from rfl,
          List.map_id, ← hu]
        exact (Services.nodup_eraseDups topics).filter _
      have hstands : (⟨c, principal, Table.ofList ((topic :: due).map (·, .due))⟩ : Inquiry).Stands
          [] (topic :: due) := Table.entries_ofList hnodup
      simp only [List.isEmpty_cons, Bool.false_eq_true, ↓reduceIte]
      rw [services_asking (List.getElem?_concat_length ..) hstands, List.nil_append]
      split
      all_goals
        rename_i hs
        rw [hs]

/-- What is remembered once an inquiry has got on: what it stores if it is settled now, or what was
there before. -/
theorem find?_conclude (t : Flights) (i : Nat) (q : Inquiry) (k : TopicKey) :
    (t.conclude i q).services.access.entries.find? k =
      if q.isSettled then
        ((q.stored? k).map (⟨·, t.services.now⟩)).or (t.services.access.entries.find? k)
      else t.services.access.entries.find? k := by
  simp only [conclude]
  split
  · rw [Services.settle_snd]
    simp only [AccessCache.find?_storeAll, Inquiry.find?_keepable]
  · rfl

/-- An inquiry is still there after a step. -/
theorem getsOn_step {x : Step} {i : Nat} {q : Inquiry} (h : t.inquiries[i]? = some q) :
    ∃ q', (t.step x).inquiries[i]? = some q' ∧ q.GetsOn q' := by
  have hc := t.change_step x
  generalize t.step x = t' at hc
  cases hc with
  | counted | acted => exact ⟨q, h, .same⟩
  | opened n q' =>
    exact ⟨q, by rw [List.getElem?_append_left (List.getElem?_eq_some_iff.mp h).1, h], .same⟩
  | @gotOn x j q' topic stage stage' s clears inquiry found next =>
    simp only [inquiries_conclude]
    by_cases hij : j = i
    · subst hij
      cases Option.some.inj (inquiry.symm.trans h)
      exact ⟨_, List.getElem?_set_self (List.getElem?_eq_some_iff.mp h).1, .put found next⟩
    · exact ⟨q, by rw [List.getElem?_set_ne hij, h], .same⟩

/-- The queries of an inquiry that was not there before a step are all due. -/
theorem due_of_new {x : Step} {i : Nat} {q : Inquiry} (new : t.inquiries[i]? = none)
    (h : (t.step x).inquiries[i]? = some q) {topic : String} {stage : QueryStage}
    (hs : q.queries.find? topic = some stage) : stage = .due := by
  have hc := t.change_step x
  generalize t.step x = t' at hc h
  cases hc with
  | counted | acted => simp [new] at h
  | opened n q' clears due =>
    have hlast : q = q' := by
      rw [List.getElem?_append_right (List.getElem?_eq_none_iff.mp new)] at h
      exact List.mem_singleton.mp (List.mem_of_getElem? h)
    exact due topic stage (hlast ▸ hs)
  | gotOn _ inquiry =>
    rw [inquiries_conclude, List.getElem?_set] at h
    split at h
    · rename_i hij
      rw [hij, new] at inquiry
      cases inquiry
    · rw [new] at h
      cases h

/-- A step that clears does nothing else to inquiries. -/
theorem inquiries_of_clears {x : Step} {k : TopicKey} (h : x.clears k = true) :
    (t.step x).inquiries = t.inquiries := by
  cases x with
  | other => rfl
  | call | send | receive => cases h

/-- Overlapping calls at two times. -/
def Onward (t t' : Flights) : Prop :=
  ∀ (i : Nat) (q : Inquiry), t.inquiries[i]? = some q →
    ∃ q', t'.inquiries[i]? = some q' ∧ q.Onward q'

theorem Onward.refl (t : Flights) : t.Onward t := fun _ q h => ⟨q, h, .refl q⟩

theorem Onward.trans (h : t.Onward t') (h' : t'.Onward t'') : t.Onward t'' := by
  intro i q hq
  obtain ⟨q', hq', l⟩ := h i q hq
  obtain ⟨q'', hq'', l'⟩ := h' i q' hq'
  exact ⟨q'', hq'', l.trans l'⟩

theorem onward_step (t : Flights) (x : Step) : t.Onward (t.step x) := by
  intro i q hq
  obtain ⟨q', hq', l⟩ := getsOn_step (x := x) hq
  exact ⟨q', hq', l.onward⟩

end Flights

/-- A step and the state in which it was taken. -/
structure Event where
  before : Flights
  step : Flights.Step

namespace Event

def after (e : Event) : Flights := e.before.step e.step

/-- A query about a topic is sent, for a principal, and this answer is on its way. -/
def Sends (e : Event) (i : Nat) (k : TopicKey) (principal : String)
    (answer : Except Failure AclListing) : Prop :=
  ∃ q q', e.before.inquiries[i]? = some q ∧ e.after.inquiries[i]? = some q' ∧
    q.cluster.key = k.cluster ∧ q.principal = principal ∧
    q.queries.find? k.topic = some .due ∧ q'.queries.find? k.topic = some (.sent answer)

/-- An inquiry is settled, and this answer about a topic is stored. -/
def Stores (e : Event) (i : Nat) (k : TopicKey) (a : TopicAccess) : Prop :=
  ∃ q q', e.before.inquiries[i]? = some q ∧ e.after.inquiries[i]? = some q' ∧
    q.isSettled = false ∧ q'.isSettled = true ∧ q'.stored? k = some a

/-- What is remembered about a topic is neither cleared nor replaced. -/
def Passes (e : Event) (k : TopicKey) : Prop :=
  e.step.clears k = false ∧ ∀ i a, ¬e.Stores i k a

variable {e : Event} {i : Nat} {k : TopicKey}

theorem Sends.clears {principal : String} {answer : Except Failure AclListing}
    (h : e.Sends i k principal answer) : e.step.clears k = false := by
  cases hc : e.step.clears k with
  | false => rfl
  | true =>
    obtain ⟨q, q', hq, hq', -, -, hdue, hsent⟩ := h
    rw [after, Flights.inquiries_of_clears hc, hq] at hq'
    cases hq'
    rw [hdue] at hsent
    cases hsent

theorem Stores.clears {a : TopicAccess} (h : e.Stores i k a) : e.step.clears k = false := by
  cases hc : e.step.clears k with
  | false => rfl
  | true =>
    obtain ⟨q, q', hq, hq', hopen, hsettled, -⟩ := h
    rw [after, Flights.inquiries_of_clears hc, hq] at hq'
    cases hq'
    rw [hopen] at hsettled
    cases hsettled

/-- An event that leaves all inquiries as they were stores nothing. -/
theorem not_stores_of_same (same : ∀ q, e.before.inquiries[i]? = some q →
    e.after.inquiries[i]? = some q) (a : TopicAccess) : ¬e.Stores i k a := by
  rintro ⟨q, q', hq, hq', hopen, hsettled, -⟩
  cases Option.some.inj ((same q hq).symm.trans hq')
  rw [hopen] at hsettled
  cases hsettled

/-- Only the inquiry that gets on stores anything. -/
theorem Stores.of_set {q q' : Inquiry} {j : Nat} {a : TopicAccess} (h : e.Stores j k a)
    (found : e.before.inquiries[i]? = some q)
    (set : e.after.inquiries = e.before.inquiries.set i q') :
    q'.isSettled = true ∧ q'.stored? k = some a := by
  by_cases hij : i = j
  · subst hij
    obtain ⟨_, q'', -, hq'', -, hsettled, hstored⟩ := h
    rw [set, List.getElem?_set_self (List.getElem?_eq_some_iff.mp found).1] at hq''
    cases hq''
    exact ⟨hsettled, hstored⟩
  · refine absurd h (not_stores_of_same (fun q hq => ?_) a)
    rw [set, List.getElem?_set_ne hij, hq]

/-- What becomes of what is remembered about a topic: it is cleared, or a new answer is stored, or
it stays. -/
inductive Outcome (e : Event) (k : TopicKey) : Prop
  | cleared (clears : e.step.clears k = true)
      (gone : e.after.services.access.entries.find? k = none)
  | stored {i : Nat} {a : TopicAccess} (stores : e.Stores i k a)
      (new : e.after.services.access.entries.find? k = some ⟨a, e.before.services.now⟩)
  | passed (passes : e.Passes k)
      (same : e.after.services.access.entries.find? k =
        e.before.services.access.entries.find? k)

theorem outcome_of_same (clears : e.step.clears k = false)
    (same : ∀ (i : Nat) (q : Inquiry), e.before.inquiries[i]? = some q →
      e.after.inquiries[i]? = some q)
    (entries : e.after.services.access.entries.find? k =
      e.before.services.access.entries.find? k) : e.Outcome k :=
  .passed ⟨clears, fun i => not_stores_of_same (same i)⟩ entries

/-- An inquiry that gets on stores what it has found about a topic, if it is settled then. -/
theorem outcome_of_set {q q' : Inquiry} {s : Services} (clears : e.step.clears k = false)
    (found : e.before.inquiries[i]? = some q) (unsettled : q.isSettled = false)
    (after : e.after = { e.before with services := s }.conclude i q')
    (entries : s.access.entries = e.before.services.access.entries)
    (now : s.now = e.before.services.now) : e.Outcome k := by
  have hset : e.after.inquiries = e.before.inquiries.set i q' := congrArg Flights.inquiries after
  have hfind := Flights.find?_conclude { e.before with services := s } i q' k
  rw [← after, entries] at hfind
  by_cases h : ∃ a, q'.isSettled = true ∧ q'.stored? k = some a
  · obtain ⟨a, hsettled, hstored⟩ := h
    refine .stored ⟨q, q', found, ?_, unsettled, hsettled, hstored⟩ ?_
    · rw [hset]
      exact List.getElem?_set_self (List.getElem?_eq_some_iff.mp found).1
    · rw [hfind, if_pos hsettled, hstored, now]
      rfl
  · refine .passed ⟨clears, fun j a hs => h ⟨a, hs.of_set found hset⟩⟩ ?_
    rw [hfind]
    split
    · rename_i hsettled
      have hnone : q'.stored? k = none :=
        Option.eq_none_iff_forall_ne_some.mpr fun a ha => h ⟨a, hsettled, ha⟩
      rw [hnone]
      rfl
    · rfl

theorem outcome (e : Event) (k : TopicKey) : e.Outcome k := by
  obtain ⟨t, x⟩ := e
  have hc := t.change_step x
  generalize hx : t.step x = t' at hc
  have hafter : (⟨t, x⟩ : Event).after = t' := hx
  cases hc with
  | counted n clears =>
    refine outcome_of_same (clears k) (fun i q hq => ?_) ?_
    · rw [hafter]
      exact hq
    · rw [hafter]
      rfl
  | opened n q clears =>
    refine outcome_of_same (clears k) (fun i q hq => ?_) ?_
    · rw [hafter, List.getElem?_append_left (List.getElem?_eq_some_iff.mp hq).1]
      exact hq
    · rw [hafter]
      rfl
  | acted a quiet =>
    have hfind := Services.find?_act_of_not_asks (s := t.services) quiet k
    cases hclears : a.clears k with
    | true => exact .cleared hclears (by simpa [hafter, hclears] using hfind)
    | false =>
      refine outcome_of_same hclears (fun i q hq => ?_) (by simpa [hafter, hclears] using hfind)
      rw [hafter]
      exact hq
  | gotOn clears inquiry found next access now =>
    exact outcome_of_set (clears k) inquiry (Inquiry.isSettled_of_not_isDone found next.isDone)
      hafter access now

end Event

end ClusterAdmin
