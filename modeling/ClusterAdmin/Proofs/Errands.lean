import ClusterAdmin.Services.Proxy

namespace ClusterAdmin

open Rest

/-- What a proxy can be asked on behalf of a cluster. -/
inductive Errand where
  /-- Which clusters it has. -/
  | clusters
  | topics
  | topic (name : String)
  | partitions (name : String)
  | configs (name : String)
  | replicas (name : String) (partition : Int32)
  | lookFor (name : String)
  | create (request : TopicRequest)
  | delete (name : String)

namespace Errand

def method : Errand → Method
  | create _ => .post
  | delete _ => .delete
  | _ => .get

def body : Errand → Option Json
  | create request => some (Services.creationBody request)
  | _ => none

/-- What follows the cluster's own place in the address. -/
def place : Errand → String
  | clusters => ""
  | topics => "/topics?includeAuthorizedOperations=true"
  | topic name => "/topics/" ++ name ++ "?includeAuthorizedOperations=true"
  | partitions name => "/topics/" ++ name ++ "/partitions"
  | configs name => "/topics/" ++ name ++ "/configs"
  | replicas name partition =>
    "/topics/" ++ name ++ "/partitions/" ++ toString partition.toInt ++ "/replicas"
  | lookFor name | delete name => "/topics/" ++ name
  | create _ => "/topics"

/-- Where a proxy is asked that knows the cluster by an identifier. -/
def address (base : String) (flavor : Flavor) (id : String) : Errand → String
  | clusters => base ++ flavor.pathPrefix ++ "/clusters"
  | e => base ++ flavor.pathPrefix ++ "/clusters/" ++ id ++ e.place

/-- What is asked to describe a topic. -/
inductive Describes (name : String) : Errand → Prop
  | topic : Describes name (.topic name)
  | partitions : Describes name (.partitions name)
  | configs : Describes name (.configs name)
  | replicas (partition : Int32) : Describes name (.replicas name partition)

end Errand

/-- The clusters that a proxy names when it is asked which ones it has. -/
def clustersNamed (q : HttpRequest) (reply : HttpReply) : List String :=
  match (bodyOf q.url reply).bind (decode (listOf clusterId)) with
  | .ok ids => ids
  | .error _ => []

/-- A request that was sent, what for, and the reply to it. -/
structure Dispatch where
  errand : Errand
  request : HttpRequest
  reply : HttpReply

/-- What is learnt from a reply: by which identifier the proxy knows the cluster, which is taken to
be the first one that it names. -/
def Dispatch.learnt? (d : Dispatch) : Option String :=
  match d.errand with
  | .clusters => (clustersNamed d.request d.reply).head?
  | _ => none

/-- What asking a proxy at an endpoint for its clusters comes to: the first that its reply names. -/
def Dispatch.discovered (d : Dispatch) (base : String) : Except Failure String :=
  match (bodyOf d.request.url d.reply).bind (decode (listOf clusterId)) with
  | .error f => .error f
  | .ok [] => .error (Failure.notFound s!"REST proxy at {base} reports no clusters")
  | .ok (id :: _) => .ok id

theorem Dispatch.learnt?_eq {d : Dispatch} (h : d.errand = .clusters) (base : String) :
    d.learnt? = (d.discovered base).toOption := by
  simp only [learnt?, h, clustersNamed, discovered]
  cases (bodyOf d.request.url d.reply).bind (decode (listOf clusterId)) with
  | error f => rfl
  | ok ids => cases ids <;> rfl

/-- Nothing is learnt from a reply about topics. -/
theorem Dispatch.learnt?_of_ne {d : Dispatch} (h : d.errand ≠ .clusters) : d.learnt? = none := by
  rw [learnt?]
  split
  · exact absurd ‹_› h
  · rfl

namespace Services

/-- A proxy is asked on behalf of a cluster under an identifier: the one it is known to have for the
cluster, where it has its own. -/
def Knows (s : Services) (c : Cluster) (flavor : Flavor) (id : String) : Prop :=
  if flavor.discoversClusterId then s.proxyIds.find? c.clusterId = some id else id = c.clusterId

theorem Knows.unique {s : Services} {c : Cluster} {flavor : Flavor} {id id' : String}
    (h : s.Knows c flavor id) (h' : s.Knows c flavor id') : id = id' := by
  rw [Knows] at h h'
  split at h
  · exact Option.some.inj (h.symm.trans (by simpa [*] using h'))
  · simp_all

/-- What holds when a request is sent on behalf of a cluster. -/
structure Sends (s : Services) (c : Cluster) (flavor : Flavor) (d : Dispatch) : Prop where
  made : ∃ base id own, baseUrl c = .ok base ∧ s.authorization c = .ok own ∧
    HttpRequest.make d.errand.method (d.errand.address base flavor id) own d.errand.body =
      .ok d.request ∧
    (d.errand ≠ .clusters → s.Knows c flavor id)
  /-- Which clusters it has, a proxy is asked only before that is known of this one. -/
  unknown : d.errand = .clusters →
    flavor.discoversClusterId = true ∧ s.proxyIds.find? c.clusterId = none
  reply : d.reply = s.web.reply s.web.sent d.request

/-- Only a local proxy is asked which clusters it has. -/
theorem Sends.localProxy {s : Services} {c : Cluster} {flavor : Flavor} {d : Dispatch}
    (h : s.Sends c flavor d) (hd : d.errand = .clusters) : flavor = .localProxy := by
  have hdiscovers := (h.unknown hd).1
  cases flavor with
  | localProxy => rfl
  | _ => cases hdiscovers

/-- The services once a request was sent on behalf of a cluster and the reply has come. -/
def heeding (s : Services) (c : Cluster) (d : Dispatch) : Services :=
  { s with
    web := (s.web.exchange d.request).2
    proxyIds :=
      match d.learnt? with
      | some id => s.proxyIds.insert c.clusterId id
      | none => s.proxyIds }

/-- The requests that are sent on behalf of a cluster between two states, in order. -/
inductive Errands (c : Cluster) (flavor : Flavor) : List Dispatch → Services → Services → Prop
  | none (s : Services) : Errands c flavor [] s s
  | more {ds : List Dispatch} {d : Dispatch} {s s' : Services} (before : Errands c flavor ds s s')
    (last : s'.Sends c flavor d) : Errands c flavor (ds ++ [d]) s (s'.heeding c d)

/-- Nothing changed but what was asked of proxies and learnt from them. -/
structure Beside (s s' : Services) : Prop where
  pool : s'.pool = s.pool
  access : s'.access = s.access
  session : s'.session = s.session
  reply : s'.web.reply = s.web.reply

theorem Beside.authorization {s s' : Services} (h : Beside s s') (c : Cluster) :
    s'.authorization c = s.authorization c := by
  simp only [Services.authorization, h.pool, h.session]

namespace Errands

variable {c : Cluster} {flavor : Flavor} {ds ds' : List Dispatch} {s s' s'' : Services}

theorem one {d : Dispatch} (h : s.Sends c flavor d) : Errands c flavor [d] s (s.heeding c d) :=
  .more (.none s) h

theorem trans (h : Errands c flavor ds s s') (h' : Errands c flavor ds' s' s'') :
    Errands c flavor (ds ++ ds') s s'' := by
  induction h' with
  | none => rwa [List.append_nil]
  | more _ last ih =>
    rw [← List.append_assoc]
    exact .more (ih h) last

theorem beside (h : Errands c flavor ds s s') : Beside s s' := by
  induction h with
  | none => exact ⟨rfl, rfl, rfl, rfl⟩
  | more _ _ ih => exact ⟨ih.pool, ih.access, ih.session, ih.reply⟩

theorem sent (h : Errands c flavor ds s s') :
    s'.web.sent = s.web.sent ++ ds.map (·.request) := by
  induction h with
  | none => simp
  | more _ _ ih => simp [heeding, Web.exchange, ih]

/-- Any of the requests was sent in a state that the ones before it led to, and led to one from
which the ones after it were sent. -/
theorem around (h : Errands c flavor ds s s') {before after : List Dispatch} {d : Dispatch}
    (hd : ds = before ++ d :: after) : ∃ mid, Errands c flavor before s mid ∧
      mid.Sends c flavor d ∧ Errands c flavor after (mid.heeding c d) s' := by
  induction h generalizing after with
  | none => simp at hd
  | @more ds last s s' earlier sends ih =>
    rcases List.eq_nil_or_concat after with rfl | ⟨after, x, rfl⟩
    · obtain ⟨rfl, hlast⟩ := List.append_inj' hd rfl
      cases hlast
      exact ⟨s', earlier, sends, .none _⟩
    · obtain ⟨rfl, hlast⟩ := List.append_inj'
        (hd.trans (by simp : _ = (before ++ d :: after) ++ [x])) rfl
      cases hlast
      obtain ⟨mid, hbefore, hd, hafter⟩ := ih rfl
      exact ⟨mid, hbefore, hd, List.concat_eq_append ▸ .more hafter sends⟩

theorem sends (h : Errands c flavor ds s s') {before after : List Dispatch} {d : Dispatch}
    (hd : ds = before ++ d :: after) : ∃ mid, Errands c flavor before s mid ∧
      mid.Sends c flavor d := by
  obtain ⟨mid, hbefore, hsends, -⟩ := h.around hd
  exact ⟨mid, hbefore, hsends⟩

/-- By which identifier a proxy is asked does not change once it is known. -/
theorem knows (h : Errands c flavor ds s s') {id : String} (hid : s.Knows c flavor id) :
    s'.Knows c flavor id := by
  induction h with
  | none => exact hid
  | @more ds d s s' _ last ih =>
    have hknown := ih hid
    by_cases hd : d.errand = .clusters
    · obtain ⟨hdiscovers, hunknown⟩ := last.unknown hd
      simp [Knows, hdiscovers, hunknown] at hknown
    · simpa only [Knows, heeding, Dispatch.learnt?_of_ne hd] using hknown

/-- What is known of a cluster was known before, or was learnt on the way. -/
theorem known (h : Errands c flavor ds s s') {k id : String}
    (hid : s'.proxyIds.find? k = some id) : s.proxyIds.find? k = some id ∨
      k = c.clusterId ∧ ∃ before d after, ds = before ++ d :: after ∧ d.learnt? = some id := by
  induction h with
  | none => exact .inl hid
  | @more ds last s s' earlier _ ih =>
    have hearlier (hid : s'.proxyIds.find? k = some id) : s.proxyIds.find? k = some id ∨
        k = c.clusterId ∧ ∃ before d after,
          ds ++ [last] = before ++ d :: after ∧ d.learnt? = some id := by
      rcases ih hid with hs | ⟨hk, before, d, after, rfl, hd⟩
      · exact .inl hs
      · exact .inr ⟨hk, before, d, after ++ [last], by simp, hd⟩
    cases hlast : last.learnt? with
    | none =>
      simp only [heeding, hlast] at hid
      exact hearlier hid
    | some id' =>
      simp only [heeding, hlast] at hid
      rw [Table.find?_insert] at hid
      split at hid
      · rename_i hk
        cases hid
        exact .inr ⟨hk.symm, ds, last, [], rfl, hlast⟩
      · exact hearlier hid

end Errands

/-- Requests for some errands about the topics of a cluster. They do not change by which identifier
a proxy is asked. -/
def Asks (errands : Errand → Prop) (c : Cluster) (flavor : Flavor) (s s' : Services) : Prop :=
  (∃ ds, Errands c flavor ds s s' ∧ ∀ d ∈ ds, errands d.errand) ∧ s'.proxyIds = s.proxyIds

section

variable {E : Errand → Prop} {c : Cluster} {flavor : Flavor} {base id : String}

theorem Asks.refl (s : Services) : Asks E c flavor s s := ⟨⟨[], .none s, by simp⟩, rfl⟩

theorem Asks.trans {s s' s'' : Services} (h : Asks E c flavor s s')
    (h' : Asks E c flavor s' s'') : Asks E c flavor s s'' := by
  obtain ⟨⟨ds, hds, hall⟩, hid⟩ := h
  obtain ⟨⟨ds', hds', hall'⟩, hid'⟩ := h'
  refine ⟨⟨ds ++ ds', hds.trans hds', fun d hd => ?_⟩, hid'.trans hid⟩
  exact (List.mem_append.mp hd).elim (hall d) (hall' d)

/-- What prevents a request about a cluster from being sent: there is no authorization for it, or it
cannot be made. -/
inductive Prevents (s : Services) (c : Cluster) (m : Method) (url : String) (body : Option Json)
    (f : Failure) : Prop
  | unauthorized (refused : s.authorization c = .error f)
  | unmakeable {own : Option String} (authorized : s.authorization c = .ok own)
    (refused : HttpRequest.make m url own body = .error f)

theorem Prevents.unique {s : Services} {m : Method} {url : String} {body : Option Json}
    {f f' : Failure} (h : s.Prevents c m url body f) (h' : s.Prevents c m url body f') :
    f = f' := by
  cases h with
  | unauthorized refused =>
    cases h' with
    | unauthorized refused' => exact Except.error.inj (refused.symm.trans refused')
    | unmakeable authorized' => cases refused.symm.trans authorized'
  | unmakeable authorized refused =>
    cases h' with
    | unauthorized refused' => cases authorized.symm.trans refused'
    | unmakeable authorized' refused' =>
      cases authorized.symm.trans authorized'
      exact Except.error.inj (refused.symm.trans refused')

/-- Everything that sending a request can come to: something prevents it, or it is sent and the
reply says how it ends. -/
theorem sendTo_cases (s : Services) (c : Cluster) (m : Method) (url : String)
    (body : Option Json) :
    (∃ f, s.Prevents c m url body f ∧ s.sendTo c m url body = (.error f, s)) ∨
    ∃ own r, s.authorization c = .ok own ∧ HttpRequest.make m url own body = .ok r ∧
      s.sendTo c m url body =
        (bodyOf r.url (s.web.reply s.web.sent r), { s with web := (s.web.exchange r).2 }) := by
  cases ha : s.authorization c with
  | error f => exact .inl ⟨f, .unauthorized ha, by simp [sendTo, ha]⟩
  | ok own =>
    cases hm : HttpRequest.make m url own body with
    | error f => exact .inl ⟨f, .unmakeable ha hm, by simp [sendTo, ha, hm]⟩
    | ok r => exact .inr ⟨own, r, rfl, hm, by simp [sendTo, ha, hm, Web.exchange]⟩

theorem fetch_eq {α : Type} (s : Services) (c : Cluster) (url : String) (d : Json.Decoder α) :
    s.fetch c url d = ((s.sendTo c .get url none).1.bind (decode d),
      (s.sendTo c .get url none).2) := by
  simp only [fetch]
  split
  all_goals
    rename_i h
    rw [h]
    rfl

theorem heeding_of_ne {d : Dispatch} (h : d.errand ≠ .clusters) (s : Services) (c : Cluster) :
    s.heeding c d = { s with web := (s.web.exchange d.request).2 } := by
  rw [heeding, Dispatch.learnt?_of_ne h]

/-- Everything that an errand about topics can come to. -/
theorem sendTo_errand {s : Services} (endpoint : baseUrl c = .ok base)
    (knows : s.Knows c flavor id) {e : Errand} (he : e ≠ .clusters) :
    (∃ f, s.Prevents c e.method (e.address base flavor id) e.body f ∧
      s.sendTo c e.method (e.address base flavor id) e.body = (.error f, s)) ∨
    ∃ d, s.Sends c flavor d ∧ d.errand = e ∧
      s.sendTo c e.method (e.address base flavor id) e.body =
        (bodyOf d.request.url d.reply, s.heeding c d) := by
  rcases s.sendTo_cases c e.method (e.address base flavor id) e.body with
    hprevented | ⟨own, r, ha, hm, h⟩
  · exact .inl hprevented
  · let d : Dispatch := ⟨e, r, s.web.reply s.web.sent r⟩
    refine .inr ⟨d, ⟨⟨base, id, own, endpoint, ha, hm, fun _ => knows⟩, fun h => absurd h he, rfl⟩,
      rfl, ?_⟩
    rw [h, heeding_of_ne he]

theorem asks_sendTo {s : Services} (endpoint : baseUrl c = .ok base) (knows : s.Knows c flavor id)
    {e : Errand} (he : e ≠ .clusters) (allowed : E e) {m : Method} {url : String}
    {body : Option Json} (hm : m = e.method) (hurl : url = e.address base flavor id)
    (hb : body = e.body) : Asks E c flavor s (s.sendTo c m url body).2 := by
  subst hm hurl hb
  rcases sendTo_errand endpoint knows he with ⟨f, -, h⟩ | ⟨d, hsends, rfl, h⟩
  · rw [h]
    exact .refl s
  · rw [h]
    refine ⟨⟨_, .one hsends, by simpa using allowed⟩, ?_⟩
    rw [heeding_of_ne he]

theorem asks_fetch {α : Type} {s : Services} (endpoint : baseUrl c = .ok base)
    (knows : s.Knows c flavor id) {e : Errand} (he : e ≠ .clusters) (allowed : E e)
    {url : String} (hm : .get = e.method) (hurl : url = e.address base flavor id)
    (hb : none = e.body) (d : Json.Decoder α) :
    Asks E c flavor s (s.fetch c url d).2 := by
  rw [fetch_eq]
  exact asks_sendTo endpoint knows he allowed hm hurl hb

theorem Knows.asks {s s' : Services} (knows : s.Knows c flavor id)
    (h : Asks E c flavor s s') : s'.Knows c flavor id := by
  rwa [Knows, h.2]

/-- Where a proxy is asked for more about a topic. -/
theorem Errand.address_append {name url : String}
    (hurl : url = (Errand.lookFor name).address base flavor id) {e : Errand} (he : e ≠ .clusters)
    {rest : String} (hrest : e.place = "/topics/" ++ name ++ rest) :
    url ++ rest = e.address base flavor id := by
  cases e <;> simp_all [Errand.address, Errand.place, String.append_assoc]

theorem Errand.address_replicas {name url : String}
    (hurl : url = (Errand.lookFor name).address base flavor id) (partition : Int32) :
    s!"{url}/partitions/{partition.toInt}/replicas" =
      (Errand.replicas name partition).address base flavor id := by
  simp [hurl, toString, Errand.address, Errand.place, String.append_assoc]

theorem asks_partitions {s : Services} (endpoint : baseUrl c = .ok base)
    (knows : s.Knows c flavor id) {name : String}
    (allowed : ∀ partition, E (.replicas name partition)) (ids : List Int32) {url : String}
    (hurl : url = (Errand.lookFor name).address base flavor id) :
    Asks E c flavor s (partitions c url ids s).2 := by
  induction ids generalizing s with
  | nil => exact .refl s
  | cons partition ids ih =>
    have hfirst := asks_fetch endpoint knows (by simp) (allowed partition) rfl
      (Errand.address_replicas hurl partition) rfl (listOf ReplicaData.decoder)
    exact hfirst.trans (ih (knows.asks hfirst))

theorem asks_describeAt {s : Services} (endpoint : baseUrl c = .ok base)
    (knows : s.Knows c flavor id) (name : String) {url : String}
    (hurl : url = (Errand.lookFor name).address base flavor id) :
    Asks (Errand.Describes name) c flavor s (describeAt c url s).2 := by
  have htopic := asks_fetch (E := Errand.Describes name) endpoint knows (e := .topic name) (by simp)
    .topic rfl (Errand.address_append hurl (by simp) rfl) rfl TopicData.decoder
  have hids := asks_fetch (E := Errand.Describes name) endpoint (knows.asks htopic)
    (e := .partitions name) (by simp) .partitions rfl (Errand.address_append hurl (by simp) rfl) rfl
    (listOf partitionId)
  have hthree := (htopic.trans hids).trans (asks_fetch endpoint
    ((knows.asks htopic).asks hids) (e := .configs name) (by simp) .configs rfl
    (Errand.address_append hurl (by simp) rfl) rfl (listOf ConfigData.decoder))
  simp only [describeAt]
  split
  · exact hthree.trans (asks_partitions endpoint (knows.asks hthree) .replicas _ hurl)
  all_goals exact hthree

end

/-- Everything that finding out a proxy's identifier can come to: it is known, something prevents
that the proxy is asked, or it is asked and the reply is heeded. -/
theorem proxyId_cases (s : Services) {c : Cluster} {base : String} {flavor : Flavor}
    (endpoint : baseUrl c = .ok base) (discovers : flavor.discoversClusterId = true) :
    (∃ id, s.proxyIds.find? c.clusterId = some id ∧ s.proxyId c base flavor = (.ok id, s)) ∨
    s.proxyIds.find? c.clusterId = none ∧
    ((∃ f, s.Prevents c .get (Errand.clusters.address base flavor "") none f ∧
      s.proxyId c base flavor = (.error f, s)) ∨
    ∃ d, s.Sends c flavor d ∧ d.errand = .clusters ∧
      s.proxyId c base flavor = (d.discovered base, s.heeding c d)) := by
  cases hfind : s.proxyIds.find? c.clusterId with
  | some id => exact .inl ⟨id, rfl, by simp [proxyId, hfind]⟩
  | none =>
    refine .inr ⟨rfl, ?_⟩
    have hfetch := s.fetch_eq c (base ++ flavor.pathPrefix ++ "/clusters") (listOf clusterId)
    rcases s.sendTo_cases c .get (base ++ flavor.pathPrefix ++ "/clusters") none with
      ⟨f, hf, h⟩ | ⟨own, r, ha, hm, h⟩
    · rw [h] at hfetch
      exact .inl ⟨f, hf, by simp [proxyId, hfind, hfetch, Except.bind]⟩
    · rw [h] at hfetch
      let d : Dispatch := ⟨.clusters, r, s.web.reply s.web.sent r⟩
      have hsends : s.Sends c flavor d := by
        refine ⟨⟨base, "", own, endpoint, ha, ?_, fun h => absurd rfl h⟩,
          fun _ => ⟨discovers, hfind⟩, rfl⟩
        simpa [d, Errand.address, Errand.method, Errand.body] using hm
      refine .inr ⟨d, hsends, rfl, ?_⟩
      simp only [proxyId, hfind, hfetch, heeding, Dispatch.learnt?, Dispatch.discovered, d]
      cases hr : (bodyOf r.url (s.web.reply s.web.sent r)).bind (decode (listOf clusterId)) with
      | error f => simp [clustersNamed, hr]
      | ok ids => cases ids <;> simp [clustersNamed, hr]

section

variable {α : Type} {E : Errand → Prop} {c : Cluster} {flavor : Flavor}

/-- Why the place of a cluster at its proxy is not found, in the state that the requests for it led
to. -/
inductive Misses (s : Services) (c : Cluster) (flavor : Flavor) (ds : List Dispatch) (f : Failure) :
    Prop
  /-- The cluster has no proxy. -/
  | endpoint (unasked : ds = []) (missing : baseUrl c = .error f)
  /-- The proxy cannot be asked which clusters it has. -/
  | prevented {base : String} (unasked : ds = []) (endpoint : baseUrl c = .ok base)
    (unknown : ∀ id, ¬s.Knows c flavor id)
    (prevented : s.Prevents c .get (Errand.clusters.address base flavor "") none f)
  /-- Its reply names none. -/
  | undiscovered {base : String} {d : Dispatch} (asked : ds = [d]) (clusters : d.errand = .clusters)
    (endpoint : baseUrl c = .ok base) (unknown : ∀ id, ¬s.Knows c flavor id)
    (failed : d.discovered base = .error f)

/-- By which identifier a cluster is known does not matter to one that has no proxy. -/
theorem Misses.not_knows {s : Services} {ds : List Dispatch} {f : Failure}
    (h : s.Misses c flavor ds f) {base id : String} (endpoint : baseUrl c = .ok base) :
    ¬s.Knows c flavor id := by
  cases h with
  | endpoint _ missing => cases missing.symm.trans endpoint
  | prevented _ _ unknown | undiscovered _ _ _ unknown => exact unknown id

/-- Everything that finding the place of a cluster can come to: in either case nothing else is asked
on the way. -/
theorem clusterUrl_cases (s : Services) (c : Cluster) (flavor : Flavor) :
    ∃ ds s', Errands c flavor ds s s' ∧ (∀ d ∈ ds, d.errand = .clusters) ∧
      ((∃ f, s'.Misses c flavor ds f ∧ s.clusterUrl c flavor = (.error f, s')) ∨
      ∃ base id, baseUrl c = .ok base ∧ s'.Knows c flavor id ∧ s.clusterUrl c flavor =
        (.ok (base ++ flavor.pathPrefix ++ "/clusters/" ++ id), s')) := by
  simp only [clusterUrl]
  cases hb : baseUrl c with
  | error f => exact ⟨[], s, .none s, by simp, .inl ⟨f, .endpoint rfl hb, rfl⟩⟩
  | ok base =>
    by_cases hd : flavor.discoversClusterId = true
    · simp only [hd, if_true]
      rcases s.proxyId_cases hb hd with ⟨id, hfind, h⟩ | ⟨hfind, hunknown⟩
      · rw [h]
        exact ⟨[], s, .none s, by simp, .inr ⟨base, id, rfl, by simpa [Knows, hd] using hfind, rfl⟩⟩
      · have hunknows : ∀ id, ¬s.Knows c flavor id := by simp [Knows, hd, hfind]
        rcases hunknown with ⟨f, hprevents, h⟩ | ⟨d, hsends, hclusters, h⟩
        · rw [h]
          exact ⟨[], s, .none s, by simp, .inl ⟨f, .prevented rfl hb hunknows hprevents, rfl⟩⟩
        · rw [h]
          refine ⟨[d], s.heeding c d, .one hsends, by simpa using hclusters, ?_⟩
          cases hid : d.discovered base with
          | error f =>
            have hlearnt : d.learnt? = none := by rw [Dispatch.learnt?_eq hclusters base, hid]; rfl
            refine .inl ⟨f, .undiscovered rfl hclusters hb ?_ hid, rfl⟩
            simpa [Knows, heeding, hlearnt] using hunknows
          | ok id =>
            refine .inr ⟨base, id, rfl, ?_, rfl⟩
            have hlearnt : d.learnt? = some id := by
              rw [Dispatch.learnt?_eq hclusters base, hid]
              rfl
            simp [Knows, hd, heeding, hlearnt]
    · simp only [hd, Bool.false_eq_true, if_false]
      exact ⟨[], s, .none s, by simp, .inr ⟨base, c.clusterId, rfl, by simp [Knows, hd], rfl⟩⟩

/-- Everything that going on with a cluster's place can come to: the place is not found, or it is,
in either case after requests for nothing else. -/
theorem atCluster_cases (s : Services)
    (next : String → Services → Except Failure α × Services) :
    ∃ ds s', Errands c flavor ds s s' ∧ (∀ d ∈ ds, d.errand = .clusters) ∧
      ((∃ f, s'.Misses c flavor ds f ∧ s.atCluster c flavor next = (.error f, s')) ∨
      ∃ base id, baseUrl c = .ok base ∧ s'.Knows c flavor id ∧
        s.atCluster c flavor next =
          next (base ++ flavor.pathPrefix ++ "/clusters/" ++ id) s') := by
  obtain ⟨ds, s', herrands, hclusters, ⟨f, hmisses, hplace⟩ |
    ⟨base, id, endpoint, knows, hplace⟩⟩ := s.clusterUrl_cases c flavor
  all_goals rw [atCluster, hplace]
  · exact ⟨ds, s', herrands, hclusters, .inl ⟨f, hmisses, rfl⟩⟩
  · exact ⟨ds, s', herrands, hclusters, .inr ⟨base, id, endpoint, knows, rfl⟩⟩

theorem topicAddress {base id url : String} (name : String)
    (hurl : url = base ++ flavor.pathPrefix ++ "/clusters/" ++ id) :
    s!"{url}/topics/{name}" = (Errand.lookFor name).address base flavor id := by
  simp [hurl, toString, Errand.address, Errand.place, String.append_assoc]

/-- The requests of a call: perhaps one for the proxy's identifier, and those for some errands. -/
def Proxied (errands : Errand → Prop) (c : Cluster) (flavor : Flavor) (s s' : Services) : Prop :=
  ∃ ds, Errands c flavor ds s s' ∧ ∀ d ∈ ds, d.errand = .clusters ∨ errands d.errand

theorem Asks.proxied {s s' : Services} (h : Asks E c flavor s s') :
    Proxied E c flavor s s' := by
  obtain ⟨⟨ds, hds, hall⟩, -⟩ := h
  exact ⟨ds, hds, fun d hd => .inr (hall d hd)⟩

theorem proxied_atCluster (s : Services) {next : String → Services → Except Failure α × Services}
    (hn : ∀ base id s, baseUrl c = .ok base → Knows s c flavor id →
      Asks E c flavor s (next (base ++ flavor.pathPrefix ++ "/clusters/" ++ id) s).2) :
    Proxied E c flavor s (s.atCluster c flavor next).2 := by
  obtain ⟨ds, s', hds, hclusters, ⟨f, -, h⟩ | ⟨base, id, hb, hknows, h⟩⟩ := s.atCluster_cases next
  · rw [h]
    exact ⟨ds, hds, fun d hd => .inl (hclusters d hd)⟩
  · rw [h]
    obtain ⟨ds', hds', hall⟩ := (hn base id s' hb hknows).proxied
    refine ⟨ds ++ ds', hds.trans hds', fun d hd => ?_⟩
    exact (List.mem_append.mp hd).elim (fun hd => .inl (hclusters d hd)) (hall d)

theorem proxied_list (s : Services) (includeInternal : Bool) :
    Proxied (· = .topics) c flavor s (s.proxyList c flavor includeInternal).2 := by
  refine s.proxied_atCluster fun _ _ _ endpoint knows => ?_
  have h := asks_fetch (E := (· = .topics)) endpoint knows (by simp) rfl rfl rfl rfl
    (listOf TopicData.decoder)
  simp only [Errand.address, Errand.place] at h
  split
  all_goals
    rename_i hs
    rw [hs] at h
    exact h

theorem proxied_describe (s : Services) (name : String) :
    Proxied (Errand.Describes name) c flavor s (s.proxyDescribe c flavor name).2 :=
  s.proxied_atCluster fun _ _ _ endpoint knows =>
    asks_describeAt endpoint knows name (topicAddress name rfl)

theorem proxied_exists (s : Services) (name : String) :
    Proxied (· = .lookFor name) c flavor s (s.proxyExists c flavor name).2 := by
  have h : Proxied (· = .lookFor name) c flavor s (s.atCluster c flavor fun url s =>
      s.sendTo c .get s!"{url}/topics/{name}" none).2 :=
    s.proxied_atCluster fun _ _ _ endpoint knows =>
      asks_sendTo (e := .lookFor name) endpoint knows (by simp) (by rfl) rfl
        (topicAddress name rfl) rfl
  simp only [proxyExists]
  split
  · rename_i hs
    rw [hs] at h
    exact h
  · rename_i hs
    rw [hs] at h
    split <;> exact h

theorem proxied_create (s : Services) (r : TopicRequest) :
    Proxied (· = .create r) c flavor s (s.proxyCreate c flavor r).2 :=
  s.proxied_atCluster fun _ _ _ endpoint knows =>
    asks_sendTo (e := .create r) endpoint knows (by simp) (by rfl) rfl rfl rfl

theorem proxied_delete (s : Services) (name : String) :
    Proxied (· = .delete name) c flavor s (s.proxyDelete c flavor name).2 :=
  s.proxied_atCluster fun _ _ _ endpoint knows =>
    asks_sendTo (e := .delete name) endpoint knows (by simp) (by rfl) rfl
      (topicAddress name rfl) rfl

end

end Services

end ClusterAdmin
