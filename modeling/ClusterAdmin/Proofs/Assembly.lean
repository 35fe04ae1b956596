import Mathlib.Data.List.Sort
import ClusterAdmin.Proofs.Endpoints
import ClusterAdmin.Proofs.Replies
import ClusterAdmin.Proofs.Runs

namespace ClusterAdmin

open Rest

namespace Configs

theorem insert_perm {c : String × String} {cs : List (String × String)} (h : c.1 ∉ cs.map (·.1)) :
    (insert c cs).Perm (c :: cs) := by
  induction cs with
  | nil => exact .refl _
  | cons d cs ih =>
    simp only [List.map_cons, List.mem_cons, not_or] at h
    rw [insert, if_neg h.1]
    split
    · exact .refl _
    · exact ((ih h.2).cons _).trans (.swap _ _ _)

/-- The names of settings rise. -/
def Rising (cs : List (String × String)) : Prop := cs.Pairwise fun c d => c.1 < d.1

theorem mem_insert {c d : String × String} {cs : List (String × String)} (h : d ∈ insert c cs) :
    d = c ∨ d ∈ cs := by
  induction cs with
  | nil => exact .inl (List.mem_singleton.mp h)
  | cons e cs ih =>
    rw [insert] at h
    split at h
    · exact (List.mem_cons.mp h).imp_right (List.mem_cons_of_mem _)
    · split at h
      · exact List.mem_cons.mp h
      · rcases List.mem_cons.mp h with rfl | h
        · exact .inr List.mem_cons_self
        · exact (ih h).imp_right (List.mem_cons_of_mem _)

theorem rising_insert (c : String × String) {cs : List (String × String)} (h : Rising cs) :
    Rising (insert c cs) := by
  induction cs with
  | nil => exact List.pairwise_singleton ..
  | cons d cs ih =>
    obtain ⟨hd, hcs⟩ := List.pairwise_cons.mp h
    rw [insert]
    split
    · rename_i he
      exact List.pairwise_cons.mpr ⟨fun e he' => he ▸ hd e he', hcs⟩
    · rename_i hne
      split
      · rename_i hlt
        refine List.pairwise_cons.mpr ⟨fun e he => ?_, h⟩
        rcases List.mem_cons.mp he with rfl | he
        · exact hlt
        · exact String.lt_trans hlt (hd e he)
      · rename_i hge
        have hgt : d.1 < c.1 :=
          String.not_le.mp fun hle => hne (String.le_antisymm (String.not_lt.mp hge) hle).symm
        refine List.pairwise_cons.mpr ⟨fun e he => ?_, ih hcs⟩
        rcases mem_insert he with rfl | he
        · exact hgt
        · exact hd e he

theorem rising_ofList (cs : List (String × String)) : Rising (ofList cs) :=
  List.foldlRecOn cs _ .nil fun _ h c _ => rising_insert c h

/-- Settings whose names differ are only moved. -/
theorem ofList_perm {cs : List (String × String)} (nodup : (cs.map (·.1)).Nodup) :
    (ofList cs).Perm cs := by
  have hplaced (placed : List (String × String)) (h : ((cs ++ placed).map (·.1)).Nodup) :
      (cs.foldl (fun placed c => insert c placed) placed).Perm (cs ++ placed) := by
    clear nodup
    induction cs generalizing placed with
    | nil => exact .refl _
    | cons c cs ih =>
      rw [List.cons_append, List.map_cons, List.nodup_cons, List.map_append, List.mem_append,
        not_or, ← List.map_append] at h
      have hput := insert_perm h.1.2
      have hmoved : (cs ++ insert c placed).Perm (c :: (cs ++ placed)) :=
        (hput.append_left cs).trans List.perm_middle
      refine (ih _ ?_).trans hmoved
      rw [(hmoved.map _).nodup_iff, List.map_cons, List.nodup_cons, List.map_append,
        List.mem_append, not_or, ← List.map_append]
      exact h
  simpa [ofList] using hplaced [] (by simpa using nodup)

end Configs

/-- A partition as its replicas make it. -/
structure PartitionInfo.Holds (p : PartitionInfo) (id : Int32) (rs : List ReplicaData) : Prop where
  id : p.id = id
  /-- The first that is marked as leader leads. -/
  leader : p.leader = (rs.find? (·.isLeader)).map (·.broker)
  replicas : p.replicas = rs.map (·.broker)
  isr : p.isr = (rs.filter (·.inSync)).map (·.broker)
  offline : p.offline = []

/-- A topic as what a proxy says about it makes it. -/
structure TopicInfo.MadeOf (info : TopicInfo) (t : TopicData) (ids : List Int32)
    (configs : List ConfigData) (replicas : Int32 → List ReplicaData) : Prop where
  name : info.name = t.name
  isInternal : info.isInternal = t.isInternal
  replicationFactor : info.replicationFactor = t.replicationFactor
  partitionCount : info.partitionCount = t.partitionCount
  operations : info.authorizedOperations = t.operations
  /-- There is one partition for each that is listed. -/
  listed : (info.partitions.map (·.id)).Perm ids
  rising : info.partitions.Pairwise fun p q => p.id < q.id
  held : ∀ p ∈ info.partitions, p.Holds p.id (replicas p.id)
  /-- Settings without a value are left out, and no others. -/
  configs : ∀ name value, (name, value) ∈ info.configs ↔ ⟨name, some value⟩ ∈ configs
  named : Configs.Rising info.configs

/-- The replicas of a partition leave nothing open about it. -/
theorem PartitionInfo.Holds.unique {p p' : PartitionInfo} {id : Int32} {rs : List ReplicaData}
    (h : p.Holds id rs) (h' : p'.Holds id rs) : p = p' := by
  obtain ⟨id', leader, replicas, isr, offline⟩ := p
  obtain ⟨rfl, rfl, rfl, rfl, rfl⟩ := h
  obtain ⟨id'', leader', replicas', isr', offline'⟩ := p'
  obtain ⟨rfl, rfl, rfl, rfl, rfl⟩ := h'
  rfl

namespace TopicInfo.MadeOf

variable {info info' : TopicInfo} {t : TopicData} {ids ids' : List Int32}
  {cs cs' : List ConfigData} {replicas : Int32 → List ReplicaData}

theorem mem_partitions (h : info.MadeOf t ids cs replicas) (h' : info'.MadeOf t ids' cs' replicas)
    (hids : ids'.Perm ids) {p : PartitionInfo} (hp : p ∈ info'.partitions) :
    p ∈ info.partitions := by
  have hid : p.id ∈ info.partitions.map (·.id) :=
    ((h'.listed.trans hids).trans h.listed.symm).subset (List.mem_map_of_mem hp)
  obtain ⟨p', hp', he⟩ := List.mem_map.mp hid
  have heq : p = p' := (h'.held p hp).unique (he ▸ h.held p' hp')
  exact heq ▸ hp'

/-- In which order partitions and settings are listed makes no difference. -/
theorem unique (h : info.MadeOf t ids cs replicas) (h' : info'.MadeOf t ids' cs' replicas)
    (hids : ids'.Perm ids) (hcs : cs'.Perm cs) : info' = info := by
  have hpartitions : info'.partitions = info.partitions := by
    have hanti : Std.Antisymm fun p q : PartitionInfo => p.id < q.id :=
      ⟨fun _ _ hlt hgt => absurd hgt (Int32.lt_asymm hlt)⟩
    have hirrefl : Std.Irrefl fun p q : PartitionInfo => p.id < q.id :=
      ⟨fun _ => Int32.lt_irrefl⟩
    exact h'.rising.eq_of_mem_iff h.rising fun p =>
      ⟨h.mem_partitions h' hids, h'.mem_partitions h hids.symm⟩
  have hconfigs : info'.configs = info.configs := by
    have hanti : Std.Antisymm fun x y : String × String => x.1 < y.1 :=
      ⟨fun _ _ hlt hgt => absurd hgt (String.lt_asymm hlt)⟩
    have hirrefl : Std.Irrefl fun x y : String × String => x.1 < y.1 :=
      ⟨fun _ => String.lt_irrefl _⟩
    exact List.Pairwise.eq_of_mem_iff h'.named h.named fun (name, value) =>
      (h'.configs name value).trans (hcs.mem_iff.trans (h.configs name value).symm)
  cases info
  cases info'
  rw [TopicInfo.mk.injEq]
  exact ⟨h'.name.trans h.name.symm, h'.isInternal.trans h.isInternal.symm,
    h'.replicationFactor.trans h.replicationFactor.symm,
    h'.partitionCount.trans h.partitionCount.symm, hpartitions, hconfigs,
    h'.operations.trans h.operations.symm⟩

end TopicInfo.MadeOf

namespace Services

/-- The settings that have a value. -/
def settingsOf (cs : List ConfigData) : List (String × String) :=
  cs.filterMap fun x => x.value.map (x.name, ·)

theorem mem_settingsOf {cs : List ConfigData} {name value : String} :
    (name, value) ∈ settingsOf cs ↔ ⟨name, some value⟩ ∈ cs := by
  simp only [settingsOf, List.mem_filterMap, Option.map_eq_some_iff, Prod.mk.injEq]
  constructor
  · rintro ⟨⟨n, v⟩, hc, v', hv, hn, rfl⟩
    dsimp only at hv hn
    rwa [← hn, ← hv]
  · exact fun h => ⟨_, h, value, rfl, rfl, rfl⟩

theorem nodup_settingsOf {cs : List ConfigData} (nodup : (cs.map (·.name)).Nodup) :
    ((settingsOf cs).map (·.1)).Nodup := by
  have hsub : ((settingsOf cs).map (·.1)).Sublist (cs.map (·.name)) := by
    clear nodup
    induction cs with
    | nil => exact .slnil
    | cons c cs ih =>
      obtain ⟨n, v⟩ := c
      cases v with
      | none => exact ih.cons _
      | some v => exact ih.cons_cons _
  exact hsub.nodup nodup

/-- The order in which the partitions of a topic stand. -/
theorem rising_mergeSort {ps : List PartitionInfo} (nodup : (ps.map (·.id)).Nodup) :
    (ps.mergeSort fun a b => a.id ≤ b.id).Pairwise fun p q => p.id < q.id := by
  have hperm := List.mergeSort_perm ps fun a b => a.id ≤ b.id
  have hsorted : (ps.mergeSort fun a b => a.id ≤ b.id).Pairwise fun a b =>
      decide (a.id ≤ b.id) = true := by
    refine List.pairwise_mergeSort (fun a b c hab hbc => ?_) (fun a b => ?_) ps
    · rw [decide_eq_true_eq] at hab hbc ⊢
      exact Int32.le_trans hab hbc
    · simpa using Int32.le_total a.id b.id
  have hne : (ps.mergeSort fun a b => a.id ≤ b.id).Pairwise fun p q => p.id ≠ q.id := by
    rw [← List.pairwise_map]
    exact ((hperm.map (·.id)).nodup_iff).mpr nodup
  exact (hsorted.and hne).imp fun ⟨hle, hne⟩ => Int32.lt_of_le_of_ne (of_decide_eq_true hle) hne

theorem holds_partitionOf (id : Int32) (rs : List ReplicaData) :
    (partitionOf id rs).Holds id rs := ⟨rfl, rfl, rfl, rfl, rfl⟩

section

variable {t : TopicData} {ids : List Int32} {cs : List ConfigData}
  {replicas : Int32 → List ReplicaData}

/-- The partitions of which a topic is put together. -/
def partitionsOf (ids : List Int32) (replicas : Int32 → List ReplicaData) : List PartitionInfo :=
  ids.map fun id => partitionOf id (replicas id)

theorem map_id_partitionsOf : (partitionsOf ids replicas).map (·.id) = ids := by
  simp [partitionsOf, partitionOf, Function.comp_def]

theorem assemble_madeOf (nodup : ids.Nodup) (named : (cs.map (·.name)).Nodup) :
    (assemble t (partitionsOf ids replicas) cs).MadeOf t ids cs replicas := by
  have hperm := List.mergeSort_perm (partitionsOf ids replicas) fun a b => a.id ≤ b.id
  refine ⟨rfl, rfl, rfl, rfl, rfl, ?_, rising_mergeSort ?_, fun p hp => ?_, fun name value => ?_,
    Configs.rising_ofList _⟩
  · have hids := hperm.map (·.id)
    rwa [map_id_partitionsOf] at hids
  · rwa [map_id_partitionsOf]
  · obtain ⟨id, -, rfl⟩ := List.mem_map.mp (hperm.mem_iff.mp hp)
    exact holds_partitionOf id _
  · exact (Configs.ofList_perm (nodup_settingsOf named)).mem_iff.trans mem_settingsOf

end

/-- The services if other requests had been sent before. -/
def having (s : Services) (sent : List HttpRequest) : Services :=
  { s with web := { s.web with sent } }

/-- The answers are those of a proxy, whatever it was asked before. -/
structure Answers.Told (a : Answers) (s : Services) (c : Cluster) (url : String) : Prop where
  topic : ∀ sent, ((s.having sent).fetch c (url ++ "?includeAuthorizedOperations=true")
    TopicData.decoder).1 = a.topic
  partitions : ∀ sent, ((s.having sent).fetch c (url ++ "/partitions") (listOf partitionId)).1 =
    a.partitions
  configs : ∀ sent, ((s.having sent).fetch c (url ++ "/configs") (listOf ConfigData.decoder)).1 =
    a.configs
  replicas : ∀ sent id, ((s.having sent).fetch c s!"{url}/partitions/{id.toInt}/replicas"
    (listOf ReplicaData.decoder)).1 = a.replicas id

section

variable {s s₀ s' : Services} {c : Cluster} {flavor : Flavor} {base id url name : String}
  {ds ds₀ : List Dispatch} {a : Answers}

/-- What is told whatever was asked before is what was received. -/
theorem Came.eq_told {α : Type} {e : Errand} {decoder : Json.Decoder α} {r x : Except Failure α}
    (h : s'.Came c flavor ds e decoder r) (sent : Errands c flavor ds s s') (he : e ≠ .clusters)
    (endpoint : baseUrl c = .ok base) (knows : s'.Knows c flavor id) (hm : .get = e.method)
    (hb : none = e.body) (hurl : url = e.address base flavor id) (beside : Beside s₀ s')
    (told : ∀ earlier, ((s₀.having earlier).fetch c url decoder).1 = x) : r = x := by
  have hauthorization (earlier : List HttpRequest) :
      (s₀.having earlier).authorization c = s'.authorization c :=
    (beside.authorization c).symm
  subst hurl
  cases h with
  | told hd herrand heard =>
    subst herrand
    obtain ⟨own, earlier, hown, hmake, hreply⟩ := sent.made hd he endpoint knows
    rw [← hm, ← hb] at hmake
    have hweb : s₀.web.reply earlier = s'.web.reply earlier := by rw [beside.reply]
    rw [← told earlier, ← heard, Dispatch.tells, hreply, fetch_eq, sendTo, hauthorization, hown]
    simp only [hmake, Web.exchange, having, hweb]
  | prevented endpoint' knows' prevented failed =>
    cases endpoint.symm.trans endpoint'
    cases knows.unique knows'
    rw [← hm, ← hb] at prevented
    rw [← told [], fetch_eq, sendTo, hauthorization, failed]
    cases prevented with
    | unauthorized refused => rw [refused]; rfl
    | unmakeable authorized refused =>
      simp only [authorized, refused]
      rfl

theorem eq_map_of_forall₂ {α β : Type} {R : α → β → Prop} {g : α → β} {as : List α} {bs : List β}
    (h : List.Forall₂ R as bs) (only : ∀ a ∈ as, ∀ b, R a b → b = g a) : bs = as.map g := by
  induction h with
  | nil => rfl
  | cons hab _ ih =>
    obtain ⟨hfirst, hrest⟩ := List.forall_mem_cons.mp only
    rw [List.map_cons, ← hfirst _ hab, ← ih hrest]

namespace Described

variable {r : Except Failure TopicInfo}

theorem gives (h : Described s' c flavor name ds r) (sent : Errands c flavor ds s s')
    (once : s'.AskedOnce c flavor name ds) (received : a.Received s' c flavor name ds)
    {t : TopicData} {ids : List Int32} {cs : List ConfigData}
    {replicas : Int32 → List ReplicaData} (gives : a.Gives t ids cs replicas)
    (nodup : ids.Nodup) : r = .ok (assemble t (partitionsOf ids replicas) cs) := by
  cases h with
  | @failed a' f' received' fails' =>
    exact absurd fails' (received.not_fails received' sent once gives nodup f')
  | @assembled _ _ _ ps topic partitions configs hreplicas all =>
    cases gives.topic.symm.trans (received.topic.unique topic sent once.topic (by simp))
    cases gives.partitions.symm.trans
      (received.partitions.unique partitions sent once.partitions (by simp))
    cases gives.configs.symm.trans (received.configs.unique configs sent once.configs (by simp))
    have hps : ps = partitionsOf ids replicas := by
      refine eq_map_of_forall₂ hreplicas ?_
      rintro id hid p ⟨rs, hrs, rfl⟩
      have hreceived := received.replicas t ids cs gives.topic gives.partitions gives.configs id hid
      rw [gives.replicas id hid] at hreceived
      cases hreceived.unique hrs sent (once.replicas ids partitions nodup id) (by simp)
      rfl
    rw [hps]

end Described

/-- The cluster's place is found, and what is asked there about the topic has these answers. -/
def Answered (s : Services) (c : Cluster) (flavor : Flavor) (name : String) (a : Answers) : Prop :=
  ∃ place, (s.clusterUrl c flavor).1 = .ok place ∧
    a.Told (s.clusterUrl c flavor).2 c s!"{place}/topics/{name}"

/-- How a description ends, by what was received. -/
structure Assembled (s : Services) (c : Cluster) (flavor : Flavor) (name : String)
    (ds : List Dispatch) (r : Except Failure TopicInfo) : Prop where
  /-- The cluster's place is not found, or every request comes to something. -/
  received : (∃ f, s.Misses c flavor ds f ∧ r = .error (f.inContext "describe topic" name)) ∨
    ∃ a : Answers, a.Received s c flavor name ds
  /-- Nothing is put together once any request fails. -/
  fails : ∀ (a : Answers) (f : Failure), a.Received s c flavor name ds → a.Fails f →
    ∃ (a' : Answers) (f' : Failure), a'.Received s c flavor name ds ∧ a'.Fails f' ∧
      r = .error (f'.inContext "describe topic" name)
  /-- What is made of the same in another order is the same topic. -/
  gives : ∀ (a : Answers) t ids cs replicas, a.Received s c flavor name ds →
    a.Gives t ids cs replicas → ids.Nodup → (cs.map (·.name)).Nodup →
      ∃ info, r = .ok info ∧ info.MadeOf t ids cs replicas ∧
        ∀ (info' : TopicInfo) ids' cs', info'.MadeOf t ids' cs' replicas → ids'.Perm ids →
          cs'.Perm cs → info' = info

theorem Described.toAssembled {r : Except Failure TopicInfo}
    (h : Described s' c flavor name ds r) (sent : Errands c flavor ds s s')
    (once : s'.AskedOnce c flavor name ds) :
    s'.Assembled c flavor name ds (r.mapError (·.inContext "describe topic" name)) where
  received := .inr h.received
  fails := by
    intro a f received failed
    obtain ⟨a', f', received', failed', rfl⟩ := h.fails sent once received failed
    exact ⟨a', f', received', failed', rfl⟩
  gives := by
    intro a t ids cs replicas received gives nodup named
    rw [h.gives sent once received gives nodup]
    have madeOf : (assemble t (partitionsOf ids replicas) cs).MadeOf t ids cs replicas :=
      assemble_madeOf nodup named
    exact ⟨_, rfl, madeOf, fun _ _ _ madeOf' hids hcs => madeOf.unique madeOf' hids hcs⟩

/-- Nothing is received about a topic where the cluster's place is not found. -/
theorem Misses.not_received {f : Failure} (h : s.Misses c flavor ds f)
    (clusters : ∀ d ∈ ds, d.errand = .clusters) : ¬a.Received s c flavor name ds := by
  intro received
  cases received.topic with
  | told hd herrand => cases (clusters _ hd).symm.trans herrand
  | prevented endpoint knows => exact h.not_knows endpoint knows

/-- Answers that are told whatever was asked before are what is received. -/
theorem Answers.Told.received {a' : Answers} (told : a.Told s₀ c url)
    (sent : Errands c flavor ds s s') (endpoint : baseUrl c = .ok base)
    (knows : s'.Knows c flavor id) (hurl : url = (Errand.lookFor name).address base flavor id)
    (beside : Beside s₀ s') (received : a'.Received s' c flavor name ds) :
    a.Received s' c flavor name ds ∧ ∀ f, a'.Fails f → a.Fails f := by
  have htopic : a'.topic = a.topic :=
    received.topic.eq_told sent (by simp) endpoint knows rfl rfl
      (Errand.address_append hurl (by simp) rfl) beside told.topic
  have hids : a'.partitions = a.partitions :=
    received.partitions.eq_told sent (by simp) endpoint knows rfl rfl
      (Errand.address_append hurl (by simp) rfl) beside told.partitions
  have hconfigs : a'.configs = a.configs :=
    received.configs.eq_told sent (by simp) endpoint knows rfl rfl
      (Errand.address_append hurl (by simp) rfl) beside told.configs
  have hreplicas {t : TopicData} {ids : List Int32} {cs : List ConfigData} (ht : a'.topic = .ok t)
      (hi : a'.partitions = .ok ids) (hc : a'.configs = .ok cs) (n : Int32) (hn : n ∈ ids) :
      a'.replicas n = a.replicas n :=
    (received.replicas t ids cs ht hi hc n hn).eq_told sent (by simp) endpoint knows rfl rfl
      (Errand.address_replicas hurl n) beside fun earlier => told.replicas earlier n
  refine ⟨⟨htopic ▸ received.topic, hids ▸ received.partitions, hconfigs ▸ received.configs,
    fun t ids cs ht hi hc n hn => ?_⟩, fun f failed => ?_⟩
  · rw [← htopic] at ht
    rw [← hids] at hi
    rw [← hconfigs] at hc
    exact hreplicas ht hi hc n hn ▸ received.replicas t ids cs ht hi hc n hn
  · cases failed with
    | topic failed => exact .topic (htopic ▸ failed)
    | partitions failed => exact .partitions (hids ▸ failed)
    | configs failed => exact .configs (hconfigs ▸ failed)
    | replicas ht hi hc listed failed =>
      exact .replicas (htopic ▸ ht) (hids ▸ hi) (hconfigs ▸ hc) listed
        (hreplicas ht hi hc _ listed ▸ failed)

/-- A description goes by what is received, which is what is told whatever was asked before. -/
theorem proxyDescribe_assembled (s : Services) (c : Cluster) (flavor : Flavor) (name : String) :
    ∃ ds, Errands c flavor ds s (s.proxyDescribe c flavor name).2 ∧
      (s.proxyDescribe c flavor name).2.Assembled c flavor name ds
        (s.proxyDescribe c flavor name).1 ∧
      ∀ a, s.Answered c flavor name a →
        a.Received (s.proxyDescribe c flavor name).2 c flavor name ds ∧
        ∀ a' f, Answers.Received a' (s.proxyDescribe c flavor name).2 c flavor name ds →
          a'.Fails f → a.Fails f := by
  obtain ⟨ds₀, s₀, herrands, hclusters, ⟨f, hmisses, hplace⟩ |
    ⟨base, id, endpoint, knows, hplace⟩⟩ := s.clusterUrl_cases c flavor
  all_goals simp only [Answered, proxyDescribe, explain, atCluster, hplace]
  · refine ⟨ds₀, herrands, ⟨.inl ⟨f, hmisses, rfl⟩, fun a _ received => ?_,
      fun a _ _ _ _ received => ?_⟩, ?_⟩
    · exact absurd received (hmisses.not_received hclusters)
    · exact absurd received (hmisses.not_received hclusters)
    · rintro a ⟨_, ⟨⟩, -⟩
  · have hurl := @topicAddress flavor base id _ name rfl
    obtain ⟨ds, hsent, honce, hdescribed⟩ := describeAt_described herrands hclusters endpoint knows
      hurl
    have hasks := asks_describeAt endpoint knows name hurl
    have hknows := knows.asks hasks
    obtain ⟨⟨_, hafter, -⟩, -⟩ := hasks
    have htold {a a' : Answers} (told : a.Told s₀ c _)
        (received : a'.Received _ c flavor name ds) :=
      told.received hsent endpoint hknows hurl hafter.beside received
    refine ⟨ds, hsent, hdescribed.toAssembled hsent honce, ?_⟩
    rintro a ⟨_, ⟨⟩, told⟩
    obtain ⟨a', received⟩ := hdescribed.received
    exact ⟨(htold told received).1, fun a' f received => (htold told received).2 f⟩

end

/-- A description of a topic that is asked for at any proxy. Without a place to ask at it fails, and
once any request fails it fails with the failure of one. If all succeed, the topic has one partition
for each that is listed, in the order of their numbers and each with its own replicas, and just the
settings with a value. Every proxy that lists the same in another order gives the same topic. None
of this needs a proxy that sticks to its answers: the replies that are received make the topic. -/
theorem topic_assembled (s : Services) (c : Cluster) (flavor : Flavor) (name : String) :
    (∀ f, (s.clusterUrl c flavor).1 = .error f → (s.proxyDescribe c flavor name).1 =
      .error (f.inContext "describe topic" name)) ∧
    (∀ f : Failure, (f.inContext "describe topic" name).category = f.category) ∧
    (∀ a, s.Answered c flavor name a →
      (∀ f, a.Fails f → ∃ f', a.Fails f' ∧ (s.proxyDescribe c flavor name).1 =
        .error (f'.inContext "describe topic" name)) ∧
      ∀ t ids cs replicas, a.Gives t ids cs replicas → ids.Nodup → (cs.map (·.name)).Nodup →
        ∃ info, (s.proxyDescribe c flavor name).1 = .ok info ∧ info.MadeOf t ids cs replicas ∧
          ∀ s' c' flavor' name' a' ids' cs', Answered s' c' flavor' name' a' →
            a'.Gives t ids' cs' replicas → ids'.Perm ids → cs'.Perm cs →
            (s'.proxyDescribe c' flavor' name').1 = .ok info) ∧
    ∃ ds, Errands c flavor ds s (s.proxyDescribe c flavor name).2 ∧
      (s.proxyDescribe c flavor name).2.Assembled c flavor name ds
        (s.proxyDescribe c flavor name).1 := by
  obtain ⟨ds, hsent, hassembled, hanswered⟩ := s.proxyDescribe_assembled c flavor name
  refine ⟨fun f hf => ?_, fun f => f.category_inContext _ _, fun a answered => ⟨fun f fails => ?_,
    fun t ids cs replicas gives nodup named => ?_⟩, ds, hsent, hassembled⟩
  · simp only [proxyDescribe, explain, atCluster]
    generalize s.clusterUrl c flavor = found at hf ⊢
    obtain ⟨_, s'⟩ := found
    cases hf
    rfl
  · obtain ⟨received, hfails⟩ := hanswered a answered
    obtain ⟨a', f', received', fails', hr⟩ := hassembled.fails a f received fails
    exact ⟨f', hfails a' f' received' fails', hr⟩
  · obtain ⟨info, hr, madeOf, hsame⟩ :=
      hassembled.gives a t ids cs replicas (hanswered a answered).1 gives nodup named
    refine ⟨info, hr, madeOf, fun s' c' flavor' name' a' ids' cs' answered' gives' hids hcs => ?_⟩
    obtain ⟨ds', -, hassembled', hanswered'⟩ := s'.proxyDescribe_assembled c' flavor' name'
    obtain ⟨info', hr', madeOf', -⟩ := hassembled'.gives a' t ids' cs' replicas
      (hanswered' a' answered').1 gives' (hids.nodup_iff.mpr nodup)
      ((hcs.map _).nodup_iff.mpr named)
    rw [hr', hsame info' ids' cs' madeOf' hids hcs]

/-- What requests about a topic come to now. -/
def answers (s : Services) (c : Cluster) (url : String) : Answers where
  topic := (s.fetch c (url ++ "?includeAuthorizedOperations=true") TopicData.decoder).1
  partitions := (s.fetch c (url ++ "/partitions") (listOf partitionId)).1
  configs := (s.fetch c (url ++ "/configs") (listOf ConfigData.decoder)).1
  replicas id := (s.fetch c s!"{url}/partitions/{id.toInt}/replicas" (listOf ReplicaData.decoder)).1

/-- Where replies do not hang on what was sent before, neither does what requests come to. -/
theorem told_answers {s : Services} (steady : ∀ sent r, s.web.reply sent r = s.web.reply [] r)
    (c : Cluster) (url : String) : (s.answers c url).Told s c url := by
  have hfetch {α : Type} (sent : List HttpRequest) (url : String) (d : Json.Decoder α) :
      ((s.having sent).fetch c url d).1 = (s.fetch c url d).1 := by
    have hauthorization : (s.having sent).authorization c = s.authorization c := rfl
    rw [fetch_eq, fetch_eq]
    simp only [sendTo, hauthorization]
    cases s.authorization c with
    | error f => rfl
    | ok own =>
      dsimp only
      cases HttpRequest.make .get url own none with
      | error f => rfl
      | ok r => simp only [Web.exchange, having, steady sent, steady s.web.sent]
  exact ⟨fun sent => hfetch sent _ _, fun sent => hfetch sent _ _, fun sent => hfetch sent _ _,
    fun sent _ => hfetch sent _ _⟩

theorem answered_answers {s : Services} {c : Cluster} {flavor : Flavor} {place : String}
    (steady : ∀ sent r, s.web.reply sent r = s.web.reply [] r)
    (there : s.clusterUrl c flavor = (.ok place, s)) (name : String) :
    s.Answered c flavor name (s.answers c s!"{place}/topics/{name}") := by
  refine ⟨place, by rw [there], ?_⟩
  rw [there]
  exact told_answers steady c _

/-- Two partitions are listed, the second one first, and one of two settings has no value. Another
proxy is busy. -/
theorem topic_assembled_pair :
    let web : Web := ⟨fun _ r => .answered 200 (match r.url.text with
      | "http://p/v3/clusters/d/topics/t?includeAuthorizedOperations=true" =>
        "\x7b\"topic_name\":\"t\",\"partitions_count\":2\x7d"
      | "http://p/v3/clusters/d/topics/t/partitions" =>
        "\x7b\"data\":[\x7b\"partition_id\":1\x7d,\x7b\"partition_id\":0\x7d]\x7d"
      | "http://p/v3/clusters/d/topics/t/configs" =>
        "\x7b\"data\":[\x7b\"name\":\"a\"\x7d,\x7b\"name\":\"b\",\"value\":\"c\"\x7d]\x7d"
      | "http://p/v3/clusters/d/topics/t/partitions/1/replicas" =>
        "\x7b\"data\":[\x7b\"broker_id\":7\x7d,\x7b\"broker_id\":8,\"is_leader\":true\x7d]\x7d"
      | _ => "\x7b\x7d"), []⟩
    let s := { Services.idle with web }
    let busy := { Services.idle with web := ⟨fun _ _ => .answered 503 "busy", []⟩ }
    let c := Cluster.proxiedAt "a" "d" "http://p"
    (∃ info, (s.proxyDescribe c .legacy "t").1 = .ok info ∧
      info.MadeOf ⟨"t", false, 0, 2, none⟩ [1, 0] [⟨"a", none⟩, ⟨"b", some "c"⟩]
        (fun id => if id = 1 then [⟨7, false, false⟩, ⟨8, true, false⟩] else [])) ∧
    ∃ f : Failure, (busy.proxyDescribe c .legacy "t").1 =
      .error (f.inContext "describe topic" "t") := by
  intro web s busy c
  have hbase : baseUrl c = .ok "http://p" := by decide +kernel
  have there (s : Services) : s.clusterUrl c .legacy = (.ok "http://p/v3/clusters/d", s) := by
    simp only [clusterUrl, hbase]
    rfl
  have answered := answered_answers (s := s) (fun _ _ => rfl) (there s) "t"
  have answered' := answered_answers (s := busy) (fun _ _ => rfl) (there busy) "t"
  let url := "http://p/v3/clusters/d" ++ "/topics/" ++ "t"
  have htopic : (s.answers c url).topic = .ok ⟨"t", false, 0, 2, none⟩ := by decide +kernel
  have hids : (s.answers c url).partitions = .ok [1, 0] := by decide +kernel
  have hconfigs : (s.answers c url).configs = .ok [⟨"a", none⟩, ⟨"b", some "c"⟩] := by
    decide +kernel
  let replicas (id : Int32) : List ReplicaData :=
    if id = 1 then [⟨7, false, false⟩, ⟨8, true, false⟩] else []
  have hone : (s.answers c url).replicas 1 = .ok (replicas 1) := by decide +kernel
  have hnone : (s.answers c url).replicas 0 = .ok (replicas 0) := by decide +kernel
  have hreplicas : ∀ id ∈ [1, 0], (s.answers c url).replicas id = .ok (replicas id) := by
    rintro id (_ | ⟨_, _ | ⟨_, ⟨⟩⟩⟩)
    exacts [hone, hnone]
  have hbusy : (busy.answers c url).topic = .error (Failure.new .transient "HTTP 503: busy") := by
    decide +kernel
  obtain ⟨info, hr, madeOf, -⟩ := ((topic_assembled s c .legacy "t").2.2.1 _ answered).2 _ _ _
    replicas ⟨htopic, hids, hconfigs, hreplicas⟩ (by decide) (by decide)
  obtain ⟨f, -, hfails⟩ :=
    ((topic_assembled busy c .legacy "t").2.2.1 _ answered').1 _ (.topic hbusy)
  exact ⟨⟨info, hr, madeOf⟩, f, hfails⟩

end Services

end ClusterAdmin
