import Mathlib.Data.List.Forall2
import Mathlib.Data.List.Pairwise
import ClusterAdmin.Proofs.Errands

namespace ClusterAdmin

open Rest

/-- What the reply to a request says, read as it should be. -/
def Dispatch.tells {α : Type} (d : Dispatch) (decoder : Json.Decoder α) : Except Failure α :=
  (bodyOf d.request.url d.reply).bind (decode decoder)

/-- At most one of these requests is for the errand. -/
def Once (ds : List Dispatch) (e : Errand) : Prop :=
  ds.Pairwise fun d d' => d.errand = e → d'.errand ≠ e

theorem Once.eq {ds : List Dispatch} {e : Errand} {d d' : Dispatch} (h : Once ds e) (hd : d ∈ ds)
    (hd' : d' ∈ ds) (he : d.errand = e) (he' : d'.errand = e) : d = d' := by
  by_contra hne
  have hapart : Std.Symm fun d d' : Dispatch => d.errand = e → d'.errand ≠ e :=
    ⟨fun _ _ h he he' => h he' he⟩
  exact h.forall hd hd' hne he he'

namespace Services

variable {α : Type} {c : Cluster} {flavor : Flavor} {base id : String} {ds ds' : List Dispatch}
  {s s' s'' : Services} {e : Errand} {decoder : Json.Decoder α} {r r' : Except Failure α}

/-- What asking a proxy for something came to by a state that these requests led to: what the reply
to the one for it says, or what prevents that one. -/
inductive Came (s : Services) (c : Cluster) (flavor : Flavor) (ds : List Dispatch) (e : Errand)
    (decoder : Json.Decoder α) (r : Except Failure α) : Prop
  | told {d : Dispatch} (sent : d ∈ ds) (errand : d.errand = e) (heard : d.tells decoder = r)
  | prevented {base id : String} {f : Failure} (endpoint : baseUrl c = .ok base)
    (knows : s.Knows c flavor id)
    (prevented : s.Prevents c e.method (e.address base flavor id) e.body f) (failed : r = .error f)

theorem Prevents.beside {m : Method} {url : String} {body : Option Json} {f : Failure}
    (h : s.Prevents c m url body f) (beside : Beside s s') : s'.Prevents c m url body f := by
  have hsame := beside.authorization c
  cases h with
  | unauthorized refused => exact .unauthorized (hsame.trans refused)
  | unmakeable authorized refused => exact .unmakeable (hsame.trans authorized) refused

/-- Later requests change nothing about what asking came to. -/
theorem Came.mono (h : s.Came c flavor ds e decoder r) (later : Errands c flavor ds' s s')
    {all : List Dispatch} (sub : ∀ d ∈ ds, d ∈ all) : s'.Came c flavor all e decoder r := by
  cases h with
  | told sent errand heard => exact .told (sub _ sent) errand heard
  | prevented endpoint knows prevented failed =>
    exact .prevented endpoint (later.knows knows) (prevented.beside later.beside) failed

/-- How a request about topics that was sent was made, and where its reply is from. -/
theorem Errands.made (h : Errands c flavor ds s s') {d : Dispatch} (hd : d ∈ ds)
    (he : d.errand ≠ .clusters) (endpoint : baseUrl c = .ok base) (knows : s'.Knows c flavor id) :
    ∃ own earlier, s'.authorization c = .ok own ∧
      HttpRequest.make d.errand.method (d.errand.address base flavor id) own d.errand.body =
        .ok d.request ∧
      d.reply = s'.web.reply earlier d.request := by
  obtain ⟨before, after, hsplit⟩ := List.append_of_mem hd
  obtain ⟨mid, hbefore, hsends, hafter⟩ := h.around hsplit
  obtain ⟨base', id', own, endpoint', hown, hmake, hknows⟩ := hsends.made
  cases endpoint.symm.trans endpoint'
  have hstill : (mid.heeding c d).Knows c flavor id' := by
    simpa only [Knows, heeding_of_ne he] using hknows he
  cases knows.unique (hafter.knows hstill)
  refine ⟨own, mid.web.sent, ?_, hmake, ?_⟩
  · rw [h.beside.authorization, ← hbefore.beside.authorization, hown]
  · rw [hsends.reply, hbefore.beside.reply, h.beside.reply]

/-- A request that was sent was not prevented. -/
theorem Errands.not_prevents (h : Errands c flavor ds s s') {d : Dispatch} (hd : d ∈ ds)
    (he : d.errand ≠ .clusters) (endpoint : baseUrl c = .ok base) (knows : s'.Knows c flavor id)
    (f : Failure) :
    ¬s'.Prevents c d.errand.method (d.errand.address base flavor id) d.errand.body f := by
  obtain ⟨own, -, hown, hmake, -⟩ := h.made hd he endpoint knows
  rintro (refused | ⟨authorized, refused⟩)
  · cases hown.symm.trans refused
  · cases hown.symm.trans authorized
    cases hmake.symm.trans refused

/-- Asking once comes to one thing. -/
theorem Came.unique (h : s'.Came c flavor ds e decoder r) (h' : s'.Came c flavor ds e decoder r')
    (sent : Errands c flavor ds s s') (once : Once ds e) (he : e ≠ .clusters) : r = r' := by
  cases h with
  | told hd errand heard =>
    cases h' with
    | told hd' errand' heard' =>
      cases once.eq hd hd' errand errand'
      exact heard.symm.trans heard'
    | prevented endpoint knows prevented =>
      subst errand
      exact absurd prevented (sent.not_prevents hd he endpoint knows _)
  | prevented endpoint knows prevented failed =>
    cases h' with
    | told hd' errand' =>
      subst errand'
      exact absurd prevented (sent.not_prevents hd' he endpoint knows _)
    | prevented endpoint' knows' prevented' failed' =>
      cases endpoint.symm.trans endpoint'
      cases knows.unique knows'
      cases prevented.unique prevented'
      exact failed.trans failed'.symm

/-- Requests for errands about topics, each for one of these and in their order. They do not change
by which identifier a proxy is asked. -/
structure InOrder (es : List Errand) (c : Cluster) (flavor : Flavor) (ds : List Dispatch)
    (s s' : Services) : Prop where
  errands : Errands c flavor ds s s'
  order : (ds.map (·.errand)).Sublist es
  kept : s'.proxyIds = s.proxyIds

theorem InOrder.trans {es es' : List Errand} (h : InOrder es c flavor ds s s')
    (h' : InOrder es' c flavor ds' s' s'') : InOrder (es ++ es') c flavor (ds ++ ds') s s'' where
  errands := h.errands.trans h'.errands
  order := by
    rw [List.map_append]
    exact h.order.append h'.order
  kept := h'.kept.trans h.kept

theorem InOrder.knows {es : List Errand} (h : InOrder es c flavor ds s s')
    (knows : s.Knows c flavor id) : s'.Knows c flavor id := by
  rwa [Knows, h.kept]

theorem InOrder.once {es : List Errand} (h : InOrder es c flavor ds s s')
    (once : es.Pairwise fun e' e'' => e' = e → e'' ≠ e) : Once ds e :=
  List.pairwise_map.mp (once.sublist h.order)

/-- Whatever asking for something comes to, there was one request for it at most. -/
theorem fetch_came (endpoint : baseUrl c = .ok base) (knows : s.Knows c flavor id)
    (he : e ≠ .clusters) (hm : .get = e.method) (hb : none = e.body) {url : String}
    (hurl : url = e.address base flavor id) (decoder : Json.Decoder α) :
    ∃ ds, InOrder [e] c flavor ds s (s.fetch c url decoder).2 ∧
      (s.fetch c url decoder).2.Came c flavor ds e decoder (s.fetch c url decoder).1 ∧
      ∀ d ∈ ds, d.tells decoder = (s.fetch c url decoder).1 := by
  rw [fetch_eq, hurl, hm, hb]
  rcases sendTo_errand endpoint knows he with ⟨f, hprevents, h⟩ | ⟨d, hsends, rfl, h⟩
  · rw [h]
    exact ⟨[], ⟨.none s, List.nil_sublist _, rfl⟩, .prevented endpoint knows hprevents rfl, by simp⟩
  · rw [h]
    refine ⟨[d], ⟨.one hsends, .refl _, by rw [heeding_of_ne he]⟩,
      .told (List.mem_singleton_self d) rfl rfl, fun d' hd' => ?_⟩
    cases List.mem_singleton.mp hd'
    rfl

section

variable {name url : String}

/-- Either the replicas of all partitions came, or asking for some failed. -/
theorem partitions_came (endpoint : baseUrl c = .ok base) (knows : s.Knows c flavor id)
    (hurl : url = (Errand.lookFor name).address base flavor id) (ids : List Int32) :
    ∃ ds, InOrder (ids.map (.replicas name)) c flavor ds s (partitions c url ids s).2 ∧
      (∀ n ∈ ids, ∃ r, (partitions c url ids s).2.Came c flavor ds (.replicas name n)
        (listOf ReplicaData.decoder) r) ∧
      ((∃ ps, (partitions c url ids s).1 = .ok ps ∧
        List.Forall₂ (fun n p => ∃ rs, (partitions c url ids s).2.Came c flavor ds
          (.replicas name n) (listOf ReplicaData.decoder) (.ok rs) ∧ p = partitionOf n rs) ids ps ∧
        ∀ d ∈ ds, ∃ rs, d.tells (listOf ReplicaData.decoder) = .ok rs) ∨
      ∃ f, ∃ n ∈ ids, (partitions c url ids s).2.Came c flavor ds (.replicas name n)
        (listOf ReplicaData.decoder) (.error f) ∧ (partitions c url ids s).1 = .error f) := by
  induction ids generalizing s with
  | nil => exact ⟨[], ⟨.none s, .refl _, rfl⟩, by simp, .inl ⟨[], rfl, .nil, by simp⟩⟩
  | cons n ids ih =>
    obtain ⟨ds₁, hfirst, hcame, htells⟩ := fetch_came endpoint knows (by simp) rfl rfl
      (Errand.address_replicas hurl n) (listOf ReplicaData.decoder)
    simp only [partitions]
    generalize s.fetch c s!"{url}/partitions/{n.toInt}/replicas" (listOf ReplicaData.decoder) =
      fetched at hfirst hcame htells ⊢
    obtain ⟨r, s₁⟩ := fetched
    obtain ⟨ds₂, hrest, hall, houtcome⟩ := ih (hfirst.knows knows)
    dsimp only at hfirst hcame htells ⊢
    generalize partitions c url ids s₁ = rest at hrest hall houtcome ⊢
    obtain ⟨ps?, s₂⟩ := rest
    dsimp only at hrest hall houtcome ⊢
    have hn : s₂.Came c flavor (ds₁ ++ ds₂) (.replicas name n) (listOf ReplicaData.decoder) r :=
      hcame.mono hrest.errands fun d hd => List.mem_append_left _ hd
    have hlater {n' : Int32} {r' : Except Failure (List ReplicaData)}
        (h : s₂.Came c flavor ds₂ (.replicas name n') (listOf ReplicaData.decoder) r') :
        s₂.Came c flavor (ds₁ ++ ds₂) (.replicas name n') (listOf ReplicaData.decoder) r' :=
      h.mono (.none s₂) fun d hd => List.mem_append_right _ hd
    refine ⟨ds₁ ++ ds₂, hfirst.trans hrest, ?_, ?_⟩
    · refine List.forall_mem_cons.mpr ⟨⟨r, hn⟩, fun n' hn' => ?_⟩
      obtain ⟨r', h⟩ := hall n' hn'
      exact ⟨r', hlater h⟩
    · cases r with
      | error f => exact .inr ⟨f, n, List.mem_cons_self, hn, rfl⟩
      | ok rs =>
        obtain ⟨ps, rfl, hps, htells'⟩ | ⟨f, n', hn', hf, rfl⟩ := houtcome
        · refine .inl ⟨partitionOf n rs :: ps, rfl, .cons ⟨rs, hn, rfl⟩ ?_, fun d hd => ?_⟩
          · exact hps.imp fun _ _ ⟨rs', h, hp⟩ => ⟨rs', hlater h, hp⟩
          · rcases List.mem_append.mp hd with hd | hd
            · exact ⟨rs, htells d hd⟩
            · exact htells' d hd
        · exact .inr ⟨f, n', List.mem_cons_of_mem _ hn', hlater hf, rfl⟩

end

/-- What requests about a topic come to. -/
structure Answers where
  topic : Except Failure TopicData
  partitions : Except Failure (List Int32)
  configs : Except Failure (List ConfigData)
  replicas : Int32 → Except Failure (List ReplicaData)

/-- The failure of a request. Replicas are asked for once everything else is there. -/
inductive Answers.Fails (a : Answers) (f : Failure) : Prop
  | topic (failed : a.topic = .error f)
  | partitions (failed : a.partitions = .error f)
  | configs (failed : a.configs = .error f)
  | replicas {t : TopicData} {ids : List Int32} {cs : List ConfigData} {id : Int32}
    (topic : a.topic = .ok t) (partitions : a.partitions = .ok ids) (configs : a.configs = .ok cs)
    (listed : id ∈ ids) (failed : a.replicas id = .error f)

/-- All requests succeed. -/
structure Answers.Gives (a : Answers) (t : TopicData) (ids : List Int32) (cs : List ConfigData)
    (replicas : Int32 → List ReplicaData) : Prop where
  topic : a.topic = .ok t
  partitions : a.partitions = .ok ids
  configs : a.configs = .ok cs
  replicas : ∀ id ∈ ids, a.replicas id = .ok (replicas id)

theorem Answers.Gives.not_fails {a : Answers} {t : TopicData} {ids : List Int32}
    {cs : List ConfigData} {replicas : Int32 → List ReplicaData} (h : a.Gives t ids cs replicas)
    (f : Failure) : ¬a.Fails f := by
  rintro (failed | failed | failed | ⟨-, partitions, -, listed, failed⟩)
  · cases h.topic.symm.trans failed
  · cases h.partitions.symm.trans failed
  · cases h.configs.symm.trans failed
  · cases h.partitions.symm.trans partitions
    cases (h.replicas _ listed).symm.trans failed

/-- What was received about a topic, by a state that these requests led to. -/
structure Answers.Received (a : Answers) (s : Services) (c : Cluster) (flavor : Flavor)
    (name : String) (ds : List Dispatch) : Prop where
  topic : s.Came c flavor ds (.topic name) TopicData.decoder a.topic
  partitions : s.Came c flavor ds (.partitions name) (listOf partitionId) a.partitions
  configs : s.Came c flavor ds (.configs name) (listOf ConfigData.decoder) a.configs
  replicas : ∀ t ids cs, a.topic = .ok t → a.partitions = .ok ids → a.configs = .ok cs →
    ∀ id ∈ ids, s.Came c flavor ds (.replicas name id) (listOf ReplicaData.decoder)
      (a.replicas id)

/-- What asking about a topic comes to: a topic put together from what was received, or the failure
of a request. -/
inductive Described (s : Services) (c : Cluster) (flavor : Flavor) (name : String)
    (ds : List Dispatch) : Except Failure TopicInfo → Prop
  | assembled {t : TopicData} {ids : List Int32} {cs : List ConfigData} {ps : List PartitionInfo}
      (topic : s.Came c flavor ds (.topic name) TopicData.decoder (.ok t))
      (partitions : s.Came c flavor ds (.partitions name) (listOf partitionId) (.ok ids))
      (configs : s.Came c flavor ds (.configs name) (listOf ConfigData.decoder) (.ok cs))
      (replicas : List.Forall₂ (fun id p => ∃ rs, s.Came c flavor ds (.replicas name id)
        (listOf ReplicaData.decoder) (.ok rs) ∧ p = partitionOf id rs) ids ps)
      (all : ∀ d ∈ ds, ∀ id, d.errand = .replicas name id →
        ∃ rs, d.tells (listOf ReplicaData.decoder) = .ok rs) :
    Described s c flavor name ds (.ok (assemble t ps cs))
  | failed {a : Answers} {f : Failure} (received : a.Received s c flavor name ds)
      (fails : a.Fails f) : Described s c flavor name ds (.error f)

/-- Nothing is asked for twice, as long as no partition is listed twice. -/
structure AskedOnce (s : Services) (c : Cluster) (flavor : Flavor) (name : String)
    (ds : List Dispatch) : Prop where
  topic : Once ds (.topic name)
  partitions : Once ds (.partitions name)
  configs : Once ds (.configs name)
  replicas : ∀ ids, s.Came c flavor ds (.partitions name) (listOf partitionId) (.ok ids) →
    ids.Nodup → ∀ id, Once ds (.replicas name id)

section

variable {s₀ : Services} {ds₀ : List Dispatch} {url name : String} {a : Answers}

/-- What is asked of a proxy about a topic that has these partitions. -/
def errandsAbout (name : String) (ids : List Int32) : List Errand :=
  [.topic name, .partitions name, .configs name] ++ ids.map (.replicas name)

theorem once_errandsAbout {e : Errand} {ids : List Int32}
    (h : (∀ id, .replicas name id ≠ e) ∨ ids.Nodup) :
    (errandsAbout name ids).Pairwise fun e' e'' => e' = e → e'' ≠ e := by
  refine List.pairwise_append.mpr ⟨?_, List.pairwise_map.mpr ?_, fun e' he' e'' he'' => ?_⟩
  · simp only [List.pairwise_cons, List.mem_cons, List.not_mem_nil, or_false]
    refine ⟨?_, ?_, by simp⟩
    · rintro _ (rfl | rfl) rfl <;> simp
    · rintro _ rfl rfl
      simp
  · rcases h with h | nodup
    · exact List.pairwise_of_forall_mem_list fun id _ _ _ he => absurd he (h id)
    · exact nodup.imp fun hne he he' => hne (by cases he; cases he'; rfl)
  · obtain ⟨id, -, rfl⟩ := List.mem_map.mp he''
    rintro rfl rfl
    simp at he'

theorem InOrder.askedOnce {ids : List Int32}
    (h : InOrder (errandsAbout name ids) c flavor ds s s') (before : Errands c flavor ds₀ s₀ s)
    (clusters : ∀ d ∈ ds₀, d.errand = .clusters) (listed : ids = [] ∨
      s'.Came c flavor (ds₀ ++ ds) (.partitions name) (listOf partitionId) (.ok ids)) :
    s'.AskedOnce c flavor name (ds₀ ++ ds) := by
  have honce {e : Errand} (he : e ≠ .clusters) (h' : (∀ id, .replicas name id ≠ e) ∨ ids.Nodup) :
      Once (ds₀ ++ ds) e := by
    have hne : ∀ d ∈ ds₀, d.errand ≠ e := fun d hd he' => he (he'.symm.trans (clusters d hd))
    refine List.pairwise_append.mpr ⟨?_, h.once (once_errandsAbout h'),
      fun d hd _ _ he' => absurd he' (hne d hd)⟩
    exact List.pairwise_of_forall_mem_list fun d hd _ _ he' => absurd he' (hne d hd)
  have hpartitions : Once (ds₀ ++ ds) (.partitions name) := honce (by simp) (.inl (by simp))
  refine ⟨honce (by simp) (.inl (by simp)), hpartitions, honce (by simp) (.inl (by simp)),
    fun ids' hids' nodup id => honce (by simp) (.inr ?_)⟩
  rcases listed with rfl | hids
  · exact .nil
  · cases hids.unique hids' (before.trans h.errands) hpartitions (by simp)
    exact nodup

/-- How a description goes on once the topic, its partitions and its settings were asked for. -/
def concluded (c : Cluster) (url : String) (topic : Except Failure TopicData)
    (ids : Except Failure (List Int32)) (configs : Except Failure (List ConfigData))
    (s : Services) : Except Failure TopicInfo × Services :=
  match topic, ids, configs with
  | .ok t, .ok ids, .ok cs =>
    ((Services.partitions c url ids s).1.map (assemble t · cs), (Services.partitions c url ids s).2)
  | .error f, _, _ => (.error f, s)
  | _, .error f, _ => (.error f, s)
  | _, _, .error f => (.error f, s)

/-- The requests that a description begins with, and what comes of them. -/
theorem describeAt_begun (endpoint : baseUrl c = .ok base) (knows : s.Knows c flavor id)
    (hurl : url = (Errand.lookFor name).address base flavor id) :
    ∃ ds s' topic ids configs, InOrder (errandsAbout name []) c flavor ds s s' ∧
      s'.Came c flavor ds (.topic name) TopicData.decoder topic ∧
      s'.Came c flavor ds (.partitions name) (listOf partitionId) ids ∧
      s'.Came c flavor ds (.configs name) (listOf ConfigData.decoder) configs ∧
      describeAt c url s = concluded c url topic ids configs s' := by
  simp only [describeAt]
  obtain ⟨ds₁, hasked₁, htopic, -⟩ := fetch_came endpoint knows (e := .topic name) (by simp) rfl rfl
    (Errand.address_append hurl (by simp) rfl) TopicData.decoder
  generalize s.fetch c (url ++ "?includeAuthorizedOperations=true") TopicData.decoder = fetched
    at hasked₁ htopic ⊢
  obtain ⟨topic, s₁⟩ := fetched
  obtain ⟨ds₂, hasked₂, hids, -⟩ := fetch_came endpoint (hasked₁.knows knows)
    (e := .partitions name) (by simp) rfl rfl
    (Errand.address_append hurl (by simp) rfl) (listOf partitionId)
  dsimp only at hasked₁ htopic hasked₂ hids ⊢
  generalize s₁.fetch c (url ++ "/partitions") (listOf partitionId) = fetched at hasked₂ hids ⊢
  obtain ⟨ids, s₂⟩ := fetched
  obtain ⟨ds₃, hasked₃, hconfigs, -⟩ := fetch_came endpoint
    (hasked₂.knows (hasked₁.knows knows)) (e := .configs name) (by simp) rfl rfl
    (Errand.address_append hurl (by simp) rfl) (listOf ConfigData.decoder)
  dsimp only at hasked₂ hids hasked₃ hconfigs ⊢
  generalize s₂.fetch c (url ++ "/configs") (listOf ConfigData.decoder) = fetched
    at hasked₃ hconfigs ⊢
  obtain ⟨configs, s₃⟩ := fetched
  exact ⟨ds₁ ++ ds₂ ++ ds₃, s₃, topic, ids, configs, (hasked₁.trans hasked₂).trans hasked₃,
    htopic.mono (hasked₂.errands.trans hasked₃.errands) (by simp +contextual),
    hids.mono hasked₃.errands (by simp +contextual),
    hconfigs.mono (.none s₃) (by simp +contextual), rfl⟩

section

variable {t : TopicData} {ids : List Int32} {cs : List ConfigData}

/-- Where the replicas of a partition are not to be had, that is what asking for everything comes
to. -/
theorem exists_received_failed {n : Int32} {f : Failure}
    (topic : s.Came c flavor ds (.topic name) TopicData.decoder (.ok t))
    (partitions : s.Came c flavor ds (.partitions name) (listOf partitionId) (.ok ids))
    (configs : s.Came c flavor ds (.configs name) (listOf ConfigData.decoder) (.ok cs))
    (all : ∀ m ∈ ids, ∃ r,
      s.Came c flavor ds (.replicas name m) (listOf ReplicaData.decoder) r)
    (listed : n ∈ ids)
    (failed : s.Came c flavor ds (.replicas name n) (listOf ReplicaData.decoder) (.error f)) :
    ∃ a : Answers, a.Received s c flavor name ds ∧ a.Fails f := by
  have hanswer : ∀ m, ∃ r, (m ∈ ids → s.Came c flavor ds (.replicas name m)
      (listOf ReplicaData.decoder) r) ∧ (m = n → r = .error f) := by
    intro m
    by_cases hm : m = n
    · exact ⟨.error f, fun _ => hm ▸ failed, fun _ => rfl⟩
    · by_cases hlisted : m ∈ ids
      · obtain ⟨r, hr⟩ := all m hlisted
        exact ⟨r, fun _ => hr, fun h => absurd h hm⟩
      · exact ⟨.ok [], fun h => absurd h hlisted, fun h => absurd h hm⟩
  choose replicas hcame hfails using hanswer
  refine ⟨⟨.ok t, .ok ids, .ok cs, replicas⟩, ⟨topic, partitions, configs, ?_⟩,
    .replicas rfl rfl rfl listed (hfails n rfl)⟩
  rintro _ _ _ ⟨⟩ ⟨⟩ ⟨⟩ m hm
  exact hcame m hm

/-- Asking for the replicas, once everything else is there. -/
theorem partitions_described (before : Errands c flavor ds₀ s₀ s)
    (clusters : ∀ d ∈ ds₀, d.errand = .clusters) (endpoint : baseUrl c = .ok base)
    (hurl : url = (Errand.lookFor name).address base flavor id)
    (begun : InOrder (errandsAbout name []) c flavor ds s s') (knows : s'.Knows c flavor id)
    (topic : s'.Came c flavor ds (.topic name) TopicData.decoder (.ok t))
    (partitions : s'.Came c flavor ds (.partitions name) (listOf partitionId) (.ok ids))
    (configs : s'.Came c flavor ds (.configs name) (listOf ConfigData.decoder) (.ok cs)) :
    ∃ ds', Errands c flavor ds' s₀ (Services.partitions c url ids s').2 ∧
      (Services.partitions c url ids s').2.AskedOnce c flavor name ds' ∧
      Described (Services.partitions c url ids s').2 c flavor name ds'
        ((Services.partitions c url ids s').1.map (assemble t · cs)) := by
  obtain ⟨ds₂, hrest, hall, hps⟩ := partitions_came endpoint knows hurl ids
  generalize Services.partitions c url ids s' = fetched at hrest hall hps ⊢
  obtain ⟨ps?, s₂⟩ := fetched
  dsimp only at hrest hall hps ⊢
  have hearlier {α : Type} {e : Errand} {decoder : Json.Decoder α} {r : Except Failure α}
      (h : s'.Came c flavor ds e decoder r) :
      s₂.Came c flavor (ds₀ ++ (ds ++ ds₂)) e decoder r :=
    h.mono hrest.errands (by simp +contextual)
  have hreplicas {n : Int32} {r : Except Failure (List ReplicaData)}
      (h : s₂.Came c flavor ds₂ (.replicas name n) (listOf ReplicaData.decoder) r) :
      s₂.Came c flavor (ds₀ ++ (ds ++ ds₂)) (.replicas name n) (listOf ReplicaData.decoder) r :=
    h.mono (.none s₂) (by simp +contextual)
  have honce : InOrder (errandsAbout name ids) c flavor (ds ++ ds₂) s s₂ := by
    simpa [errandsAbout] using begun.trans hrest
  refine ⟨ds₀ ++ (ds ++ ds₂), before.trans honce.errands,
    honce.askedOnce before clusters (.inr (hearlier partitions)), ?_⟩
  obtain ⟨ps, rfl, hps, htells⟩ | ⟨f, n, hn, hf, rfl⟩ := hps
  · refine .assembled (hearlier topic) (hearlier partitions) (hearlier configs)
      (hps.imp fun _ _ ⟨rs, h, hp⟩ => ⟨rs, hreplicas h, hp⟩) fun d hd n hn => ?_
    rcases List.mem_append.mp hd with hd | hd
    · cases (clusters d hd).symm.trans hn
    rcases List.mem_append.mp hd with hd | hd
    · have herrand := begun.order.subset (List.mem_map_of_mem hd)
      simp [errandsAbout, hn] at herrand
    · exact htells d hd
  · have hsome : ∀ m ∈ ids, ∃ r, s₂.Came c flavor (ds₀ ++ (ds ++ ds₂)) (.replicas name m)
        (listOf ReplicaData.decoder) r := fun m hm => (hall m hm).imp fun _ => hreplicas
    obtain ⟨a, received, fails⟩ := exists_received_failed (hearlier topic) (hearlier partitions)
      (hearlier configs) hsome hn (hreplicas hf)
    exact .failed received fails

end

/-- Asking about a topic, after requests for nothing but the clusters of its proxy. -/
theorem describeAt_described (before : Errands c flavor ds₀ s₀ s)
    (clusters : ∀ d ∈ ds₀, d.errand = .clusters) (endpoint : baseUrl c = .ok base)
    (knows : s.Knows c flavor id) (hurl : url = (Errand.lookFor name).address base flavor id) :
    ∃ ds, Errands c flavor ds s₀ (describeAt c url s).2 ∧
      (describeAt c url s).2.AskedOnce c flavor name ds ∧
      Described (describeAt c url s).2 c flavor name ds (describeAt c url s).1 := by
  obtain ⟨ds₁, s₁, topic, ids, configs, begun, htopic, hids, hconfigs, heq⟩ :=
    describeAt_begun endpoint knows hurl
  rw [heq]
  have hfailed {f : Failure} (fails : Answers.Fails ⟨topic, ids, configs, fun _ => .ok []⟩ f)
      (incomplete : ∀ t is cs, topic = .ok t → ids = .ok is → configs ≠ .ok cs) :
      ∃ ds, Errands c flavor ds s₀ s₁ ∧ s₁.AskedOnce c flavor name ds ∧
        Described s₁ c flavor name ds (.error f) := by
    have hall : ∀ d ∈ ds₁, d ∈ ds₀ ++ ds₁ := fun d hd => List.mem_append_right _ hd
    refine ⟨ds₀ ++ ds₁, before.trans begun.errands, begun.askedOnce before clusters (.inl rfl),
      .failed ⟨htopic.mono (.none s₁) hall, hids.mono (.none s₁) hall,
        hconfigs.mono (.none s₁) hall, fun t is cs ht hi hc => ?_⟩ fails⟩
    exact absurd hc (incomplete t is cs ht hi)
  cases topic with
  | error f => exact hfailed (.topic rfl) nofun
  | ok t =>
    cases ids with
    | error f => exact hfailed (.partitions rfl) nofun
    | ok ids =>
      cases configs with
      | error f => exact hfailed (.configs rfl) nofun
      | ok cs =>
        exact partitions_described before clusters endpoint hurl begun (begun.knows knows) htopic
          hids hconfigs

theorem exists_of_forall₂ {α β : Type} {R : α → β → Prop} {as : List α} {bs : List β}
    (h : List.Forall₂ R as bs) : ∀ a ∈ as, ∃ b, R a b := by
  induction h with
  | nil => simp
  | cons hab _ ih => exact List.forall_mem_cons.mpr ⟨⟨_, hab⟩, ih⟩

namespace Answers.Received

variable {a' : Answers} (h : a.Received s' c flavor name ds)
  (h' : a'.Received s' c flavor name ds) (sent : Errands c flavor ds s s')
  (once : s'.AskedOnce c flavor name ds)

include h h' sent once

/-- Two ways to take what was received differ at most in the replicas of a partition that is listed
more than once. -/
theorem unique : a.topic = a'.topic ∧ a.partitions = a'.partitions ∧ a.configs = a'.configs ∧
    ∀ t ids cs, a.topic = .ok t → a.partitions = .ok ids → a.configs = .ok cs → ids.Nodup →
      ∀ id ∈ ids, a.replicas id = a'.replicas id := by
  have htopic := h.topic.unique h'.topic sent once.topic (by simp)
  have hids := h.partitions.unique h'.partitions sent once.partitions (by simp)
  have hconfigs := h.configs.unique h'.configs sent once.configs (by simp)
  refine ⟨htopic, hids, hconfigs, fun t ids cs ht hi hc nodup id hid => ?_⟩
  exact (h.replicas t ids cs ht hi hc id hid).unique
    (h'.replicas t ids cs (htopic ▸ ht) (hids ▸ hi) (hconfigs ▸ hc) id hid) sent
    (once.replicas ids (hi ▸ h.partitions) nodup id) (by simp)

/-- Where one finds all requests answered, so does the other. -/
theorem not_fails {t : TopicData} {ids : List Int32} {cs : List ConfigData}
    {replicas : Int32 → List ReplicaData} (gives : a.Gives t ids cs replicas) (nodup : ids.Nodup)
    (f : Failure) : ¬a'.Fails f := by
  obtain ⟨htopic, hids, hconfigs, hreplicas⟩ := h.unique h' sent once
  have gives' : a'.Gives t ids cs replicas := by
    refine ⟨htopic ▸ gives.topic, hids ▸ gives.partitions, hconfigs ▸ gives.configs,
      fun id hid => ?_⟩
    rw [← hreplicas t ids cs gives.topic gives.partitions gives.configs nodup id hid]
    exact gives.replicas id hid
  exact gives'.not_fails f

end Answers.Received

namespace Described

variable {r : Except Failure TopicInfo}

theorem received (h : Described s' c flavor name ds r) :
    ∃ a : Answers, a.Received s' c flavor name ds := by
  cases h with
  | failed received => exact ⟨_, received⟩
  | @assembled t ids cs ps topic partitions configs replicas =>
    have hanswer : ∀ id, ∃ rs : List ReplicaData, id ∈ ids →
        s'.Came c flavor ds (.replicas name id) (listOf ReplicaData.decoder) (.ok rs) := by
      intro id
      by_cases hid : id ∈ ids
      · obtain ⟨_, rs, hrs, -⟩ := exists_of_forall₂ replicas id hid
        exact ⟨rs, fun _ => hrs⟩
      · exact ⟨[], fun h => absurd h hid⟩
    choose given hgiven using hanswer
    refine ⟨⟨.ok t, .ok ids, .ok cs, fun id => .ok (given id)⟩, topic, partitions, configs, ?_⟩
    rintro _ _ _ ⟨⟩ ⟨⟩ ⟨⟩ id hid
    exact hgiven id hid

/-- A topic is put together only if no request failed. -/
theorem fails (h : Described s' c flavor name ds r) (sent : Errands c flavor ds s s')
    (once : s'.AskedOnce c flavor name ds) (received : a.Received s' c flavor name ds) {f : Failure}
    (failed : a.Fails f) :
    ∃ (a' : Answers) (f' : Failure), a'.Received s' c flavor name ds ∧ a'.Fails f' ∧
      r = .error f' := by
  cases h with
  | failed received' fails' => exact ⟨_, _, received', fails', rfl⟩
  | @assembled t ids cs ps topic partitions configs replicas all =>
    cases failed with
    | topic failed =>
      cases failed.symm.trans (received.topic.unique topic sent once.topic (by simp))
    | partitions failed =>
      cases failed.symm.trans (received.partitions.unique partitions sent once.partitions (by simp))
    | configs failed =>
      cases failed.symm.trans (received.configs.unique configs sent once.configs (by simp))
    | @replicas t' ids' cs' id ht hi hc listed failed =>
      have hids := received.partitions.unique partitions sent once.partitions (by simp)
      obtain rfl : ids' = ids := Except.ok.inj (hi.symm.trans hids)
      obtain ⟨_, rs, hrs, -⟩ := exists_of_forall₂ replicas id listed
      have hfailed := received.replicas t' ids' cs' ht hi hc id listed
      rw [failed] at hfailed
      cases hrs with
      | prevented _ _ _ hf => cases hf
      | told hd herrand =>
        cases hfailed with
        | told hd' herrand' heard =>
          obtain ⟨rs', hrs'⟩ := all _ hd' id herrand'
          cases hrs'.symm.trans heard
        | prevented endpoint knows prevented =>
          rw [← herrand] at prevented
          exact absurd prevented
            (sent.not_prevents hd (by simp [herrand]) endpoint knows _)

end Described

end

end Services

end ClusterAdmin
