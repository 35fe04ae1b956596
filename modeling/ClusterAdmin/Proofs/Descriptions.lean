import ClusterAdmin.Proofs.Answers
import ClusterAdmin.Proofs.Runs

namespace ClusterAdmin.Services

/-- A broker's reply to the request about a topic, on the handle that is given for the cluster. -/
def Replies (s : Services) (c : Cluster) (name : String) (m : ClusterMetadata) : Prop :=
  ∃ h p fleet, s.pool.getHandle c = (.ok h, p) ∧ p.fleet.metadata h (some [name]) = (.ok m, fleet)

/-- The entry of a topic in a reply. -/
def entry? (m : ClusterMetadata) (name : String) : Option TopicMetadata :=
  m.topics.find? (·.name = name)

/-- A reply tells of no partitions of a topic. -/
def Absent (m : ClusterMetadata) (name : String) : Prop :=
  ∀ t, entry? m name = some t → t.partitions = []

section

variable {s : Services} {c : Cluster} {name : String} {m : ClusterMetadata} {t : TopicMetadata}
  {f : Failure}

theorem findTopic_absent (absent : Absent m name) :
    findTopic name m = .error (topicMissing name) := by
  simp only [findTopic]
  cases hentry : m.topics.find? (·.name = name) with
  | none => rfl
  | some t => simp [absent t hentry]

theorem findTopic_refused (entry : entry? m name = some t) (listed : t.partitions ≠ [])
    (refused : Failure.ofBroker? t.errorCode none = some f) :
    findTopic name m = .error (f.inContext "describe topic" name) := by
  have hentry : m.topics.find? (·.name = name) = some t := entry
  simp [findTopic, hentry, listed, refused]

theorem findTopic_fine (entry : entry? m name = some t) (listed : t.partitions ≠ [])
    (fine : Failure.ofBroker? t.errorCode none = none) :
    findTopic name m = .ok (TopicInfo.ofMetadata t) := by
  have hentry : m.topics.find? (·.name = name) = some t := entry
  simp [findTopic, hentry, listed, fine]

theorem nativeDescribe_of_reply (reply : s.Replies c name m) :
    (s.nativeDescribe c name).1 = findTopic name m := by
  obtain ⟨h, p, fleet, hget, hreply⟩ := reply
  simp only [nativeDescribe, onHandle, hget, hreply]

theorem nativeExists_of_ok {i : TopicInfo} (h : (s.nativeDescribe c name).1 = .ok i) :
    (s.nativeExists c name).1 = .ok true := by
  rw [nativeExists]
  cases hd : s.nativeDescribe c name with
  | mk r s' =>
    rw [hd] at h
    cases h
    rfl

theorem nativeExists_of_error (h : (s.nativeDescribe c name).1 = .error f) :
    (s.nativeExists c name).1 = if f.category = .notFound then .ok false else .error f := by
  rw [nativeExists]
  cases hd : s.nativeDescribe c name with
  | mk r s' =>
    rw [hd] at h
    cases h
    by_cases hf : f.category = .notFound <;> simp [Failure.isNotFound, hf]

/-- What describing a topic and asking whether it is there come to, by the broker's reply. -/
structure Describes (m : ClusterMetadata) (name : String) (described : Except Failure TopicInfo)
    (found : Except Failure Bool) : Prop where
  refused : ∀ t, entry? m name = some t → t.partitions ≠ [] → t.errorCode ≠ 0 →
    ∃ f g, Failure.ofBroker? t.errorCode none = some f ∧ described = .error g ∧
      g.category = f.category ∧
      found = if f.category = .notFound then .ok false else .error g
  absent : Absent m name →
    ∃ g, described = .error g ∧ g.category = .notFound ∧ found = .ok false
  fine : ∀ t, entry? m name = some t → t.partitions ≠ [] → t.errorCode = 0 →
    described = .ok (TopicInfo.ofMetadata t) ∧ found = .ok true
  /-- Nothing else makes a topic one that is not there. -/
  gone_iff : found = .ok false ↔ Absent m name ∨ ∃ t f, entry? m name = some t ∧
    Failure.ofBroker? t.errorCode none = some f ∧ f.category = .notFound

theorem describes_absent (absent : Absent m name) :
    Describes m name (.error (topicMissing name)) (.ok false) where
  refused t entry listed _ := absurd (absent t entry) listed
  absent _ := ⟨_, rfl, rfl, rfl⟩
  fine t entry listed _ := absurd (absent t entry) listed
  gone_iff := ⟨fun _ => .inl absent, fun _ => rfl⟩

/-- No other entry counts. -/
theorem entry?_unique (entry : entry? m name = some t) {t' : TopicMetadata}
    (entry' : entry? m name = some t') : t' = t :=
  Option.some.inj (entry'.symm.trans entry)

theorem describes_fine (entry : entry? m name = some t) (listed : t.partitions ≠ [])
    (fine : Failure.ofBroker? t.errorCode none = none) :
    Describes m name (.ok (TopicInfo.ofMetadata t)) (.ok true) := by
  refine ⟨?_, fun absent => absurd (absent t entry) listed, ?_, nofun, ?_⟩
  · rintro t' entry' - wrong
    obtain rfl := entry?_unique entry entry'
    exact absurd ((Acl.ofBroker?_eq_none_iff _ none).mp fine) wrong
  · rintro t' entry' - -
    obtain rfl := entry?_unique entry entry'
    exact ⟨rfl, rfl⟩
  · rintro (absent | ⟨t', f, entry', hf, -⟩)
    · exact absurd (absent t entry) listed
    · obtain rfl := entry?_unique entry entry'
      rw [fine] at hf
      cases hf

theorem describes_refused (entry : entry? m name = some t) (listed : t.partitions ≠ [])
    (refused : Failure.ofBroker? t.errorCode none = some f) (context : Failure)
    (same : context.category = f.category) :
    Describes m name (.error context)
      (if f.category = .notFound then .ok false else .error context) := by
  refine ⟨?_, fun absent => absurd (absent t entry) listed, ?_, ?_, ?_⟩
  · rintro t' entry' - -
    obtain rfl := entry?_unique entry entry'
    exact ⟨f, context, refused, rfl, same, rfl⟩
  · rintro t' entry' - fine
    obtain rfl := entry?_unique entry entry'
    rw [(Acl.ofBroker?_eq_none_iff _ none).mpr fine] at refused
    cases refused
  · intro gone
    split at gone
    · rename_i hcategory
      exact .inr ⟨t, f, entry, refused, hcategory⟩
    · cases gone
  · rintro (absent | ⟨t', f', entry', hf', hcategory⟩)
    · exact absurd (absent t entry) listed
    · obtain rfl := entry?_unique entry entry'
      obtain rfl : f = f' := Option.some.inj (refused.symm.trans hf')
      rw [if_pos hcategory]

/-- The first entry of the topic's name decides. If it has partitions, a code makes describing the
topic fail in the code's category, and without one the topic is described; if it has none, or if
there is no such entry, the topic is said not to be there. No code is taken for that but those of
the same category. -/
theorem topic_described (reply : s.Replies c name m) :
    Describes m name (s.nativeDescribe c name).1 (s.nativeExists c name).1 := by
  have hdescribe := nativeDescribe_of_reply reply
  by_cases habsent : Absent m name
  · have herror := hdescribe.trans (findTopic_absent habsent)
    have hfound : (s.nativeExists c name).1 = .ok false := nativeExists_of_error herror
    rw [herror, hfound]
    exact describes_absent habsent
  · obtain ⟨t, entry, listed⟩ : ∃ t, entry? m name = some t ∧ t.partitions ≠ [] := by
      simpa [Absent] using habsent
    cases hf : Failure.ofBroker? t.errorCode none with
    | none =>
      have hok := hdescribe.trans (findTopic_fine entry listed hf)
      rw [hok, nativeExists_of_ok hok]
      exact describes_fine entry listed hf
    | some f =>
      have herror := hdescribe.trans (findTopic_refused entry listed hf)
      rw [herror, nativeExists_of_error herror]
      exact describes_refused entry listed hf _ rfl

end

/-- Services whose next request for metadata is answered with one topic. -/
def replying (t : TopicMetadata) : Services :=
  Services.idle.act (.prepare { Fleet.empty with metadatas := [.ok ⟨none, 0, [], [t]⟩] })

theorem replies_replying (t : TopicMetadata) :
    (replying t).Replies (.behind "conn" "main" "localhost:9092") "orders" ⟨none, 0, [], [t]⟩ :=
  ⟨0, _, _, rfl, rfl⟩

/-- A topic without a leader is not one that is not there. -/
theorem topic_described_leaderless :
    let c := Cluster.behind "conn" "main" "localhost:9092"
    let t : TopicMetadata := ⟨"orders", 5, false, [⟨0, 5, -1, [1], [], []⟩]⟩
    let s := replying t
    ∃ g, (s.nativeDescribe c "orders").1 = .error g ∧ g.category = .transient ∧
      (s.nativeExists c "orders").1 = .error g := by
  intro c t s
  obtain ⟨f, g, hf, hdescribed, hcategory, hfound⟩ :=
    (topic_described (replies_replying t)).refused t (by decide) (by decide) (by decide)
  have htransient : f.category = .transient := by
    rw [← Option.some.inj hf]
    decide
  refine ⟨g, hdescribed, hcategory.trans htransient, ?_⟩
  rw [hfound, if_neg (by rw [htransient]; decide)]

/-- A topic that the asker may not see is said not to be there if the broker tells no partitions. -/
theorem refused_absent :
    let c := Cluster.behind "conn" "main" "localhost:9092"
    let t : TopicMetadata := ⟨"orders", 29, false, []⟩
    let s := replying t
    s.Replies c "orders" ⟨none, 0, [], [t]⟩ ∧ entry? ⟨none, 0, [], [t]⟩ "orders" = some t ∧
      (Failure.ofBroker? t.errorCode none).map (·.category) = some .auth ∧
      (s.nativeDescribe c "orders").1 = .error (topicMissing "orders") ∧
      (s.nativeExists c "orders").1 = .ok false := by
  intro c t s
  exact ⟨replies_replying t, by decide, by decide, by decide, by decide⟩

end ClusterAdmin.Services
