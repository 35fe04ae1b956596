import Mathlib.Data.List.Basic
import ClusterAdmin.Services.Access

namespace ClusterAdmin.Services

open Acl

/-- The same services with other counts of look-ups and queries. -/
def recount (s : Services) (stats : AccessStats) : Services :=
  { s with access := { s.access with stats } }

@[simp] theorem pool_recount (s : Services) (n : AccessStats) : (s.recount n).pool = s.pool := rfl

@[simp] theorem entries_recount (s : Services) (n : AccessStats) :
    (s.recount n).access.entries = s.access.entries := rfl

@[simp] theorem recount_recount (s : Services) (n m : AccessStats) :
    (s.recount n).recount m = s.recount m := rfl

/-- The remembered answer about a topic of a cluster, if there is one that is young enough. -/
def recalled (s : Services) (c : Cluster) (topic : String) : Option TopicAccess :=
  s.access.fresh? s.now ⟨c.key, topic⟩

@[simp] theorem recalled_recount (s : Services) (n : AccessStats) (c : Cluster) (topic : String) :
    (s.recount n).recalled c topic = s.recalled c topic := rfl

/-- What is recalled is in memory and young enough. -/
theorem recalled_eq_some {s : Services} {c : Cluster} {topic : String} {a : TopicAccess} :
    s.recalled c topic = some a ↔
      ∃ e, s.access.entries.find? ⟨c.key, topic⟩ = some e ∧ e.access = a ∧
        s.now - e.storedAt < s.access.ttlMs := by
  rw [recalled, AccessCache.fresh?]
  cases s.access.entries.find? ⟨c.key, topic⟩ <;> simp [and_comm]

/-- The counts after a look-up that found something or did not. -/
def countLookup (s : Services) (found : Bool) : AccessStats :=
  if found then { s.access.stats with hits := s.access.stats.hits + 1 }
  else { s.access.stats with misses := s.access.stats.misses + 1 }

theorem lookUp_eq (s : Services) (c : Cluster) (topic : String) :
    s.lookUp ⟨c.key, topic⟩ =
      (s.recalled c topic, s.recount (s.countLookup (s.recalled c topic).isSome)) := by
  simp only [lookUp, AccessCache.lookup, recalled]
  cases s.access.fresh? s.now ⟨c.key, topic⟩ <;> rfl

/-- The topics of a list that were not seen before, each once, in the order of their first
mention. -/
def unseen (found : List (String × TopicAccess)) (missing topics : List String) : List String :=
  (topics.filter fun t => !((found.map (·.1)).contains t || missing.contains t)).eraseDups

theorem unseen_skip {found : List (String × TopicAccess)} {missing : List String} {t : String}
    (h : ((found.map (·.1)).contains t || missing.contains t) = true) (ts : List String) :
    unseen found missing (t :: ts) = unseen found missing ts := by
  simp only [unseen, List.filter_cons, h, Bool.not_true, Bool.false_eq_true, ↓reduceIte]

theorem unseen_found {found : List (String × TopicAccess)} {missing : List String} {t : String}
    (h : ((found.map (·.1)).contains t || missing.contains t) = false) (a : TopicAccess)
    (ts : List String) :
    unseen found missing (t :: ts) = t :: unseen (found ++ [(t, a)]) missing ts := by
  simp only [unseen, List.filter_cons, h, Bool.not_false, ↓reduceIte, List.eraseDups_cons,
    List.filter_filter]
  congr 3
  funext x
  rw [Bool.eq_iff_iff]
  by_cases hx : x = t
  · simp [hx]
  · simp [hx]

theorem unseen_missing {found : List (String × TopicAccess)} {missing : List String} {t : String}
    (h : ((found.map (·.1)).contains t || missing.contains t) = false) (ts : List String) :
    unseen found missing (t :: ts) = t :: unseen found (missing ++ [t]) ts := by
  simp only [unseen, List.filter_cons, h, Bool.not_false, ↓reduceIte, List.eraseDups_cons,
    List.filter_filter]
  congr 3
  funext x
  by_cases hx : x = t
  · simp [hx]
  · simp [hx, beq_false_of_ne hx]

/-- The topics among some that are remembered, with their answers. -/
def known (s : Services) (c : Cluster) (topics : List String) : List (String × TopicAccess) :=
  topics.filterMap fun t => (s.recalled c t).map (t, ·)

/-- The topics among some that must be asked about. -/
def unknown (s : Services) (c : Cluster) (topics : List String) : List String :=
  topics.filter fun t => (s.recalled c t).isNone

theorem known_congr {s s' : Services} {c : Cluster} {ts : List String}
    (h : ∀ t ∈ ts, s'.recalled c t = s.recalled c t) : s'.known c ts = s.known c ts :=
  List.filterMap_congr fun t ht => by rw [h t ht]

theorem unknown_congr {s s' : Services} {c : Cluster} {ts : List String}
    (h : ∀ t ∈ ts, s'.recalled c t = s.recalled c t) : s'.unknown c ts = s.unknown c ts :=
  List.filter_congr fun t ht => by rw [h t ht]

/-- The counts after look-ups of which some found something and others did not. -/
def tally (s : Services) (found missing : Nat) : AccessStats :=
  { s.access.stats with
    hits := s.access.stats.hits + found
    misses := s.access.stats.misses + missing }

theorem tally_found (s : Services) (k u : Nat) :
    (s.recount (s.countLookup true)).tally k u = s.tally (k + 1) u := by
  simp [tally, countLookup, recount, Nat.add_comm, Nat.add_left_comm]

theorem tally_missing (s : Services) (k u : Nat) :
    (s.recount (s.countLookup false)).tally k u = s.tally k (u + 1) := by
  simp [tally, countLookup, recount, Nat.add_comm, Nat.add_left_comm]

/-- Looking topics up sorts the new ones among them into known and unknown. -/
theorem lookUpEach_eq (c : Cluster) (topics : List String) :
    ∀ (found : List (String × TopicAccess)) (missing : List String) (s : Services),
      lookUpEach c topics found missing s =
        (found ++ s.known c (unseen found missing topics),
          missing ++ s.unknown c (unseen found missing topics),
          s.recount (s.tally (s.known c (unseen found missing topics)).length
            (s.unknown c (unseen found missing topics)).length)) := by
  induction topics with
  | nil =>
    intro found missing s
    simp [lookUpEach, unseen, known, unknown, recount, tally]
  | cons t ts ih =>
    intro found missing s
    cases hseen : (found.map (·.1)).contains t || missing.contains t with
    | true => rw [lookUpEach, if_pos hseen, ih found missing s, unseen_skip hseen]
    | false =>
      rw [lookUpEach, if_neg (hseen ▸ Bool.false_ne_true), lookUp_eq]
      cases hr : s.recalled c t with
      | some a =>
        have hn := ih (found ++ [(t, a)]) missing (s.recount (s.countLookup true))
        rw [tally_found] at hn
        rw [unseen_found hseen a]
        simpa [known, unknown, hr] using hn
      | none =>
        have hn := ih found (missing ++ [t]) (s.recount (s.countLookup false))
        rw [tally_missing] at hn
        rw [unseen_missing hseen]
        simpa [known, unknown, hr] using hn

/-- The topics of a batch, each once. -/
theorem unseen_nil (topics : List String) : unseen [] [] topics = topics.eraseDups := by
  rw [unseen, List.filter_eq_self.mpr (by simp)]

/-- A batch is a look-up of each topic, then a query for each unknown one, and then storing. -/
theorem topicAccesses_tally (s : Services) (c : Cluster) (topics : List String)
    (credential : Credential) :
    s.topicAccesses c topics credential =
      let unknown := s.unknown c topics.eraseDups
      let known := s.known c topics.eraseDups
      let counted := s.recount (s.tally known.length unknown.length)
      if unknown.isEmpty then (.ok known, counted)
      else
        match Principal.ofCredential credential with
        | .underivable why =>
          (.ok (known ++ unknown.map (·, TopicAccess.unavailable why)), counted)
        | .user principal =>
          let asked := queryEach c principal unknown counted
          match settle c asked.1 asked.2 with
          | (.ok more, s) => (.ok (known ++ more), s)
          | (.error f, s) => (.error f, s) := by
  have hn := lookUpEach_eq c topics [] [] s
  rw [unseen_nil, List.nil_append, List.nil_append] at hn
  unfold topicAccesses
  split
  rename_i h
  cases hn.symm.trans h
  rfl

/-- The same, where what was counted does not matter. -/
theorem topicAccesses_eq (s : Services) (c : Cluster) (topics : List String)
    (credential : Credential) :
    ∃ n, s.topicAccesses c topics credential =
      let unknown := s.unknown c topics.eraseDups
      let known := s.known c topics.eraseDups
      if unknown.isEmpty then (.ok known, s.recount n)
      else
        match Principal.ofCredential credential with
        | .underivable why =>
          (.ok (known ++ unknown.map (·, TopicAccess.unavailable why)), s.recount n)
        | .user principal =>
          let asked := queryEach c principal unknown (s.recount n)
          match settle c asked.1 asked.2 with
          | (.ok more, s) => (.ok (known ++ more), s)
          | (.error f, s) => (.error f, s) :=
  ⟨_, s.topicAccesses_tally c topics credential⟩

/-- A single call is a look-up, and a query if nothing was found. -/
theorem topicAccess_eq (s : Services) (c : Cluster) (topic : String) (credential : Credential) :
    s.topicAccess c topic credential =
      match s.recalled c topic with
      | some a => (.ok a, s.recount (s.countLookup true))
      | none =>
        match Principal.ofCredential credential with
        | .underivable why => (.ok (TopicAccess.unavailable why), s.recount (s.countLookup false))
        | .user principal =>
          match (s.recount (s.countLookup false)).query c principal topic with
          | (.ok e, s) => (.ok e.access, s.remember ⟨c.key, topic⟩ e)
          | (.error f, s) => (.error f, s) := by
  rw [topicAccess, lookUp_eq]
  cases s.recalled c topic <;> rfl

end ClusterAdmin.Services
