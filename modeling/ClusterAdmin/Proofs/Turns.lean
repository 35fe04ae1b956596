import ClusterAdmin.Proofs.Custody
import ClusterAdmin.Proofs.Slots

namespace ClusterAdmin.Pool

namespace Call

/-- The slot in which a call for a handle is at work. -/
def working? : Call → Option Nat
  | .get _ (.reconnecting s) | .get _ (.closing s) | .get _ (.reading s)
  | .get _ (.connecting s _) => some s
  | _ => none

/-- Whether a call has asked for a connection to a cluster and waits for it. -/
def connects (k : ClusterKey) : Call → Bool
  | .get c (.connecting _ _) => c.key = k
  | _ => false

/-- A call will yet drop a cluster's slot. -/
def Drops (k : ClusterKey) (s : Nat) : Call → Prop
  | .evict ks .next => k ∈ ks
  | .evict (_ :: ks) (.waiting t) => t = s ∨ k ∈ ks
  | .evict (_ :: ks) (.closing _) => k ∈ ks
  | _ => False

end Call

namespace Overlap

/-- A call has locked the slot that a cluster has now. -/
def Owns (o : Overlap) (i : Nat) (k : ClusterKey) (s : Nat) : Prop :=
  o.holds i s = true ∧ o.current.find? k = some s

/-- What holds of a call at each stage. At work it has locked the slot that its cluster has now;
while it closes or opens a handle the slot holds no open one; what it will drop is a slot of the
cluster. -/
def Fits (owner : List ClusterKey) (o : Overlap) (i : Nat) : Call → Prop
  | .get c (.reconnecting s) => o.Owns i c.key s
  | .get c (.closing s) | .get c (.reading s) => o.Owns i c.key s ∧ o.Vacant s
  | .get c (.connecting s t) => o.Owns i c.key s ∧ o.Vacant s ∧ t.key = c.key
  | .get c (.done (.ok h)) => ∃ b, o.fleet.roll[h]? = some (c.key, b)
  | .evict (k :: _) (.waiting s) => owner[s]? = some k
  | .evict (k :: _) (.closing s) => o.Owns i k s ∧ o.content s = none
  | .reap (.looking left _) => ∀ x ∈ left, owner[x.2]? = some x.1
  | .reap (.closing k s left _) =>
    (o.Owns i k s ∧ o.content s = none) ∧ ∀ x ∈ left, owner[x.2]? = some x.1
  | _ => True

section

variable {owner owner' : List ClusterKey} {i j : Nat} {o o' : Overlap}

theorem Owns.frame {k : ClusterKey} {s : Nat} (h : o.Owns j k s) (r : Respects i o o')
    (hj : j ≠ i) : o'.Owns j k s :=
  ⟨r.holds j s hj h.1, r.current j s k hj h.1 h.2⟩

theorem Vacant.frame {k : ClusterKey} {s : Nat} (h : o.Vacant s) (owns : o.Owns j k s)
    (r : Respects i o o') (hj : j ≠ i) : o'.Vacant s := by
  intro e he
  rw [r.content j s hj owns.1] at he
  obtain ⟨k', hk'⟩ := h e he
  obtain ⟨b, hb, ht⟩ := r.fleet _ _ _ hk'
  exact ⟨k', ht rfl ▸ hb⟩

theorem getElem?_of_isPrefix (hp : owner <+: owner') {s : Nat} {k : ClusterKey}
    (h : owner[s]? = some k) : owner'[s]? = some k := by
  obtain ⟨more, rfl⟩ := hp
  rw [List.getElem?_append_left (List.getElem?_eq_some_iff.mp h).1]
  exact h

/-- What another call does leaves a call as it stands. -/
theorem Fits.frame {c : Call} (h : Fits owner o j c) (r : Respects i o o') (hj : j ≠ i)
    (hp : owner <+: owner') : Fits owner' o' j c := by
  cases c with
  | get c stage =>
    cases stage with
    | reconnecting s => exact Owns.frame h r hj
    | closing s => exact ⟨h.1.frame r hj, h.2.frame h.1 r hj⟩
    | reading s => exact ⟨h.1.frame r hj, h.2.frame h.1 r hj⟩
    | connecting s t => exact ⟨h.1.frame r hj, h.2.1.frame h.1 r hj, h.2.2⟩
    | done result =>
      cases result with
      | error f => trivial
      | ok n =>
        obtain ⟨b, hb⟩ := h
        obtain ⟨b', hb', -⟩ := r.fleet _ _ _ hb
        exact ⟨b', hb'⟩
    | asked | waiting s => trivial
  | evict ks stage =>
    cases ks with
    | nil => trivial
    | cons k ks =>
      cases stage with
      | next => trivial
      | waiting s => exact getElem?_of_isPrefix hp h
      | closing s => exact ⟨h.1.frame r hj, (r.content j s hj h.1.1).trans h.2⟩
  | reap stage =>
    cases stage with
    | asked => trivial
    | looking left closed => exact fun x hx => getElem?_of_isPrefix hp (h x hx)
    | closing k s left closed =>
      exact ⟨⟨h.1.1.frame r hj, (r.content j s hj h.1.1.1).trans h.1.2⟩,
        fun x hx => getElem?_of_isPrefix hp (h.2 x hx)⟩
  | mark c stage | invalidateConnection id | dispose => trivial

end

/-- Slots and calls are in order. -/
structure Guarded (owner : List ClusterKey) (o : Overlap) : Prop where
  stored : Stored owner o
  fits : ∀ (i : Nat) (c : Call), o.calls[i]? = some c → Fits owner o i c

/-- The connections asked for, the handles opened, the calls that wait for a connection and the
failed connections change together. -/
structure Balanced (c c' : Call) (o o' : Overlap) : Prop where
  low : ∀ k, o.fleet.asked.count k + (o'.fleet.roll.map (·.1)).count k + (c'.connects k).toNat ≤
    o'.fleet.asked.count k + (o.fleet.roll.map (·.1)).count k + (c.connects k).toNat
  high : ∀ k, o'.fleet.asked.count k + (o.fleet.roll.map (·.1)).count k + (c.connects k).toNat +
      o.stats.openFailures ≤
    o.fleet.asked.count k + (o'.fleet.roll.map (·.1)).count k + (c'.connects k).toNat +
      o'.stats.openFailures

/-- Once the pool is disposed, a step finds no slot another handle or call to work in, and calls
that are to drop a slot still are, or have emptied it. -/
structure Closing (i : Nat) (c c' : Call) (o o' : Overlap) : Prop where
  slots : ∀ k s, o'.current.find? k = some s → s < o.slots.length → o.current.find? k = some s
  disposed : o.disposed = true → o'.disposed = true
  begun : o.disposed = false → o'.disposed = true →
    ∀ k s, o'.current.find? k = some s → c'.Drops k s
  hot : o.disposed = true → ∀ s, o'.content s ≠ none ∨ c'.working? = some s →
    o.content s ≠ none ∨ c.working? = some s
  drops : ∀ k s, c.Drops k s → o'.current.find? k = some s →
    c'.Drops k s ∨ (o'.content s = none ∧ o.holds i s = true ∧ c'.working? = none)

/-- All that a step of a call is good for. -/
structure Advance (owner : List ClusterKey) (i : Nat) (c c' : Call) (o o' : Overlap)
    (owner' : List ClusterKey) : Prop where
  owners : owner <+: owner'
  calls : o'.calls = o.calls
  respects : Respects i o o'
  stored : Stored owner' o'
  fits : Fits owner' o' i c'
  balanced : Balanced c c' o o'
  closing : Closing i c c' o o'

/-- A step of a call comes to another stage, in order. -/
def Advances (owner : List ClusterKey) (i : Nat) (c : Call) (o o' : Overlap) : Prop :=
  ∃ c' o₁ owner', o' = o₁.setCall i c' ∧ Advance owner i c c' o o₁ owner'

section

variable {owner : List ClusterKey} {i : Nat} {c c' : Call} {o o' : Overlap}

theorem Balanced.of_same (asked : o'.fleet.asked = o.fleet.asked)
    (roll : o'.fleet.roll.map (·.1) = o.fleet.roll.map (·.1))
    (fails : o'.stats.openFailures = o.stats.openFailures)
    (connects : ∀ k, c'.connects k = c.connects k) : Balanced c c' o o' := by
  refine ⟨fun k => ?_, fun k => ?_⟩
  · exact Nat.le_of_eq (by rw [asked, roll, connects])
  · exact Nat.le_of_eq (by rw [asked, roll, fails, connects])

theorem Balanced.of_alike (alike : o.fleet.Alike o'.fleet)
    (fails : o'.stats.openFailures = o.stats.openFailures)
    (connects : ∀ k, c'.connects k = c.connects k) : Balanced c c' o o' :=
  .of_same alike.asked (by rw [alike.roll]) fails connects

/-- A step that leaves the map alone, of a call that is to drop nothing. -/
theorem Closing.of_same (current : o'.current = o.current) (disposed : o'.disposed = o.disposed)
    (drops : ∀ k s, ¬c.Drops k s)
    (hot : o.disposed = true → ∀ s, o'.content s ≠ none ∨ c'.working? = some s →
      o.content s ≠ none ∨ c.working? = some s) : Closing i c c' o o' := by
  refine ⟨?_, ?_, ?_, hot, ?_⟩
  · intro k s hs _
    exact current ▸ hs
  · exact fun h => disposed.trans h
  · intro hd hd'
    rw [disposed, hd] at hd'
    cases hd'
  · intro k s hd
    exact absurd hd (drops k s)

/-- Contents that stay as they are bring no new work. -/
theorem hot_of_content (content : ∀ s, o'.content s = o.content s)
    (working : ∀ s, c'.working? = some s → c.working? = some s) (s : Nat)
    (h : o'.content s ≠ none ∨ c'.working? = some s) :
    o.content s ≠ none ∨ c.working? = some s := by
  rcases h with h | h
  · exact .inl (content s ▸ h)
  · exact .inr (working s h)

/-- Nor does a new state of a handle that is there. -/
theorem hot_of_refill {s : Nat} {e e' : PooledHandle} (hs : o.content s = some e) {core : PoolCore}
    (content : ∀ t, o'.content t = ((o.setCore core).fill s (some e')).content t)
    (working : ∀ t, c'.working? = some t → c.working? = some t) (t : Nat)
    (h : o'.content t ≠ none ∨ c'.working? = some t) :
    o.content t ≠ none ∨ c.working? = some t := by
  rcases h with h | h
  · by_cases ht : s = t
    · subst ht
      exact .inl (by simp [hs])
    · rw [content, content_fill_ne _ ht] at h
      exact .inl h
  · exact .inr (working t h)

end

/-- Asking for the lock of a cluster's slot touches nothing but the queue, or a new slot. -/
theorem claim_cases {owner : List ClusterKey} {o : Overlap} (st : Stored owner o) (i : Nat)
    (c : Cluster) :
    ∃ s o₁ owner', o.claim i c = o₁.setCall i (.get c (.waiting s)) ∧ owner <+: owner' ∧
      o₁.calls = o.calls ∧ Respects i o o₁ ∧ Stored owner' o₁ ∧
      o₁.toPoolCore = o.toPoolCore ∧ (∀ t, o₁.content t = o.content t) ∧
      ∀ k t, o₁.current.find? k = some t → t < o.slots.length → o.current.find? k = some t := by
  cases hc : o.current.find? c.key with
  | some s =>
    exact ⟨s, o.update s (Slot.request i), owner, by simp [claim, hc], List.prefix_refl _, rfl,
      .request i o s, st.request s i, rfl, o.content_request s i, fun _ _ h _ => h⟩
  | none =>
    refine ⟨o.slots.length, _, owner ++ [c.key], by simp [claim, hc], List.prefix_append _ _, ?_,
      .fresh hc ⟨none, some i, []⟩, st.fresh hc i, rfl, ?_, ?_⟩
    · rfl
    · exact o.content_fresh i _
    · intro k t ht hlt
      change (o.current.insert c.key o.slots.length).find? k = some t at ht
      rw [Table.find?_insert] at ht
      split at ht
      · cases ht
        exact absurd hlt (Nat.lt_irrefl _)
      · exact ht

section

variable {owner : List ClusterKey} {o o' : Overlap} {i : Nat} {c : Cluster}

theorem get_drops (stage : GetStage) (k : ClusterKey) (s : Nat) :
    ¬(Call.get c stage).Drops k s := id

/-- A step of a call for a handle that leaves the map and the flag alone. -/
theorem advances_get {stage stage' : GetStage} (o₁ : Overlap) (calls : o₁.calls = o.calls)
    (respects : Respects i o o₁) (stored : Stored owner o₁)
    (fits : Fits owner o₁ i (.get c stage'))
    (balanced : Balanced (.get c stage) (.get c stage') o o₁) (current : o₁.current = o.current)
    (disposed : o₁.disposed = o.disposed)
    (hot : o.disposed = true →
      ∀ t, o₁.content t ≠ none ∨ (Call.get c stage').working? = some t →
        o.content t ≠ none ∨ (Call.get c stage).working? = some t) :
    Advances owner i (.get c stage) o (o₁.setCall i (.get c stage')) :=
  ⟨_, o₁, owner, rfl, List.prefix_refl _, calls, respects, stored, fits, balanced,
    .of_same current disposed (get_drops stage) hot⟩

/-- A call for a handle that is through gives its lock away. -/
theorem advances_finish {stage : GetStage} (o₁ : Overlap) {s : Nat} {r : Except Failure Nat}
    (hl : o₁.holds i s = true) (calls : o₁.calls = o.calls) (respects : Respects i o o₁)
    (stored : Stored owner o₁) (fits : Fits owner o₁ i (.get c (.done r)))
    (balanced : Balanced (.get c stage) (.get c (.done r)) o o₁) (current : o₁.current = o.current)
    (disposed : o₁.disposed = o.disposed)
    (hot : ∀ t, o₁.content t ≠ none → o.content t ≠ none ∨ (Call.get c stage).working? = some t) :
    Advances owner i (.get c stage) o (o₁.finish i s c r) := by
  refine advances_get (o₁.release s) calls (respects.trans (.own hl _)) (stored.release s)
    ?_ ⟨balanced.low, balanced.high⟩ current disposed ?_
  · cases r <;> exact fits
  · rintro - t (ht | ht)
    · rw [content_release] at ht
      exact hot t ht
    · cases ht

/-- A call that can give no handle ends with its slot as it was. -/
theorem advances_fail {stage : GetStage} (st : Stored owner o) {s : Nat} {f : Failure}
    (hl : o.holds i s = true) (connects : ∀ k, (Call.get c stage).connects k = false) :
    Advances owner i (.get c stage) o (o.finish i s c (.error f)) :=
  advances_finish o hl rfl (.refl i o) st trivial (.of_same rfl rfl rfl fun k => (connects k).symm)
    rfl rfl fun _ h => .inl h

/-- A call asks for the lock of its cluster's slot. -/
theorem advances_claim {stage : GetStage} {o₀ : Overlap} (st : Stored owner o₀)
    (calls : o₀.calls = o.calls) (respects : Respects i o o₀)
    (core : o₀.toPoolCore = o.toPoolCore) (content : ∀ t, o₀.content t = o.content t)
    (current : o₀.current = o.current) (size : o₀.slots.length = o.slots.length)
    (connects : ∀ k, (Call.get c stage).connects k = false) :
    Advances owner i (.get c stage) o (o₀.claim i c) := by
  obtain ⟨t, o₁, owner', he, hp, hcalls, hr, hst, hcore, hcontent, hcurrent⟩ := claim_cases st i c
  have hcore : o₁.toPoolCore = o.toPoolCore := hcore.trans core
  refine ⟨_, o₁, owner', he, hp, hcalls.trans calls, respects.trans hr, hst, trivial, ?_, ?_⟩
  · exact .of_same (by rw [hcore]) (by rw [hcore]) (by rw [hcore]) fun k => (connects k).symm
  · refine ⟨?_, ?_, ?_, ?_, fun k u hd => absurd hd (get_drops _ k u)⟩
    · intro k u hu hlt
      exact current ▸ hcurrent k u hu (size.symm ▸ hlt)
    · intro hd
      rw [hcore]
      exact hd
    · intro hd hd'
      rw [hcore, hd] at hd'
      cases hd'
    · rintro - u (hu | hu)
      · exact .inl (content u ▸ hcontent u ▸ hu)
      · cases hu

/-- A call for a handle that has the lock of its slot goes on as the slot and the pool stand. -/
theorem advances_serve (st : Stored owner o) {s : Nat} (hl : o.holds i s = true) :
    Advances owner i (.get c (.waiting s)) o (o.serve i s c) := by
  simp only [serve]
  split
  · exact advances_claim (st.release s) rfl (.own hl _) rfl (o.content_release s) rfl
      (o.length_update s _) fun _ => rfl
  · rename_i hcur
    have hcur : o.current.find? c.key = some s := by simpa using hcur
    split
    · exact advances_fail st hl fun _ => rfl
    · rename_i hdis
      split
      · rename_i hnone
        exact advances_get _ rfl (.refl i o) st ⟨⟨hl, hcur⟩, vacant_of_none hnone⟩
          (.of_same rfl rfl rfl fun _ => rfl) rfl rfl fun hd => absurd hd hdis
      · rename_i e hsome
        obtain ⟨b, hroll⟩ := st.roll_of_content hcur hsome
        split
        · exact advances_finish _ ((holds_fill ..).trans hl) rfl
            (.setCore_fill hl o.countReused (.refl _) _)
            ((st.setCore o.countReused rfl).refill hl hsome rfl) ⟨b, hroll⟩
            (.of_same rfl rfl rfl fun _ => rfl) rfl rfl
            fun t h => hot_of_refill hsome (fun _ => rfl) (fun _ h => h) t (.inl h)
        · have halike := Fleet.alike_record o.fleet (r := .reconnect e.handle) rfl rfl
          let core : PoolCore := { o.toPoolCore with fleet := o.fleet.record (.reconnect e.handle) }
          exact advances_get _ rfl (.setCore_fill hl core halike.follows _)
            ((st.setCore core halike.roll).refill hl hsome rfl) ⟨(holds_fill ..).trans hl, hcur⟩
            (.of_alike halike rfl fun _ => rfl) rfl rfl fun hd => absurd hd hdis

/-- Every step of a call for a handle. -/
theorem advances_stepGet {stage : GetStage} (st : Stored owner o)
    (fits : Fits owner o i (.get c stage)) (h : o.stepGet i c stage = some o') :
    Advances owner i (.get c stage) o o' := by
  cases stage with
  | asked =>
    simp only [stepGet] at h
    split at h <;> cases h
    · exact advances_get _ rfl (.refl i o) st trivial (.of_same rfl rfl rfl fun _ => rfl) rfl rfl
        fun _ => hot_of_content (fun _ => rfl) fun _ h => h
    · exact advances_claim st rfl (.refl i o) rfl (fun _ => rfl) rfl rfl fun _ => rfl
  | waiting s =>
    simp only [stepGet] at h
    split at h <;> cases h
    rename_i hl
    exact advances_serve st hl
  | reconnecting s =>
    obtain ⟨hl, hcur⟩ := fits
    simp only [stepGet] at h
    split at h
    · cases h
    rename_i e hsome
    obtain ⟨b, hroll⟩ := st.roll_of_content hcur hsome
    split at h <;> cases h
    · rename_i fleet hr
      have halike := Fleet.alike_reaccept hr
      let core : PoolCore := { o.countReconnected with fleet }
      exact advances_finish _ ((holds_fill ..).trans hl) rfl
        (.setCore_fill hl core halike.follows _) ((st.setCore core halike.roll).refill hl hsome rfl)
        ⟨b, halike.roll ▸ hroll⟩ (.of_alike halike rfl fun _ => rfl) rfl rfl
        fun t h => hot_of_refill hsome (fun _ => rfl) (fun _ h => h) t (.inl h)
    · rename_i f fleet hr
      have halike := Fleet.alike_reaccept hr
      let core : PoolCore := { o.toPoolCore with fleet }
      refine advances_get _ rfl
        (.setCore i o { core with fleet := fleet.close e.handle }
          (halike.follows.trans (fleet.follows_close _)))
        ((st.setCore core halike.roll).close e.handle) ⟨⟨hl, hcur⟩, ?_⟩
        (.of_same ((fleet.asked_close _).trans halike.asked)
          ((fleet.keys_close _).trans (by rw [halike.roll])) rfl fun _ => rfl) rfl rfl
        fun _ => hot_of_content (fun _ => rfl) fun _ h => h
      intro e' he'
      obtain rfl : e = e' := Option.some.inj (hsome.symm.trans he')
      exact ⟨c.key, Fleet.roll_close_self (halike.roll ▸ hroll)⟩
  | closing s =>
    obtain ⟨⟨hl, hcur⟩, hv⟩ := fits
    simp only [stepGet] at h
    cases h
    refine advances_get _ rfl (.setCore_fill hl o.countEvicted (.refl _) none)
      ((st.setCore o.countEvicted rfl).empty hl hv)
      ⟨⟨(holds_fill ..).trans hl, hcur⟩, vacant_of_none (content_fill_self hl none)⟩
      (.of_same rfl rfl rfl fun _ => rfl) rfl rfl ?_
    rintro - t (ht | ht)
    · exact (content_or_of_fill ht).imp_right (congrArg some)
    · exact .inr ht
  | reading s =>
    obtain ⟨⟨hl, hcur⟩, hv⟩ := fits
    simp only [stepGet] at h
    split at h <;> cases h
    · exact advances_fail st hl fun _ => rfl
    · rename_i t ht
      have hkey := Target.key_ofCluster ht
      let core : PoolCore := { o.toPoolCore with fleet := o.fleet.record (.connect t) }
      refine advances_get _ rfl (.setCore i o core (.refl _)) (st.setCore core rfl)
        ⟨⟨hl, hcur⟩, hv, hkey⟩ ?_ rfl rfl fun _ => hot_of_content (fun _ => rfl) fun _ h => h
      have hasked : ∀ k, (o.fleet.record (.connect t)).asked.count k =
          o.fleet.asked.count k + ((Call.get c (.connecting s t)).connects k).toNat := by
        intro k
        rw [Fleet.asked_connect, List.count_append, hkey]
        by_cases hk : c.key = k <;> simp [Call.connects, hk]
      refine ⟨fun k => ?_, fun k => ?_⟩
      · have := hasked k
        change o.fleet.asked.count k + (o.fleet.roll.map (·.1)).count k + _ ≤
          (o.fleet.record (.connect t)).asked.count k + _ + 0
        omega
      · have := hasked k
        change (o.fleet.record (.connect t)).asked.count k + _ + 0 + _ ≤
          o.fleet.asked.count k + (o.fleet.roll.map (·.1)).count k + _ + o.stats.openFailures
        omega
  | connecting s t =>
    obtain ⟨⟨hl, hcur⟩, hv, hkey⟩ := fits
    simp only [stepGet] at h
    split at h <;> cases h
    · rename_i f fleet hr
      have halike := Fleet.alike_accept hr
      let core : PoolCore := { o.countOpenFailure with fleet }
      refine advances_finish (o.setCore core) hl rfl (.setCore i o core halike.follows)
        (st.setCore core halike.roll) trivial ⟨fun k => ?_, fun k => ?_⟩ rfl rfl fun t h => .inl h
      · change o.fleet.asked.count k + (fleet.roll.map (·.1)).count k + 0 ≤
          fleet.asked.count k + (o.fleet.roll.map (·.1)).count k + _
        rw [halike.asked, halike.roll]
        omega
      · have := Bool.toNat_le ((Call.get c (.connecting s t)).connects k)
        change fleet.asked.count k + (o.fleet.roll.map (·.1)).count k + _ + o.stats.openFailures ≤
          o.fleet.asked.count k + (fleet.roll.map (·.1)).count k + 0 + (o.stats.openFailures + 1)
        rw [halike.asked, halike.roll]
        omega
    · rename_i n fleet hr
      obtain ⟨hn, hroll, hasked, -⟩ := Fleet.accept_ok hr
      let core : PoolCore := { o.countOpened with fleet }
      have hnew : fleet.roll[n]? = some (c.key, false) := by
        rw [hroll, hn, List.getElem?_concat_length, hkey]
      have hcount : ∀ k, (fleet.roll.map (·.1)).count k = (o.fleet.roll.map (·.1)).count k +
          ((Call.get c (.connecting s t)).connects k).toNat := by
        intro k
        rw [hroll, List.map_append, List.count_append, List.map_singleton, hkey]
        by_cases hk : c.key = k <;> simp [Call.connects, hk]
      refine advances_finish ((o.setCore core).fill s _) ((holds_fill ..).trans hl) rfl
        (.setCore_fill hl core (Fleet.follows_accept hr) _)
        (st.keep hl (hkey ▸ hcur) hv hr o.now true) ⟨false, hnew⟩ ⟨fun k => ?_, fun k => ?_⟩ rfl rfl
        fun u hu => (content_or_of_fill hu).imp_right (congrArg some)
      · have := hcount k
        change o.fleet.asked.count k + (fleet.roll.map (·.1)).count k + 0 ≤
          fleet.asked.count k + (o.fleet.roll.map (·.1)).count k + _
        rw [hasked]
        omega
      · have := hcount k
        change fleet.asked.count k + (o.fleet.roll.map (·.1)).count k + _ + o.stats.openFailures ≤
          o.fleet.asked.count k + (fleet.roll.map (·.1)).count k + 0 + o.stats.openFailures
        rw [hasked]
        omega
  | done r => cases h

end

end Overlap

end ClusterAdmin.Pool
