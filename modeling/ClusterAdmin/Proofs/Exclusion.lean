import ClusterAdmin.Proofs.Undisturbed

namespace ClusterAdmin.Pool

/-- The cluster for which a call is just opening or closing a handle. -/
def Call.handling? : Call → Option ClusterKey
  | .get c (.closing _) | .get c (.connecting _ _) => some c.key
  | .evict (k :: _) (.closing _) => some k
  | .reap (.closing k _ _ _) => some k
  | _ => none

/-- A call that is to drop a slot has not ended. -/
theorem Call.not_isDone_of_drops {c : Call} {k : ClusterKey} {s : Nat} (h : c.Drops k s) :
    c.isDone = false := by
  cases c with
  | evict ks stage =>
    cases ks with
    | nil => cases stage <;> cases h
    | cons => rfl
  | get | mark | invalidateConnection | dispose | reap => cases h

/-- What at most one place of a list satisfies is counted at most once. -/
theorem countP_le_one {α : Type} {p : α → Bool} {l : List α}
    (h : ∀ (i j : Nat) (x y : α), l[i]? = some x → l[j]? = some y → p x = true → p y = true →
      i = j) :
    l.countP p ≤ 1 := by
  induction l with
  | nil => simp
  | cons a l ih =>
    have hl : l.countP p ≤ 1 := ih fun i j x y hx hy hpx hpy =>
      Nat.succ.inj (h (i + 1) (j + 1) x y hx hy hpx hpy)
    cases ha : p a with
    | false => simpa [ha] using hl
    | true =>
      have hnone : l.countP p = 0 := by
        rw [List.countP_eq_zero]
        intro x hx hpx
        obtain ⟨i, hi⟩ := List.mem_iff_getElem?.mp hx
        exact absurd (h 0 (i + 1) a x rfl hi ha hpx) (Nat.succ_ne_zero i).symm
      simp [ha, hnone]

namespace Overlap

section

variable {owner : List ClusterKey} {o o' : Overlap}

/-- A call that opens or closes a handle has locked its cluster's slot, which holds no open one. -/
theorem Fits.handling {i : Nat} {c : Call} {k : ClusterKey} (h : Fits owner o i c)
    (hk : c.handling? = some k) : ∃ s, o.Owns i k s ∧ o.Vacant s := by
  cases c with
  | get c stage =>
    cases stage with
    | closing s =>
      cases hk
      exact ⟨s, h⟩
    | connecting s t =>
      cases hk
      exact ⟨s, h.1, h.2.1⟩
    | asked | waiting | reconnecting | reading | done => cases hk
  | evict ks stage =>
    cases ks with
    | nil => cases stage <;> cases hk
    | cons k' ks =>
      cases stage with
      | next | waiting => cases hk
      | closing s =>
        cases hk
        exact ⟨s, h.1, vacant_of_none h.2⟩
  | reap stage =>
    cases stage with
    | asked | looking => cases hk
    | closing k' s left closed =>
      cases hk
      exact ⟨s, h.1.1, vacant_of_none h.1.2⟩
  | mark | invalidateConnection | dispose => cases hk

/-- Two open handles of one cluster are the same. -/
theorem Stored.unique (st : Stored owner o) {h h' : Nat} {k : ClusterKey}
    (hr : o.fleet.roll[h]? = some (k, false)) (hr' : o.fleet.roll[h']? = some (k, false)) :
    h = h' := by
  obtain ⟨s, e, hs, he, rfl⟩ := st.stored h k hr
  obtain ⟨s', e', hs', he', rfl⟩ := st.stored h' k hr'
  rw [hs] at hs'
  cases hs'
  rw [he] at he'
  cases he'
  rfl

/-- While a call opens or closes a handle of a cluster, no handle of it is open. -/
theorem Guarded.none_open (g : Guarded owner o) {i h : Nat} {c : Call} {k : ClusterKey}
    (hc : o.calls[i]? = some c) (hk : c.handling? = some k) :
    o.fleet.roll[h]? ≠ some (k, false) := by
  intro hr
  obtain ⟨s, howns, hv⟩ := (g.fits i c hc).handling hk
  obtain ⟨t, e, ht, he, hh⟩ := g.stored.stored h k hr
  rw [howns.2] at ht
  cases ht
  exact hv.ne he hr hh

/-- Nor does another call open or close one. -/
theorem Guarded.handling_unique (g : Guarded owner o) {i j : Nat} {c d : Call} {k : ClusterKey}
    (hc : o.calls[i]? = some c) (hk : c.handling? = some k) (hd : o.calls[j]? = some d)
    (hdk : d.handling? = some k) : i = j := by
  obtain ⟨s, howns, -⟩ := (g.fits i c hc).handling hk
  obtain ⟨t, howns', -⟩ := (g.fits j d hd).handling hdk
  have ht := howns'.2
  rw [howns.2] at ht
  cases ht
  exact holds_unique howns.1 howns'.1

theorem handling_of_connects {c : Call} {k : ClusterKey} (h : c.connects k = true) :
    c.handling? = some k := by
  cases c with
  | get c stage =>
    cases stage with
    | connecting s t => exact congrArg some (of_decide_eq_true h)
    | asked | waiting | reconnecting | closing | reading | done => cases h
  | mark | evict | invalidateConnection | dispose | reap => cases h

/-- A cluster has one open handle or waits for one connection, and not both. -/
theorem Guarded.open_add_connecting (g : Guarded owner o) (k : ClusterKey) :
    o.fleet.roll.countP (fun x => x.1 = k && !x.2) + o.calls.countP (Call.connects k) ≤ 1 := by
  have hopen : o.fleet.roll.countP (fun x => x.1 = k && !x.2) ≤ 1 := by
    refine countP_le_one ?_
    rintro i j ⟨k₁, b₁⟩ ⟨k₂, b₂⟩ hi hj h₁ h₂
    simp only [Bool.and_eq_true, decide_eq_true_eq, Bool.not_eq_true'] at h₁ h₂
    obtain ⟨rfl, rfl⟩ := h₁
    obtain ⟨rfl, rfl⟩ := h₂
    exact g.stored.unique hi hj
  have hwait : o.calls.countP (Call.connects k) ≤ 1 :=
    countP_le_one fun i j c d hi hj hc hd =>
      g.handling_unique hi (handling_of_connects hc) hj (handling_of_connects hd)
  rcases Nat.eq_zero_or_pos (o.calls.countP (Call.connects k)) with hzero | hpos
  · omega
  · obtain ⟨c, hc, hck⟩ := List.countP_pos_iff.mp hpos
    obtain ⟨i, hi⟩ := List.mem_iff_getElem?.mp hc
    have hnone : o.fleet.roll.countP (fun x => x.1 = k && !x.2) = 0 := by
      rw [List.countP_eq_zero]
      rintro ⟨k', b⟩ hx hb
      simp only [Bool.and_eq_true, decide_eq_true_eq, Bool.not_eq_true'] at hb
      obtain ⟨rfl, rfl⟩ := hb
      obtain ⟨h, hh⟩ := List.mem_iff_getElem?.mp hx
      exact g.none_open hi (handling_of_connects hck) hh
    omega

/-- A cluster's handles are open or closed. -/
theorem count_keys (roll : List (ClusterKey × Bool)) (k : ClusterKey) :
    (roll.map (·.1)).count k =
      roll.countP (fun x => x.1 = k && !x.2) + roll.countP (fun x => x.1 = k && x.2) := by
  induction roll with
  | nil => rfl
  | cons x roll ih =>
    rw [List.map_cons, List.count_cons, List.countP_cons, List.countP_cons, ih]
    obtain ⟨k', b⟩ := x
    by_cases hk : k' = k
    · cases b <;> simp [hk] <;> omega
    · simp [hk]

/-- No more connections are asked for than one, and one again for each that was closed or failed. -/
theorem Sound.asked_le (h : Sound o) (k : ClusterKey) : o.fleet.asked.count k ≤
    1 + o.fleet.roll.countP (fun x => x.1 = k && x.2) + o.stats.openFailures := by
  obtain ⟨owner, g⟩ := h.guarded
  have hasked := h.high k
  have hone := g.open_add_connecting k
  rw [count_keys] at hasked
  omega

/-- Once the pool is disposed and all calls have ended, nothing is open. -/
theorem Sound.none_left (h : Sound o) (disposed : o.disposed = true)
    (done : ∀ c ∈ o.calls, c.isDone = true) (n : Nat) (k : ClusterKey) :
    o.fleet.roll[n]? ≠ some (k, false) := by
  intro hr
  obtain ⟨owner, g⟩ := h.guarded
  obtain ⟨s, e, hs, he, -⟩ := g.stored.stored n k hr
  have hhot : o.Hot s := .inl (by simp [he])
  obtain ⟨i, c, hc, hdrop⟩ := h.disposed disposed k s hs hhot
  have hdone := done c (List.mem_of_getElem? hc)
  rw [Call.not_isDone_of_drops hdrop] at hdone
  cases hdone

end

/-- What calls on a pool may rely on at any point, whatever other calls do. -/
structure Exclusive (o : Overlap) : Prop where
  /-- A cluster has at most one handle that is not closed. -/
  one : ∀ (h h' : Nat) (k : ClusterKey), o.fleet.roll[h]? = some (k, false) →
    o.fleet.roll[h']? = some (k, false) → h = h'
  /-- While a call waits for a connection to be opened or closed, the cluster has no other. -/
  alone : ∀ (i : Nat) (c : Call) (k : ClusterKey), o.calls[i]? = some c → c.handling? = some k →
    (∀ h : Nat, o.fleet.roll[h]? ≠ some (k, false)) ∧
      ∀ (j : Nat) (d : Call), o.calls[j]? = some d → d.handling? = some k → i = j
  /-- A connection is asked for again only once one was closed or failed. -/
  asked : ∀ k, o.fleet.asked.count k ≤
    1 + o.fleet.roll.countP (fun x => x.1 = k && x.2) + o.stats.openFailures
  /-- A slot that no cluster has holds no handle. -/
  dropped : ∀ s, (∀ k, o.current.find? k ≠ some s) → o.content s = none
  /-- A handle that is not closed lies in the slot that its cluster has now. -/
  stored : ∀ (h : Nat) (k : ClusterKey), o.fleet.roll[h]? = some (k, false) →
    ∃ s e, o.current.find? k = some s ∧ o.content s = some e ∧ e.handle = h
  /-- Once the pool is disposed and all calls have ended, every handle is closed. -/
  disposed : o.disposed = true → (∀ c ∈ o.calls, c.isDone = true) →
    ∀ (h : Nat) (k : ClusterKey), o.fleet.roll[h]? ≠ some (k, false)

/-- Calls for handles share one connection for each cluster. -/
structure Shared (o : Overlap) : Prop where
  once : ∀ k, o.fleet.asked.count k ≤ 1
  /-- A call that has ended has the cluster's handle, unless no connection could be asked for. -/
  answered : ∀ c r, .get c (.done r) ∈ o.calls →
    (∃ h, r = .ok h ∧ o.fleet.asked.count c.key = 1) ∨ ∃ f, r = .error f ∧ Unreachable c f
  same : ∀ c c' h h', .get c (.done (.ok h)) ∈ o.calls → .get c' (.done (.ok h')) ∈ o.calls →
    c.key = c'.key → h = h'

section

variable {owner : List ClusterKey} {o : Overlap}

theorem Sound.exclusive (h : Sound o) : Exclusive o := by
  obtain ⟨owner, g⟩ := h.guarded
  refine ⟨?_, ?_, h.asked_le, ?_, g.stored.stored, h.none_left⟩
  · exact fun _ _ _ => g.stored.unique
  · intro i c k hc hk
    exact ⟨fun _ => g.none_open hc hk, fun _ _ => g.handling_unique hc hk⟩
  · intro s hs
    cases he : o.content s with
    | none => rfl
    | some e =>
      obtain ⟨k, b, hk, -⟩ := g.stored.kept s e he
      exact absurd hk (hs k)

theorem Calm.open_of_roll (h : Calm o) {n : Nat} {k : ClusterKey} {b : Bool}
    (hr : o.fleet.roll[n]? = some (k, b)) : b = false := by
  rw [Fleet.roll_getElem?] at hr
  obtain ⟨x, hx, he⟩ := Option.map_eq_some_iff.mp hr
  cases he
  exact (h.up x (List.mem_of_getElem? hx)).2

theorem Calm.asked_le_one (h : Calm o) (s : Sound o) (k : ClusterKey) :
    o.fleet.asked.count k ≤ 1 := by
  have hclosed : o.fleet.roll.countP (fun x => x.1 = k && x.2) = 0 := by
    rw [List.countP_eq_zero]
    rintro ⟨k', b⟩ hx hb
    obtain ⟨n, hn⟩ := List.mem_iff_getElem?.mp hx
    simp [h.open_of_roll hn] at hb
  have hasked := s.asked_le k
  rwa [hclosed, h.fails] at hasked

/-- A handle that was handed out has been asked for. -/
theorem Sound.asked_pos (h : Sound o) {n : Nat} {k : ClusterKey} {b : Bool}
    (hr : o.fleet.roll[n]? = some (k, b)) : 0 < o.fleet.asked.count k := by
  have hkey : k ∈ o.fleet.roll.map (·.1) := List.mem_map.mpr ⟨_, List.mem_of_getElem? hr, rfl⟩
  have hpos := List.count_pos_iff.mpr hkey
  have hlow := h.low k
  omega

/-- What a call was answered is a handle of its cluster. -/
theorem Guarded.roll_of_done (g : Guarded owner o) {c : Cluster} {h : Nat}
    (hc : .get c (.done (.ok h)) ∈ o.calls) : ∃ b, o.fleet.roll[h]? = some (c.key, b) := by
  obtain ⟨i, hi⟩ := List.mem_iff_getElem?.mp hc
  exact g.fits i _ hi

theorem Calm.shared (h : Calm o) (s : Sound o) : Shared o := by
  obtain ⟨owner, g⟩ := s.guarded
  refine ⟨h.asked_le_one s, ?_, ?_⟩
  · intro c r hc
    cases r with
    | error f => exact .inr ⟨f, rfl, h.calls _ hc⟩
    | ok n =>
      obtain ⟨b, hr⟩ := g.roll_of_done hc
      exact .inl ⟨n, rfl, Nat.le_antisymm (h.asked_le_one s _) (s.asked_pos hr)⟩
  · intro c c' n n' hc hc' hk
    obtain ⟨b, hr⟩ := g.roll_of_done hc
    obtain ⟨b', hr'⟩ := g.roll_of_done hc'
    cases h.open_of_roll hr
    cases h.open_of_roll hr'
    exact g.stored.unique hr (hk ▸ hr')

/-- In whatever order overlapping calls take their steps, no cluster has two handles and none gets
lost; and where nothing goes wrong, all calls for a cluster share one connection. -/
theorem overlapping_calls_exclusive (h : Reachable o) :
    Exclusive o ∧ (Undisturbed o → Shared o) :=
  ⟨h.sound.exclusive, fun hu => hu.calm.shared h.sound⟩

/-- Two calls for one cluster connect once, and a call that disposes of the pool closes the
handle. -/
theorem overlapping_calls_exclusive_pair :
    let c := Cluster.behind "conn" "main" "localhost:9092"
    let pool := Pool.start {} .empty .empty
    let pair : Overlap := { ofPool pool with calls := [.get c .asked, .get c .asked] }
    let served := pair.passes [0, 1] 3
    let ended := { served with calls := served.calls ++ [Call.dispose] }.run 2 turnLength
    served.calls.all Call.isDone = true ∧ served.fleet.asked.count c.key = 1 ∧
      ended.fleet.handles.length = 1 ∧
      ∀ (h : Nat) (k : ClusterKey), ended.fleet.roll[h]? ≠ some (k, false) := by
  intro c pool pair served ended
  have hpair : Undisturbed pair := ((Undisturbed.start {} .empty).begin c).begin c
  have hserved : Undisturbed served := passes_of_turn (fun i h hs => h.turn i hs) [0, 1] 3 hpair
  have hended : Reachable ended :=
    run_of_turn (fun i h hs => h.next (.turn i hs)) 2 turnLength
      (hserved.reachable.next (.begin served .dispose rfl))
  obtain ⟨-, hshared⟩ := overlapping_calls_exclusive hserved.reachable
  obtain ⟨hexclusive, -⟩ := overlapping_calls_exclusive hended
  have hasked : 0 < served.fleet.asked.count c.key := by decide
  have hdone : ended.calls.all Call.isDone = true := by decide
  refine ⟨by decide, Nat.le_antisymm ((hshared hserved).once c.key) hasked, by decide, ?_⟩
  exact hexclusive.disposed (by decide) (List.all_eq_true.mp hdone)

end

end Overlap

end ClusterAdmin.Pool
