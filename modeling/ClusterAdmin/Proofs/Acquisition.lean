import ClusterAdmin.Proofs.Remnants
import ClusterAdmin.Proofs.Renewals

namespace ClusterAdmin

/-- The handle that a request reconnects. -/
def Request.reconnected? : Request → Option Nat
  | .reconnect h => some h
  | _ => none

namespace Fleet

variable {f f' f'' : Fleet} {k : ClusterKey}

/-- The handles of all clusters but one are as they were. -/
def Spares (k : ClusterKey) (f f' : Fleet) : Prop :=
  ∀ (i : Nat) (x : Handle), x.key ≠ k → (f'.handles[i]? = some x ↔ f.handles[i]? = some x)

theorem Spares.trans (h : Spares k f f') (h' : Spares k f' f'') : Spares k f f'' :=
  fun i x hx => (h' i x hx).trans (h i x hx)

theorem spares_of_handles (h : f'.handles = f.handles) : Spares k f f' := by
  intro i x _
  rw [h]

theorem spares_modify {h : Nat} {change : Handle → Handle} {x : Handle}
    (handles : f'.handles = f.handles.modify h change) (hx : f.handles[h]? = some x)
    (before : x.key = k) (after : (change x).key = k) : Spares k f f' := by
  intro i y hy
  rw [handles, List.getElem?_modify]
  by_cases hi : h = i
  · subst hi
    rw [hx]
    constructor
    · intro heq
      simp only [↓reduceIte, Option.map_eq_map, Option.map_some, Option.some.injEq] at heq
      exact absurd (heq ▸ after) hy
    · intro heq
      exact absurd (Option.some.inj heq ▸ before) hy
  · simp [hi]

theorem spares_append {x : Handle} (handles : f'.handles = f.handles ++ [x]) (hx : x.key = k) :
    Spares k f f' := by
  intro i y hy
  rw [handles, List.getElem?_append]
  split
  · rfl
  · rename_i hlt
    rw [List.getElem?_singleton, List.getElem?_eq_none (Nat.le_of_not_lt hlt)]
    split
    · constructor
      · intro heq
        exact absurd (Option.some.inj heq ▸ hx) hy
      · nofun
    · rfl

theorem handles_of_connect_error {t : Target} {e : Failure} (h : f.connect t = (.error e, f')) :
    f'.handles = f.handles := by
  simp only [connect, accept] at h
  split at h <;> cases h
  rfl

theorem handles_of_connect_ok {t : Target} {n : Nat} (h : f.connect t = (.ok n, f')) :
    n = f.handles.length ∧ f'.handles = f.handles ++ [⟨t.key, true, false, none⟩] := by
  simp only [connect, accept] at h
  split at h <;> cases h
  · exact ⟨rfl, rfl⟩
  · exact ⟨rfl, rfl⟩

theorem handles_of_reconnect_error {n : Nat} {e : Failure} (h : f.reconnect n = (.error e, f')) :
    f'.handles = f.handles := by
  simp only [reconnect, reaccept] at h
  split at h <;> cases h
  rfl

theorem handles_of_reconnect_ok {n : Nat} (h : f.reconnect n = (.ok (), f')) :
    f'.handles = f.handles.modify n fun x => { x with connected := true } := by
  simp only [reconnect, reaccept] at h
  split at h <;> cases h
  rfl

end Fleet

namespace Pool

/-- A pool in which no call is in progress, after calls that came one after another or after
overlapping ones that have all ended. -/
inductive Settled : Pool → Prop
  | run {past : List Moment} {s : Services} (run : Run past s) : Settled s.pool
  | overlap {o : Overlap} (reached : o.Reachable) (done : ∀ c ∈ o.calls, c.isDone = true) :
    Settled o.toPool

theorem held_toPool (o : Overlap) (k : ClusterKey) :
    o.toPool.held k = (o.current.find? k).bind o.content := by
  rw [held, Overlap.toPool, Table.find?_mapValues]
  cases o.current.find? k <;> rfl

/-- What a slot holds in a pool that has settled is an open handle of its cluster. -/
theorem Settled.held_open {p : Pool} (h : p.Settled) {k : ClusterKey} {e : PooledHandle}
    (he : p.held k = some e) :
    ∃ x, p.fleet.handles[e.handle]? = some x ∧ x.key = k ∧ x.closed = false := by
  have hroll : p.fleet.roll[e.handle]? = some (k, false) := by
    cases h with
    | run run => exact run.accounted.held k e he
    | overlap reached done =>
      rw [held_toPool] at he
      obtain ⟨s, hk, hs⟩ := Option.bind_eq_some_iff.mp he
      exact reached.open_of_done done hk hs
  rw [Fleet.roll_getElem?] at hroll
  obtain ⟨x, hx, heq⟩ := Option.map_eq_some_iff.mp hroll
  obtain ⟨hkey, hclosed⟩ := Prod.mk.inj heq
  exact ⟨x, hx, hkey, hclosed⟩

/-- A call for a handle of a cluster is not turned away. -/
def Accepts (p : Pool) (c : Cluster) : Prop :=
  p.disposed = false ∧ c.connectionType ≠ .cloudManaged

theorem accepts_iff {p : Pool} {c : Cluster} : p.Accepts c ↔ p.refusal? c = none := by
  unfold Accepts PoolCore.refusal?
  cases p.disposed <;> simp

/-- A cluster's slot holds a handle that is said to be broken or does not believe itself
connected. -/
def Broken (p : Pool) (k : ClusterKey) (h : Nat) : Prop :=
  ∃ e, p.held k = some e ∧ e.handle = h ∧ (e.connected = false ∨ p.fleet.isUp h = false)

theorem broken_iff {p : Pool} {k : ClusterKey} {e : PooledHandle} (he : p.held k = some e)
    {h : Nat} : p.Broken k h ↔ e.handle = h ∧ p.isUsable e = false := by
  unfold Broken PoolCore.isUsable
  rw [he, Bool.and_eq_false_iff]
  constructor
  · rintro ⟨e', heq, rfl, hbroken⟩
    cases heq
    exact ⟨rfl, hbroken⟩
  · rintro ⟨rfl, hbroken⟩
    exact ⟨e, rfl, rfl, hbroken⟩

/-- All the ways that a call for a handle can go. -/
inductive Way (p : Pool) (c : Cluster) : Prop
  | refused {f : Failure} (refusal : p.refusal? c = some f)
    (answer : p.getHandle c = (.error f, p))
  | opened (accepted : p.Accepts c) (empty : p.held c.key = none)
    (answer : p.getHandle c = (p.setSlot c.key none).openInto c)
  | reused {e : PooledHandle} (accepted : p.Accepts c) (held : p.held c.key = some e)
    (usable : p.isUsable e = true) (answer : p.getHandle c = (.ok e.handle, p.reuse c.key e))
  | restored {e : PooledHandle} {fleet : Fleet} (accepted : p.Accepts c)
    (held : p.held c.key = some e) (unusable : p.isUsable e = false)
    (success : p.fleet.reconnect e.handle = (.ok (), fleet))
    (answer : p.getHandle c = (.ok e.handle, { p with fleet }.restore c.key e))
  | replaced {e : PooledHandle} {f : Failure} {fleet : Fleet} (accepted : p.Accepts c)
    (held : p.held c.key = some e) (unusable : p.isUsable e = false)
    (failure : p.fleet.reconnect e.handle = (.error f, fleet))
    (answer : p.getHandle c = ({ p with fleet }.discard c.key e).openInto c)

theorem getHandle_way (p : Pool) (c : Cluster) : p.Way c := by
  cases hr : p.refusal? c with
  | some f => exact .refused hr (by simp [getHandle, hr])
  | none =>
    have accepted := accepts_iff.mpr hr
    cases hh : p.held c.key with
    | none => exact .opened accepted hh (by simp [getHandle, hr, hh])
    | some e =>
      cases hu : p.isUsable e with
      | true => exact .reused accepted hh hu (by simp [getHandle, hr, hh, hu])
      | false =>
        cases hc : p.fleet.reconnect e.handle with
        | mk r fleet =>
          cases r with
          | ok => exact .restored accepted hh hu hc (by simp [getHandle, hr, hh, hu, hc])
          | error f => exact .replaced accepted hh hu hc (by simp [getHandle, hr, hh, hu, hc])

/-- A handle that was given for a cluster: it was opened for the cluster, is up and not closed, and
lies in the cluster's slot, where it counts as connected and as used at the present time. -/
structure Lent (q : Pool) (k : ClusterKey) (h : Nat) : Prop where
  slot : q.held k = some ⟨h, q.now, true⟩
  own : ∃ x, q.fleet.handles[h]? = some x ∧ x.key = k ∧ x.closed = false ∧ x.connected = true

/-- What opening a handle into a cluster's empty slot comes to. -/
structure Opens (p : Pool) (c : Cluster) (r : Except Failure Nat) (q : Pool)
    (asked : List Request) : Prop where
  log : q.fleet.log = p.fleet.log ++ asked
  asked : asked = [] ∨ ∃ t : Target, asked = [.connect t] ∧ t.key = c.key
  given : ∀ h, r = .ok h → q.Lent c.key h
  failed : ∀ f, r = .error f → q.slots = p.slots ∧ q.fleet.handles = p.fleet.handles
  slots : ∀ k, k ≠ c.key → q.slots.find? k = p.slots.find? k
  handles : p.fleet.Spares c.key q.fleet

theorem find?_setSlot_ne (p : Pool) {k k' : ClusterKey} (s : Option PooledHandle) (h : k' ≠ k) :
    (p.setSlot k s).slots.find? k' = p.slots.find? k' := by
  rw [setSlot, Table.find?_insert, if_neg h.symm]

theorem opens_openInto (p : Pool) (c : Cluster) :
    ∃ asked, Opens p c (p.openInto c).1 (p.openInto c).2 asked := by
  rcases p.openInto_cases c with ⟨f, -, he⟩ | ⟨t, f, fleet, ht, hc, he⟩ | ⟨t, n, fleet, ht, hc, he⟩
  · rw [he]
    refine ⟨[], by simp, .inl rfl, nofun, fun _ _ => ⟨rfl, rfl⟩, fun _ _ => rfl, ?_⟩
    exact Fleet.spares_of_handles rfl
  all_goals
    have hlog := p.fleet.log_connect t
    rw [hc] at hlog
    have hkey := Target.key_ofCluster ht
    rw [he]
  · have hhandles := Fleet.handles_of_connect_error hc
    exact ⟨[.connect t], hlog, .inr ⟨t, rfl, hkey⟩, nofun, fun _ _ => ⟨rfl, hhandles⟩,
      fun _ _ => rfl, Fleet.spares_of_handles hhandles⟩
  · obtain ⟨rfl, hhandles⟩ := Fleet.handles_of_connect_ok hc
    refine ⟨[.connect t], hlog, .inr ⟨t, rfl, hkey⟩, ?_, nofun,
      fun k hk => find?_setSlot_ne _ _ hk, Fleet.spares_append hhandles hkey⟩
    rintro h heq
    cases heq
    refine ⟨(held_keep ..).trans (if_pos rfl), ⟨t.key, true, false, none⟩, ?_, hkey, rfl, rfl⟩
    change fleet.handles[_]? = _
    rw [hhandles, List.getElem?_concat_length]

/-- Everything that one call for a handle comes to, and what was asked in it. -/
structure Acquires (p : Pool) (c : Cluster) (r : Except Failure Nat) (q : Pool)
    (asked : List Request) : Prop where
  log : q.fleet.log = p.fleet.log ++ asked
  /-- A handle is reconnected at most once, and just if it is the slot's and broken. -/
  reconnects_le : asked.countP (·.reconnected?.isSome) ≤ 1
  reconnects_iff : ∀ h, .reconnect h ∈ asked ↔ p.Accepts c ∧ p.Broken c.key h
  /-- A connection is opened at most once, for the cluster, and only if its slot is empty or
  reconnecting the slot's handle failed. -/
  connects_le : asked.countP (·.connected?.isSome) ≤ 1
  connects_only : ∀ t, .connect t ∈ asked → t.key = c.key ∧
    (p.held c.key = none ∨ ∃ h f, .reconnect h ∈ asked ∧ (p.fleet.reconnect h).1 = .error f)
  given : ∀ h, r = .ok h → q.Lent c.key h
  now : q.now = p.now
  /-- A call that fails without being turned away leaves the slot empty and what it held closed. -/
  failed : ∀ f, r = .error f → p.Accepts c → q.held c.key = none ∧
    ∀ e, p.held c.key = some e → ∃ x, q.fleet.handles[e.handle]? = some x ∧ x.closed = true
  rejected : ¬p.Accepts c → q = p ∧ asked = [] ∧ ∃ f, r = .error f
  slots : ∀ k, k ≠ c.key → q.slots.find? k = p.slots.find? k
  handles : p.fleet.Spares c.key q.fleet

section

variable {p q : Pool} {c : Cluster} {r : Except Failure Nat} {asked : List Request}

theorem Opens.not_reconnects (h : Opens p c r q asked) (n : Nat) : .reconnect n ∉ asked := by
  rcases h.asked with rfl | ⟨t, rfl, -⟩ <;> simp

theorem Opens.reconnects_eq (h : Opens p c r q asked) :
    asked.countP (·.reconnected?.isSome) = 0 := by
  rcases h.asked with rfl | ⟨t, rfl, -⟩ <;> rfl

theorem Opens.connects_le (h : Opens p c r q asked) :
    asked.countP (·.connected?.isSome) ≤ 1 := by
  rcases h.asked with rfl | ⟨t, rfl, -⟩
  · exact Nat.zero_le 1
  · exact Nat.le_refl 1

theorem Opens.key_of_mem (h : Opens p c r q asked) {t : Target} (ht : .connect t ∈ asked) :
    t.key = c.key := by
  rcases h.asked with rfl | ⟨t', rfl, hkey⟩
  · cases ht
  · cases List.mem_singleton.mp ht
    exact hkey

theorem Opens.held_of_failed (h : Opens p c r q asked) {f : Failure} (hr : r = .error f)
    (k : ClusterKey) : q.held k = p.held k := by
  rw [held, held, (h.failed f hr).1]

/-- Opening a handle where there was none. -/
theorem Opens.acquires (h : Opens (p.setSlot c.key none) c r q asked) (accepted : p.Accepts c)
    (empty : p.held c.key = none) (now : q.now = p.now) : Acquires p c r q asked where
  log := h.log
  reconnects_le := by
    rw [h.reconnects_eq]
    exact Nat.zero_le 1
  reconnects_iff n := by
    constructor
    · intro hn
      exact absurd hn (h.not_reconnects n)
    · rintro ⟨-, e, he, -⟩
      rw [empty] at he
      cases he
  connects_le := h.connects_le
  connects_only t ht := ⟨h.key_of_mem ht, .inl empty⟩
  given := h.given
  now := now
  failed f hf _ := by
    refine ⟨?_, ?_⟩
    · rw [h.held_of_failed hf, held_setSlot, if_pos rfl]
    · intro e he
      rw [empty] at he
      cases he
  rejected hno := absurd accepted hno
  slots k hk := (h.slots k hk).trans (find?_setSlot_ne p none hk)
  handles := h.handles

/-- Opening a handle where one could not be reconnected and was closed. -/
theorem Opens.acquires_replaced {e : PooledHandle} {x : Handle} {f : Failure} {fleet : Fleet}
    (h : Opens ({ p with fleet }.discard c.key e) c r q asked) (accepted : p.Accepts c)
    (held : p.held c.key = some e) (unusable : p.isUsable e = false)
    (failure : p.fleet.reconnect e.handle = (.error f, fleet))
    (hx : p.fleet.handles[e.handle]? = some x) (key : x.key = c.key) (now : q.now = p.now) :
    Acquires p c r q ([.reconnect e.handle, .close e.handle] ++ asked) := by
  have hsame := Fleet.handles_of_reconnect_error failure
  have hclosed : ({ p with fleet }.discard c.key e).fleet.handles =
      p.fleet.handles.modify e.handle fun x => { x with connected := false, closed := true } := by
    change fleet.handles.modify e.handle _ = _
    rw [hsame]
  have hbroken : ∀ n, p.Broken c.key n ↔ e.handle = n := by
    intro n
    rw [broken_iff held, and_iff_left unusable]
  refine ⟨?_, ?_, ?_, ?_, ?_, h.given, now, ?_, fun hno => absurd accepted hno, ?_, ?_⟩
  · have hlog := p.fleet.log_reconnect e.handle
    rw [failure] at hlog
    rw [h.log]
    change (fleet.log ++ [.close e.handle]) ++ asked = _
    rw [hlog]
    simp
  · rw [List.countP_append, h.reconnects_eq]
    exact Nat.le_refl 1
  · intro n
    rw [hbroken, and_iff_right accepted]
    constructor
    · intro hn
      rcases List.mem_append.mp hn with hn | hn
      · simpa [eq_comm] using hn
      · exact absurd hn (h.not_reconnects n)
    · rintro rfl
      exact List.mem_append_left _ List.mem_cons_self
  · rw [List.countP_append]
    exact Nat.le_trans (Nat.le_of_eq (Nat.zero_add _)) h.connects_le
  · intro t ht
    have ht : .connect t ∈ asked := by simpa using ht
    exact ⟨h.key_of_mem ht, .inr ⟨e.handle, f, by simp, by rw [failure]⟩⟩
  · intro f' hf _
    refine ⟨?_, ?_⟩
    · rw [h.held_of_failed hf, held_discard, if_pos rfl]
    · intro e' he'
      obtain rfl : e = e' := Option.some.inj (held.symm.trans he')
      refine ⟨{ x with connected := false, closed := true }, ?_, rfl⟩
      rw [(h.failed f' hf).2, hclosed, List.getElem?_modify_eq, hx]
      rfl
  · intro k hk
    exact (h.slots k hk).trans (find?_setSlot_ne _ none hk)
  · exact (Fleet.spares_modify hclosed hx key key).trans h.handles

end

/-- A call that is turned away asks for nothing and changes nothing. -/
theorem acquires_refused {p : Pool} {c : Cluster} {f : Failure} (refused : ¬p.Accepts c) :
    Acquires p c (.error f) p [] where
  log := (List.append_nil _).symm
  reconnects_le := Nat.zero_le 1
  reconnects_iff h := by
    constructor
    · nofun
    · intro ⟨accepted, _⟩
      exact absurd accepted refused
  connects_le := Nat.zero_le 1
  connects_only := nofun
  given := nofun
  now := rfl
  failed _ _ accepted := absurd accepted refused
  rejected _ := ⟨rfl, rfl, f, rfl⟩
  slots _ _ := rfl
  handles := Fleet.spares_of_handles rfl

section

variable {p : Pool} {c : Cluster} {e : PooledHandle} {x : Handle}

/-- A handle that is up is given as it is. -/
theorem acquires_reused (accepted : p.Accepts c) (held : p.held c.key = some e)
    (usable : p.isUsable e = true) (hx : p.fleet.handles[e.handle]? = some x)
    (key : x.key = c.key) (unclosed : x.closed = false) :
    Acquires p c (.ok e.handle) (p.reuse c.key e) [] where
  log := (List.append_nil _).symm
  reconnects_le := Nat.zero_le 1
  reconnects_iff h := by
    constructor
    · nofun
    · intro ⟨_, hbroken⟩
      obtain ⟨-, hunusable⟩ := (broken_iff held).mp hbroken
      rw [usable] at hunusable
      cases hunusable
  connects_le := Nat.zero_le 1
  connects_only := nofun
  given h heq := by
    cases heq
    obtain ⟨hconnected, hup⟩ : e.connected = true ∧ p.fleet.isUp e.handle = true := by
      simpa [PoolCore.isUsable] using usable
    refine ⟨?_, x, hx, key, unclosed, ?_⟩
    · rw [reuse, held_setSlot, if_pos rfl, hconnected]
      rfl
    · simpa [Fleet.isUp, hx, unclosed] using hup
  now := rfl
  failed := nofun
  rejected refused := absurd accepted refused
  slots k hk := find?_setSlot_ne _ _ hk
  handles := Fleet.spares_of_handles rfl

/-- A handle that could be reconnected is given and counts as connected. -/
theorem acquires_restored {fleet : Fleet} (accepted : p.Accepts c)
    (held : p.held c.key = some e) (unusable : p.isUsable e = false)
    (success : p.fleet.reconnect e.handle = (.ok (), fleet))
    (hx : p.fleet.handles[e.handle]? = some x) (key : x.key = c.key) (unclosed : x.closed = false) :
    Acquires p c (.ok e.handle) ({ p with fleet }.restore c.key e) [.reconnect e.handle] := by
  have hhandles := Fleet.handles_of_reconnect_ok success
  refine ⟨?_, Nat.le_refl 1, ?_, Nat.zero_le 1, ?_, ?_, rfl, nofun,
    fun refused => absurd accepted refused, fun k hk => find?_setSlot_ne _ _ hk,
    Fleet.spares_modify hhandles hx key key⟩
  · have hlog := p.fleet.log_reconnect e.handle
    rw [success] at hlog
    exact hlog
  · intro h
    rw [broken_iff held, and_iff_left unusable, and_iff_right accepted]
    simp [eq_comm]
  · intro t ht
    simp at ht
  · intro h heq
    cases heq
    refine ⟨(held_setSlot ..).trans (if_pos rfl), { x with connected := true }, ?_, key, unclosed,
      rfl⟩
    change fleet.handles[e.handle]? = _
    rw [hhandles, List.getElem?_modify_eq, hx]
    rfl

end

/-- In any pool that has settled, a call for a handle by itself reconnects a handle at most once,
just if the slot holds a broken one, and opens a connection at most once, only if the slot is empty
or that failed. What it gives is an open handle of the cluster, in the cluster's slot; if it gives
none without being turned away, the slot is empty and what it held is closed. Other slots and the
handles of other clusters stay as they are, and if it is turned away so does everything. -/
theorem handle_acquired {p : Pool} (settled : p.Settled) (c : Cluster) :
    ∃ asked, Acquires p c (p.getHandle c).1 (p.getHandle c).2 asked := by
  have hnow := p.now_getHandle c
  cases p.getHandle_way c with
  | @refused f refusal answer =>
    rw [answer]
    refine ⟨[], acquires_refused ?_⟩
    rw [accepts_iff, refusal]
    nofun
  | opened accepted empty answer =>
    obtain ⟨asked, h⟩ := opens_openInto (p.setSlot c.key none) c
    rw [← answer] at h
    exact ⟨asked, h.acquires accepted empty hnow⟩
  | @reused e accepted held usable answer =>
    obtain ⟨x, hx, hkey, hopen⟩ := settled.held_open held
    rw [answer]
    exact ⟨[], acquires_reused accepted held usable hx hkey hopen⟩
  | @restored e fleet accepted held unusable success answer =>
    obtain ⟨x, hx, hkey, hopen⟩ := settled.held_open held
    rw [answer]
    exact ⟨_, acquires_restored accepted held unusable success hx hkey hopen⟩
  | @replaced e f fleet accepted held unusable failure answer =>
    obtain ⟨x, hx, hkey, -⟩ := settled.held_open held
    obtain ⟨asked, h⟩ := opens_openInto ({ p with fleet }.discard c.key e) c
    rw [← answer] at h
    exact ⟨_, h.acquires_replaced accepted held unusable failure hx hkey hnow⟩

/-- A handle that dropped, could not be reconnected and could not be replaced either is closed, and
its slot is empty. -/
theorem handle_acquired_inVain :
    let c := Cluster.behind "conn" "main" "localhost:9092"
    let refused := Failure.transient "Connection refused"
    let s := [.getHandle c, .dropHandle 0, .setReconnectFault 0 (some refused),
      .prepare { Fleet.empty with connects := [some refused] }].foldl Services.act .idle
    let q := (s.pool.getHandle c).2
    s.pool.Broken c.key 0 ∧ q.held c.key = none ∧
      (∃ x, q.fleet.handles[0]? = some x ∧ x.closed = true) ∧
      ∃ asked, .reconnect 0 ∈ asked ∧ q.fleet.log = s.pool.fleet.log ++ asked := by
  intro c refused s q
  have settled : s.pool.Settled := .run (Run.idle.acts _)
  obtain ⟨asked, h⟩ := handle_acquired settled c
  have accepted : s.pool.Accepts c := ⟨rfl, by decide⟩
  have hheld : s.pool.held c.key = some ⟨0, 0, true⟩ := by decide
  have hbroken : s.pool.Broken c.key 0 := ⟨_, hheld, rfl, .inr (by decide)⟩
  have hfailed : (s.pool.getHandle c).1 = .error (PoolCore.openFailure c refused) := by
    rfl
  have hasked : .reconnect 0 ∈ asked := (h.reconnects_iff 0).mpr ⟨accepted, hbroken⟩
  obtain ⟨hempty, hclosed⟩ := h.failed _ hfailed accepted
  exact ⟨hbroken, hempty, hclosed _ hheld, asked, hasked, h.log⟩

end Pool

end ClusterAdmin
