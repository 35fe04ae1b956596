import ClusterAdmin.Proofs.Acquisition

namespace ClusterAdmin.Pool

/-- A handle that was handed out, and when. -/
structure Lending where
  handle : Nat
  time : Nat
  deriving DecidableEq

/-- When a handle was last handed out. -/
def lastLent (ls : List Lending) (h : Nat) : Option Nat :=
  (ls.reverse.find? (·.handle = h)).map (·.time)

/-- The lending of a handle, if one was handed out. -/
def lent (h : Option Nat) (now : Nat) : List Lending := h.toList.map (⟨·, now⟩)

theorem lastLent_lent (ls : List Lending) (h : Option Nat) (now n : Nat) :
    lastLent (ls ++ lent h now) n = if h = some n then some now else lastLent ls n := by
  cases h with
  | none => simp [lent]
  | some m => by_cases hm : m = n <;> simp [lent, lastLent, hm]

/-- Lendings up to the present, in the order of time. -/
structure Dated (ls : List Lending) (now : Nat) : Prop where
  sorted : ls.Pairwise (·.time ≤ ·.time)
  past : ∀ l ∈ ls, l.time ≤ now

/-- What the slots hold was last handed out when it was last used. -/
def Noted {κ : Type} (ls : List Lending) (slots : κ → Option PooledHandle) : Prop :=
  ∀ k e, slots k = some e → lastLent ls e.handle = some e.lastUsed

/-- The handle that is handed out, if one is, has been used now; the others in the slots were there
before and have been used no later than that. -/
def Notes {κ : Type} (given : Option Nat) (now : Nat) (slots slots' : κ → Option PooledHandle) :
    Prop :=
  ∀ k e, slots' k = some e → if given = some e.handle then e.lastUsed = now
    else ∃ e', slots k = some e' ∧ e'.handle = e.handle ∧ e'.lastUsed = e.lastUsed

section

variable {κ : Type} {ls : List Lending} {given : Option Nat} {now later : Nat}
  {slots slots' : κ → Option PooledHandle}

theorem Dated.nil (now : Nat) : Dated [] now := ⟨.nil, nofun⟩

theorem Dated.wait (h : Dated ls now) (le : now ≤ later) : Dated ls later :=
  ⟨h.sorted, fun l hl => Nat.le_trans (h.past l hl) le⟩

theorem Dated.lend (h : Dated ls now) (given : Option Nat) : Dated (ls ++ lent given now) now := by
  cases given with
  | none => simpa [lent] using h
  | some n =>
    refine ⟨?_, ?_⟩
    · rw [List.pairwise_append]
      refine ⟨h.sorted, by simp [lent], ?_⟩
      intro l hl l' hl'
      obtain rfl : l' = ⟨n, now⟩ := by simpa [lent] using hl'
      exact h.past l hl
    · intro l hl
      rcases List.mem_append.mp hl with hl | hl
      · exact h.past l hl
      · obtain rfl : l = ⟨n, now⟩ := by simpa [lent] using hl
        exact Nat.le_refl now

/-- No lending of a handle is later than the last one. -/
theorem Dated.le_lastLent (h : Dated ls now) {l : Lending} (hl : l ∈ ls) :
    ∃ t, lastLent ls l.handle = some t ∧ l.time ≤ t := by
  have hsome : (ls.reverse.find? (·.handle = l.handle)).isSome = true := by
    rw [List.find?_isSome]
    exact ⟨l, List.mem_reverse.mpr hl, by simp⟩
  obtain ⟨last, hlast⟩ := Option.isSome_iff_exists.mp hsome
  refine ⟨last.time, by rw [lastLent, hlast]; rfl, ?_⟩
  obtain ⟨-, before, after, hsplit, hnone⟩ := List.find?_eq_some_iff_append.mp hlast
  have hsorted : (before ++ last :: after).Pairwise (fun a b => b.time ≤ a.time) :=
    hsplit ▸ List.pairwise_reverse.mpr h.sorted
  have hmem : l ∈ before ++ last :: after := hsplit ▸ List.mem_reverse.mpr hl
  rcases List.mem_append.mp hmem with hbefore | hafter
  · have := hnone l hbefore
    simp at this
  · rcases List.mem_cons.mp hafter with rfl | hafter
    · exact Nat.le_refl _
    · exact (List.pairwise_cons.mp (List.pairwise_append.mp hsorted).2.1).1 l hafter

theorem Noted.step (h : Noted ls slots) (notes : Notes given now slots slots') :
    Noted (ls ++ lent given now) slots' := by
  intro k e he
  have hnotes := notes k e he
  rw [lastLent_lent]
  split at hnotes
  · rename_i hgiven
    rw [if_pos hgiven, hnotes]
  · rename_i hgiven
    obtain ⟨e', he', hhandle, hused⟩ := hnotes
    rw [if_neg hgiven, ← hhandle, h k e' he', hused]

theorem Notes.of_kept (h : ∀ k e, slots' k = some e →
    ∃ e', slots k = some e' ∧ e'.handle = e.handle ∧ e'.lastUsed = e.lastUsed) :
    Notes none now slots slots' := by
  intro k e he
  rw [if_neg nofun]
  exact h k e he

/-- Slots may be emptied. -/
theorem Notes.of_sub (h : ∀ k e, slots' k = some e → slots k = some e) :
    Notes none now slots slots' :=
  .of_kept fun k e he => ⟨e, h k e he, rfl, rfl⟩

theorem Notes.of_eq (h : ∀ k, slots' k = slots k) : Notes none now slots slots' :=
  .of_sub fun k _ he => h k ▸ he

end

theorem held_openInto_ok {p : Pool} {c : Cluster} {h : Nat} (given : (p.openInto c).1 = .ok h) :
    (p.openInto c).2.held c.key = some ⟨h, p.now, true⟩ := by
  rcases p.openInto_cases c with ⟨f, _, he⟩ | ⟨t, f, fleet, _, _, he⟩ | ⟨t, n, fleet, _, _, he⟩
  all_goals rw [he] at given ⊢; cases given
  rw [held_keep, if_pos rfl]

/-- What a call is given lies in the cluster's slot and has been used now. -/
theorem held_getHandle_ok {p : Pool} {c : Cluster} {h : Nat} (given : (p.getHandle c).1 = .ok h) :
    ∃ e, (p.getHandle c).2.held c.key = some e ∧ e.handle = h ∧ e.lastUsed = p.now := by
  rcases p.getHandle_cases c with ⟨f, he⟩ | ⟨_, he⟩ |
    ⟨e, _, he | ⟨fleet, _, he⟩ | ⟨f, fleet, _, he⟩⟩
  all_goals rw [he] at given ⊢
  · cases given
  · exact ⟨_, held_openInto_ok given, rfl, rfl⟩
  · cases given
    exact ⟨_, (held_setSlot ..).trans (if_pos rfl), rfl, rfl⟩
  · cases given
    exact ⟨_, (held_setSlot ..).trans (if_pos rfl), rfl, rfl⟩
  · exact ⟨_, held_openInto_ok given, rfl, rfl⟩

theorem notes_getHandle {p : Pool} (a : p.Accounted) (c : Cluster) :
    Notes (p.getHandle c).1.toOption p.now p.held (p.getHandle c).2.held := by
  cases hr : (p.getHandle c).1 with
  | error f =>
    refine .of_sub fun k e he => ?_
    by_cases hk : c.key = k
    · subst hk
      rcases held_getHandle_error hr with hsame | hempty
      · exact hsame ▸ he
      · rw [hempty] at he
        cases he
    · exact (p.held_getHandle_ne hk) ▸ he
  | ok h =>
    obtain ⟨given, hgiven, hhandle, hused⟩ := held_getHandle_ok hr
    intro k e he
    simp only [Except.toOption, Option.some.injEq]
    split
    · rename_i hsame
      obtain rfl := (a.getHandle c).held_unique hgiven he (hhandle.trans hsame)
      obtain rfl : given = e := Option.some.inj (hgiven.symm.trans he)
      exact hused
    · rename_i hother
      have hk : c.key ≠ k := by
        rintro rfl
        obtain rfl : given = e := Option.some.inj (hgiven.symm.trans he)
        exact hother hhandle.symm
      exact ⟨e, (p.held_getHandle_ne hk) ▸ he, rfl, rfl⟩

theorem notes_markDisconnected (p : Pool) (c : Cluster) :
    Notes none p.now p.held (p.markDisconnected c).held := by
  refine .of_kept fun k e he => ?_
  rw [held_markDisconnected] at he
  split at he
  · obtain ⟨e', he', rfl⟩ := Option.map_eq_some_iff.mp he
    exact ⟨e', he', rfl, rfl⟩
  · exact ⟨e, he, rfl, rfl⟩

theorem notes_evict (p : Pool) (k : ClusterKey) : Notes none p.now p.held (p.evict k).held := by
  refine .of_sub fun k' e he => ?_
  rw [held_evict] at he
  split at he
  · cases he
  · exact he

theorem Move.notes {n : Nat} {p q : Pool} (h : Move n p q) (a : p.Accounted) (idle : n = 0) :
    Notes none p.now p.held q.held := by
  cases h with
  | getHandle _ c =>
    have hnotes := notes_getHandle a c
    simp only [grants] at idle
    split at idle
    · cases idle
    · rename_i f hf
      rwa [hf] at hnotes
  | ask | retire | outside => exact .of_eq fun _ => rfl
  | markDisconnected _ c => exact p.notes_markDisconnected c
  | evict _ k => exact p.notes_evict k

/-- What is known of a pool and of what it has handed out. -/
structure Chronicled (ls : List Lending) (p : Pool) : Prop where
  accounted : p.Accounted
  dated : Dated ls p.now
  noted : Noted ls p.held

namespace Chronicled

variable {ls : List Lending} {p q : Pool}

theorem start (config : PoolConfig) (store : ConnectionStore) :
    Chronicled [] (Pool.start config store .empty) :=
  ⟨.start config store, .nil _, nofun⟩

theorem getHandle (h : Chronicled ls p) (c : Cluster) :
    Chronicled (ls ++ lent (p.getHandle c).1.toOption p.now) (p.getHandle c).2 where
  accounted := h.accounted.getHandle c
  dated := by
    rw [now_getHandle]
    exact h.dated.lend _
  noted := h.noted.step (notes_getHandle h.accounted c)

/-- What hands out nothing. -/
theorem idle (h : Chronicled ls p) (accounted : q.Accounted) (later : p.now ≤ q.now)
    (notes : Notes none p.now p.held q.held) : Chronicled ls q where
  accounted := accounted
  dated := h.dated.wait later
  noted := by simpa [lent] using h.noted.step notes

theorem moves {n : Nat} (h : Chronicled ls p) (moves : Moves n p q) (idle : n = 0) :
    Chronicled ls q := by
  induction moves with
  | none => exact h
  | more _ last ih =>
    have h' := ih h (by omega)
    exact h'.idle (last.accounted h'.accounted) last.now_le (last.notes h'.accounted (by omega))

end Chronicled

end Pool

/-- The handle that was handed out, if one was. -/
def Deed.lendings : Deed → List Pool.Lending
  | .asked p c => Pool.lent (p.getHandle c).1.toOption p.now
  | .broke _ _ => []

namespace Pool

theorem Trail.chronicled {ds : List Deed} {ls : List Lending} {p q : Pool} (trail : Trail ds p q)
    (h : Chronicled ls p) : Chronicled (ls ++ ds.flatMap Deed.lendings) q := by
  induction trail with
  | start => simpa using h
  | asked _ c ih => simpa [Deed.lendings] using (ih h).getHandle c
  | broke _ c ih =>
    have h' := ih h
    have hmark := h'.idle (h'.accounted.markDisconnected c)
      (Nat.le_of_eq (now_markDisconnected _ c).symm) (notes_markDisconnected _ c)
    simpa [Deed.lendings] using hmark
  | other _ rest ih => exact (ih h).moves rest rfl

/-- The handle that a call was given. -/
def Call.given? (c : Call) : Option Nat := c.result?.bind Except.toOption

namespace Overlap

section

variable {owner owner' : List ClusterKey} {o o' : Overlap} {i s : Nat} {c : Cluster}

/-- A step of a call notes what it hands out, and when. -/
structure Hands (i : Nat) (o o' : Overlap) : Prop where
  now : o'.now = o.now
  notes : Notes ((o'.calls[i]?).bind Call.given?) o.now o.content o'.content

/-- A step that hands out nothing. -/
theorem Hands.of_idle {o₁ : Overlap} {d : Call} (now : o₁.now = o.now) (given : d.given? = none)
    (notes : Notes none o.now o.content o₁.content) : Hands i o (o₁.setCall i d) where
  now := now
  notes := by
    have hnone : ((o₁.setCall i d).calls[i]?).bind Call.given? = none := by
      rw [calls_setCall, if_pos rfl]
      cases o₁.calls[i]? with
      | none => rfl
      | some _ => exact given
    rw [hnone]
    exact notes

theorem Hands.of_same {o₁ : Overlap} {d : Call} (now : o₁.now = o.now) (given : d.given? = none)
    (content : ∀ t, o₁.content t = o.content t) : Hands i o (o₁.setCall i d) :=
  .of_idle now given (.of_eq content)

theorem sub_fill_none {t : Nat} {e : PooledHandle} (h : (o.fill s none).content t = some e) :
    o.content t = some e := by
  rcases content_of_fill h with h | ⟨-, h⟩
  · exact h
  · cases h

/-- A slot is given a new state of its handle, which was not used. -/
theorem Hands.of_refill (core : PoolCore) {d : Call} {e e' : PooledHandle} (now : core.now = o.now)
    (given : d.given? = none) (hs : o.content s = some e) (handle : e'.handle = e.handle)
    (used : e'.lastUsed = e.lastUsed) :
    Hands i o (((o.setCore core).fill s (some e')).setCall i d) := by
  refine .of_idle now given (.of_kept fun t x hx => ?_)
  rcases content_of_fill hx with hold | ⟨rfl, hnew⟩
  · exact ⟨x, hold, rfl, rfl⟩
  · obtain rfl := Option.some.inj hnew
    exact ⟨e, hs, handle.symm, used.symm⟩

/-- A call ends with the handle that it has put into its slot. No other slot holds that one. -/
theorem Hands.of_lend (core : PoolCore) (e : PooledHandle) (now : core.now = o.now)
    (hc : i < o.calls.length) (hl : o.holds i s = true) (used : e.lastUsed = o.now)
    (st : Stored owner (((o.setCore core).fill s (some e)).finish i s c (.ok e.handle))) :
    Hands i o (((o.setCore core).fill s (some e)).finish i s c (.ok e.handle)) := by
  have hcontent : ∀ t, (((o.setCore core).fill s (some e)).finish i s c (.ok e.handle)).content t =
      ((o.setCore core).fill s (some e)).content t :=
    content_release _ s
  have hself := (hcontent s).trans (content_fill_self (o := o.setCore core) hl (some e))
  refine ⟨now, ?_⟩
  have hgiven : ((((o.setCore core).fill s (some e)).finish i s c (.ok e.handle)).calls[i]?).bind
      Call.given? = some e.handle := by
    rw [finish, calls_setCall, if_pos rfl]
    change ((o.calls[i]?).map fun _ => _).bind _ = _
    rw [List.getElem?_eq_getElem hc]
    rfl
  rw [hgiven]
  intro t x hx
  split
  · rename_i hsame
    obtain rfl := st.content_unique hself hx (Option.some.inj hsame)
    obtain rfl := Option.some.inj (hself.symm.trans hx)
    exact used
  · rename_i hother
    rw [hcontent] at hx
    rcases content_of_fill hx with hold | ⟨-, hnew⟩
    · exact ⟨x, hold, rfl, rfl⟩
    · obtain rfl := Option.some.inj hnew
      exact absurd rfl hother

theorem Hands.claim {o₀ : Overlap} (st : Stored owner o₀) (now : o₀.now = o.now)
    (content : ∀ t, o₀.content t = o.content t) : Hands i o (o₀.claim i c) := by
  obtain ⟨t, o₁, _, he, -, -, -, -, hcore, hcontent, -⟩ := claim_cases st i c
  rw [he]
  exact .of_same (by rw [hcore, now]) rfl fun t => (hcontent t).trans (content t)

theorem Hands.fail (core : PoolCore) {f : Failure} (now : core.now = o.now) :
    Hands i o ((o.setCore core).finish i s c (.error f)) :=
  .of_same now rfl (content_release (o.setCore core) s)

/-- A slot may be dropped and its lock given away. -/
theorem Hands.drop (core : PoolCore) {k : ClusterKey} {d : Call} (now : core.now = o.now)
    (given : d.given? = none) :
    Hands i o ((((o.setCore core).forget k s).release s).setCall i d) := by
  refine .of_same ?_ given fun t => ?_
  · change ((o.setCore core).forget k s).now = _
    rw [toPoolCore_forget]
    exact now
  · rw [content_release, content_forget]
    rfl

theorem hands_serve (st : Stored owner o) (hc : i < o.calls.length) (hl : o.holds i s = true)
    (after : Stored owner' (o.serve i s c)) : Hands i o (o.serve i s c) := by
  simp only [serve] at after ⊢
  split at after <;> rename_i hcurrent
  · rw [if_pos hcurrent]
    exact .claim (st.release s) rfl (o.content_release s)
  rw [if_neg hcurrent]
  split at after <;> rename_i hdisposed
  · rw [if_pos hdisposed]
    exact .fail o.toPoolCore rfl
  rw [if_neg hdisposed]
  split at after
  · exact .of_same rfl rfl fun _ => rfl
  · rename_i e hsome
    split at after <;> rename_i husable
    · rw [if_pos husable]
      exact .of_lend o.countReused { e with lastUsed := o.now } rfl hc hl rfl after
    · rw [if_neg husable]
      exact .of_refill { o.toPoolCore with fleet := o.fleet.record (.reconnect e.handle) }
        rfl rfl hsome rfl rfl

theorem hands_stepGet {stage : GetStage} (st : Stored owner o) (hc : i < o.calls.length)
    (fits : Fits owner o i (.get c stage)) (h : o.stepGet i c stage = some o')
    (after : Stored owner' o') : Hands i o o' := by
  cases stage with
  | asked =>
    simp only [stepGet] at h
    split at h <;> cases h
    · exact .of_same rfl rfl fun _ => rfl
    · exact .claim st rfl fun _ => rfl
  | waiting s =>
    simp only [stepGet] at h
    split at h <;> cases h
    rename_i hl
    exact hands_serve st hc hl after
  | reconnecting s =>
    simp only [stepGet] at h
    split at h
    · cases h
    rename_i e hsome
    split at h <;> cases h
    · rename_i fleet hr
      exact .of_lend { o.countReconnected with fleet }
        { e with lastUsed := o.now, connected := true } rfl hc (fits.holds rfl) rfl after
    · exact .of_same rfl rfl fun _ => rfl
  | closing s =>
    cases h
    exact .of_idle rfl rfl (.of_sub fun _ _ => sub_fill_none)
  | reading s =>
    simp only [stepGet] at h
    split at h <;> cases h
    · exact .fail o.toPoolCore rfl
    · exact .of_same rfl rfl fun _ => rfl
  | connecting s t =>
    simp only [stepGet] at h
    split at h <;> cases h
    · rename_i f fleet hr
      exact .fail { o.countOpenFailure with fleet } rfl
    · rename_i n fleet hr
      exact .of_lend { o.countOpened with fleet } ⟨n, o.now, true⟩ rfl hc (fits.holds rfl)
        rfl after
  | done => cases h

theorem hands_stepMark {stage : MarkStage} (h : o.stepMark i c stage = some o') : Hands i o o' := by
  cases stage with
  | asked =>
    simp only [stepMark] at h
    split at h <;> cases h
    · exact .of_same rfl rfl fun _ => rfl
    · exact .of_same rfl rfl (o.content_request _ i)
  | waiting s =>
    simp only [stepMark] at h
    split at h <;> cases h
    split
    · rename_i e hsome
      refine .of_idle rfl rfl (.of_kept fun t x hx => ?_)
      rw [content_release] at hx
      rcases content_of_fill hx with hold | ⟨rfl, hnew⟩
      · exact ⟨x, hold, rfl, rfl⟩
      · obtain rfl := Option.some.inj hnew
        exact ⟨e, hsome, rfl, rfl⟩
    · exact .of_same rfl rfl (o.content_release s)
  | done => cases h

theorem hands_stepEvict {ks : List ClusterKey} {stage : EvictStage}
    (h : o.stepEvict i ks stage = some o') : Hands i o o' := by
  cases ks with
  | nil => cases stage <;> cases h
  | cons k ks =>
    cases stage with
    | next =>
      simp only [stepEvict] at h
      split at h <;> cases h
      · exact .of_same rfl (by cases ks <;> rfl) fun _ => rfl
      · exact .of_same rfl rfl (o.content_request _ i)
    | waiting s =>
      simp only [stepEvict] at h
      split at h
      · split at h <;> cases h
        · exact .of_idle rfl rfl (.of_sub fun _ _ => sub_fill_none)
        · exact .drop o.toPoolCore rfl rfl
      · cases h
    | closing s =>
      cases h
      exact .drop o.countEvicted rfl rfl

theorem hands_stepReap {stage : ReapStage} (h : o.stepReap i stage = some o') : Hands i o o' := by
  cases stage with
  | asked =>
    cases h
    exact .of_same rfl rfl fun _ => rfl
  | looking left closed =>
    cases left with
    | nil => cases h
    | cons x left =>
      obtain ⟨k, s⟩ := x
      simp only [stepReap] at h
      split at h
      · cases h
        exact .of_same rfl rfl fun _ => rfl
      · split at h <;> cases h
        · rename_i e hsome
          refine .of_idle rfl rfl (.of_sub fun t x hx => ?_)
          exact (content_request _ s i t).symm.trans (sub_fill_none hx)
        · exact .of_same (by rw [toPoolCore_forget]) rfl (o.content_forget k s)
  | closing k s left closed =>
    cases h
    exact .drop o.countEvicted rfl rfl

/-- Every step of any call notes what it hands out. -/
theorem hands_step (g : Guarded owner o) (h : o.step i = some o') (after : Stored owner' o') :
    Hands i o o' := by
  cases hc : o.calls[i]? with
  | none => simp [Overlap.step, hc] at h
  | some c =>
    have fits := g.fits i c hc
    have hlt : i < o.calls.length := (List.getElem?_eq_some_iff.mp hc).1
    simp only [step, hc] at h
    cases c with
    | get c stage => exact hands_stepGet g.stored hlt fits h after
    | mark c stage => exact hands_stepMark h
    | evict ks stage => exact hands_stepEvict h
    | invalidateConnection id =>
      cases h
      exact .of_same rfl rfl fun _ => rfl
    | dispose =>
      dsimp only at h
      split at h <;> cases h
      · exact .of_same rfl rfl fun _ => rfl
      · exact .of_same rfl rfl fun _ => rfl
    | reap stage => exact hands_stepReap h

end

/-- A pool that began empty and has come so far by some order of steps, with all that it has handed
out. Time is not turned back. -/
inductive Lends : List Lending → Overlap → Prop
  | start (config : PoolConfig) (store : ConnectionStore) :
    Lends [] (ofPool (Pool.start config store .empty))
  | turn {ls : List Lending} {o o' : Overlap} (before : Lends ls o) (i : Nat)
      (step : o.step i = some o') :
    Lends (ls ++ lent ((o'.calls[i]?).bind Call.given?) o.now) o'
  | begin {ls : List Lending} {o : Overlap} (before : Lends ls o) (c : Call)
      (fresh : c.isFresh = true) : Lends ls { o with calls := o.calls ++ [c] }
  | ask {ls : List Lending} {o : Overlap} (before : Lends ls o) (fleet : Fleet)
      (alike : o.fleet.Alike fleet) : Lends ls { o with fleet }
  | outside {ls : List Lending} {o : Overlap} (before : Lends ls o) (now : Nat)
      (store : ConnectionStore) (later : o.now ≤ now) : Lends ls { o with now, store }

section

variable {ls : List Lending} {o : Overlap}

theorem Lends.reachable (h : Lends ls o) : o.Reachable := by
  induction h with
  | start config store => exact .start config store
  | turn _ i step ih => exact ih.next (.turn i step)
  | begin _ c fresh ih => exact ih.next (.begin _ c fresh)
  | ask _ fleet alike ih => exact ih.next (.ask _ fleet alike)
  | outside _ now store _ ih => exact ih.next (.outside _ now store)

theorem Lends.dated_noted (h : Lends ls o) : Dated ls o.now ∧ Noted ls o.content := by
  induction h with
  | start config store => exact ⟨.nil _, nofun⟩
  | turn before i step ih =>
    obtain ⟨owner, g⟩ := before.reachable.sound.guarded
    obtain ⟨owner', g'⟩ := (before.reachable.next (.turn i step)).sound.guarded
    have hands := hands_step g step g'.stored
    refine ⟨?_, ih.2.step hands.notes⟩
    rw [hands.now]
    exact ih.1.lend _
  | begin _ _ _ ih => exact ih
  | ask _ _ _ ih => exact ih
  | outside _ _ _ later ih => exact ⟨ih.1.wait later, ih.2⟩

end

end Overlap

/-- A pool in which no call is in progress, and all that it has handed out, in calls that came one
after another or in overlapping ones that have all ended. -/
inductive Reached : List Lending → Pool → Prop
  | trail {config : PoolConfig} {store : ConnectionStore} {ds : List Deed} {p : Pool}
    (trail : Trail ds (Pool.start config store .empty) p) : Reached (ds.flatMap Deed.lendings) p
  | overlap {ls : List Lending} {o : Overlap} (lends : o.Lends ls)
    (done : ∀ c ∈ o.calls, c.isDone = true) : Reached ls o.toPool

namespace Reached

variable {ls : List Lending} {p : Pool}

/-- The slots hold the open handles, each in the slot of its cluster. -/
theorem held_iff (h : Reached ls p) (k : ClusterKey) (n : Nat) :
    (∃ e, p.held k = some e ∧ e.handle = n) ↔ p.fleet.roll[n]? = some (k, false) := by
  cases h with
  | trail trail =>
    have a := (trail.chronicled (.start _ _)).accounted
    constructor
    · rintro ⟨e, he, rfl⟩
      exact a.held k e he
    · exact a.kept k n
  | @overlap _ o lends done =>
    have reached := lends.reachable
    obtain ⟨owner, g⟩ := reached.sound.guarded
    simp only [held_toPool, Option.bind_eq_some_iff]
    constructor
    · rintro ⟨e, ⟨s, hk, hs⟩, rfl⟩
      exact reached.open_of_done done hk hs
    · intro hr
      obtain ⟨s, e, hk, hs, he⟩ := g.stored.stored n k hr
      exact ⟨e, ⟨s, hk, hs⟩, he⟩

theorem dated (h : Reached ls p) : Dated ls p.now := by
  cases h with
  | trail trail => simpa using (trail.chronicled (.start _ _)).dated
  | overlap lends done => exact lends.dated_noted.1

theorem noted (h : Reached ls p) : Noted ls p.held := by
  cases h with
  | trail trail => simpa using (trail.chronicled (.start _ _)).noted
  | overlap lends done =>
    intro k e he
    rw [held_toPool] at he
    obtain ⟨s, -, hs⟩ := Option.bind_eq_some_iff.mp he
    exact lends.dated_noted.2 s e hs

end Reached

end Pool

/-- Whatever calls on the services come to, their pool is reached by what was asked of it. -/
theorem Flights.Run.reached {past : List Event} {t : Flights} (run : Flights.Run past t) :
    Pool.Reached ((past.flatMap Event.deeds).flatMap Deed.lendings) t.services.pool := by
  obtain ⟨config, store, trail⟩ := run.trail_start
  exact .trail trail

end ClusterAdmin
