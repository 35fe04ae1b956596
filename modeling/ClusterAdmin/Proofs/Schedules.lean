import ClusterAdmin.Proofs.Evictions

namespace ClusterAdmin.Pool

/-- A call that has not taken a step. -/
def Call.isFresh : Call → Bool
  | .get _ .asked | .mark _ .asked | .evict [_] .next | .invalidateConnection _ | .dispose
  | .reap .asked => true
  | _ => false

namespace Overlap

/-- One step of a call, the beginning of a call, or a change around the pool. -/
inductive Next : Overlap → Overlap → Prop
  | turn {o o' : Overlap} (i : Nat) (step : o.step i = some o') : Next o o'
  | begin (o : Overlap) (c : Call) (fresh : c.isFresh = true) :
    Next o { o with calls := o.calls ++ [c] }
  /-- A request on a handle, or a change in how brokers and connections behave. -/
  | ask (o : Overlap) (fleet : Fleet) (alike : o.fleet.Alike fleet) : Next o { o with fleet }
  /-- Time passes, or stored connections change. -/
  | outside (o : Overlap) (now : Nat) (store : ConnectionStore) : Next o { o with now, store }

/-- A pool that began empty and has come so far by some order of steps. -/
inductive Reachable : Overlap → Prop
  | start (config : PoolConfig) (store : ConnectionStore) :
    Reachable (ofPool (Pool.start config store .empty))
  | next {o o' : Overlap} (before : Reachable o) (step : Next o o') : Reachable o'

section

variable {P : Overlap → Prop} (turn : ∀ {o o' : Overlap} (i : Nat), P o → o.step i = some o' → P o')

include turn

/-- What every step of a call keeps, some steps of one call keep. -/
theorem run_of_turn {o : Overlap} (i n : Nat) (h : P o) : P (o.run i n) := by
  induction n generalizing o with
  | zero => exact h
  | succ n ih =>
    rw [run]
    split
    · exact h
    · rename_i o' hstep
      have h' : P o' := turn i h hstep
      split
      · exact h'
      · exact ih h'

theorem pass_of_turn {o : Overlap} (calls : List Nat) (h : P o) : P (o.pass calls) := by
  induction calls generalizing o with
  | nil => exact h
  | cons i calls ih => exact ih (run_of_turn turn i turnLength h)

/-- And calls that take turns keep it. -/
theorem passes_of_turn {o : Overlap} (calls : List Nat) (n : Nat) (h : P o) :
    P (o.passes calls n) := by
  induction n generalizing o with
  | zero => exact h
  | succ n ih =>
    rw [passes]
    split
    · exact h
    · exact ih (pass_of_turn turn calls h)

end

section

variable {owner : List ClusterKey} {o o' : Overlap}

theorem calls_setCall (o : Overlap) (i j : Nat) (c : Call) :
    (o.setCall i c).calls[j]? = if i = j then (o.calls[i]?).map fun _ => c else o.calls[j]? := by
  simp only [setCall, List.getElem?_set]
  by_cases h : i = j
  · subst h
    simp only [↓reduceIte]
    split
    · rename_i hlt
      simp [List.getElem?_eq_getElem hlt]
    · rename_i hlt
      simp [List.getElem?_eq_none (Nat.le_of_not_lt hlt)]
  · simp [h]

/-- A step of one call leaves all others in order. -/
theorem Guarded.advance {i : Nat} {c c' : Call} {owner' : List ClusterKey} (g : Guarded owner o)
    (a : Advance owner i c c' o o' owner') : Guarded owner' (o'.setCall i c') := by
  have respects : Respects i o (o'.setCall i c') :=
    ⟨a.respects.holds, a.respects.content, a.respects.current, a.respects.fleet⟩
  refine ⟨a.stored.congr rfl (fun _ => rfl) rfl rfl, ?_⟩
  intro j d hd
  rw [calls_setCall, a.calls] at hd
  by_cases hj : i = j
  · subst hj
    rw [if_pos rfl] at hd
    obtain ⟨_, _, rfl⟩ := Option.map_eq_some_iff.mp hd
    exact a.fits
  · rw [if_neg hj] at hd
    exact (g.fits j d hd).frame respects (fun he => hj he.symm) a.owners

/-- Changes of the fleet that open and close nothing, of the clock and of the store leave slots and
calls in order. -/
theorem Guarded.setCore (g : Guarded owner o) (core : PoolCore)
    (alike : o.fleet.Alike core.fleet) : Guarded owner (o.setCore core) := by
  refine ⟨g.stored.setCore core alike.roll, ?_⟩
  intro i c hc
  exact (g.fits i c hc).frame (.setCore (i + 1) o core alike.follows)
    (Nat.ne_of_lt (Nat.lt_succ_self i)) (List.prefix_refl _)

theorem Guarded.begin (g : Guarded owner o) {c : Call} (fresh : c.isFresh = true) :
    Guarded owner { o with calls := o.calls ++ [c] } := by
  refine ⟨g.stored.congr rfl (fun _ => rfl) rfl rfl, ?_⟩
  intro i d hd
  change (o.calls ++ [c])[i]? = some d at hd
  rw [List.getElem?_append] at hd
  split at hd
  · exact (g.fits i d hd).frame (i := i + 1) ⟨fun _ _ _ h => h, fun _ _ _ _ => rfl,
      fun _ _ _ _ _ h => h, .refl _⟩ (Nat.ne_of_lt (Nat.lt_succ_self i)) (List.prefix_refl _)
  · rw [List.getElem?_singleton] at hd
    split at hd <;> cases hd
    cases c with
    | get _ stage =>
      cases stage with
      | asked => trivial
      | waiting | reconnecting | closing | reading | connecting | done => cases fresh
    | evict ks stage =>
      cases stage with
      | next => cases ks <;> trivial
      | waiting | closing => cases ks <;> simp [Call.isFresh] at fresh
    | reap stage =>
      cases stage with
      | asked => trivial
      | looking | closing => cases fresh
    | mark | invalidateConnection | dispose => trivial

/-- A slot holds a handle, or a call is about to put one there. -/
def Hot (o : Overlap) (s : Nat) : Prop :=
  o.content s ≠ none ∨ ∃ (i : Nat) (c : Call), o.calls[i]? = some c ∧ c.working? = some s

/-- What holds of a pool after any steps in any order. Slots and calls are in order; the connections
asked for are those that have come about, those that calls wait for, and some that failed; and once
the pool is disposed every slot with a handle will yet be dropped. -/
structure Sound (o : Overlap) : Prop where
  guarded : ∃ owner, Guarded owner o
  low : ∀ k, (o.fleet.roll.map (·.1)).count k + o.calls.countP (Call.connects k) ≤
    o.fleet.asked.count k
  high : ∀ k, o.fleet.asked.count k ≤
    (o.fleet.roll.map (·.1)).count k + o.calls.countP (Call.connects k) + o.stats.openFailures
  disposed : o.disposed = true → ∀ k s, o.current.find? k = some s → o.Hot s →
    ∃ (i : Nat) (c : Call), o.calls[i]? = some c ∧ c.Drops k s

/-- A call at work has locked the slot that it works in. -/
theorem Fits.holds {i s : Nat} {c : Call} (h : Fits owner o i c) (hw : c.working? = some s) :
    o.holds i s = true := by
  cases c with
  | get c stage =>
    cases stage with
    | asked | waiting | done => cases hw
    | reconnecting t =>
      cases hw
      exact h.1
    | closing t | reading t | connecting t _ =>
      cases hw
      exact h.1.1
  | mark | evict | invalidateConnection | dispose | reap => cases hw

theorem length_of_holds {i s : Nat} (h : o.holds i s = true) : s < o.slots.length := by
  obtain ⟨x, hx, -⟩ := (o.holds_iff i s).mp h
  exact (List.getElem?_eq_some_iff.mp hx).1

theorem Guarded.length_of_hot (g : Guarded owner o) {s : Nat} (h : o.Hot s) :
    s < o.slots.length := by
  rcases h with h | ⟨i, c, hc, hw⟩
  · obtain ⟨e, he⟩ := Option.ne_none_iff_exists'.mp h
    obtain ⟨x, hx, -⟩ := Option.bind_eq_some_iff.mp he
    exact (List.getElem?_eq_some_iff.mp hx).1
  · exact length_of_holds ((g.fits i c hc).holds hw)

/-- A step finds no slot a handle that was to have none, once the pool is disposed. -/
theorem hot_of_advance {i s : Nat} {c c' : Call} {owner' : List ClusterKey}
    (hc : o.calls[i]? = some c) (a : Advance owner i c c' o o' owner') (hd : o.disposed = true)
    (h : (o'.setCall i c').Hot s) : o.Hot s := by
  have hmove : o'.content s ≠ none ∨ c'.working? = some s → o.Hot s := by
    intro hm
    rcases a.closing.hot hd s hm with h | h
    · exact .inl h
    · exact .inr ⟨i, c, hc, h⟩
  rcases h with h | ⟨j, d, hj, hw⟩
  · exact hmove (.inl h)
  · rw [calls_setCall, a.calls] at hj
    by_cases he : i = j
    · rw [if_pos he] at hj
      obtain ⟨_, _, rfl⟩ := Option.map_eq_some_iff.mp hj
      exact hmove (.inr hw)
    · rw [if_neg he] at hj
      exact .inr ⟨j, d, hj, hw⟩

/-- One call takes the place of another in the count of those that wait for a connection. -/
theorem countP_set {i : Nat} {c c' : Call} {calls : List Call} (hc : calls[i]? = some c)
    (p : Call → Bool) :
    (calls.set i c').countP p + (p c).toNat = calls.countP p + (p c').toNat := by
  obtain ⟨hlt, he⟩ := List.getElem?_eq_some_iff.mp hc
  have hpos : (p c).toNat ≤ calls.countP p := by
    cases hp : p c with
    | false => exact Nat.zero_le _
    | true => exact List.countP_pos_iff.mpr ⟨c, List.mem_of_getElem? hc, hp⟩
  rw [List.countP_set hlt, he]
  cases hp : p c <;> cases p c'
  all_goals
    simp only [hp, Bool.toNat_false, Bool.toNat_true, Bool.false_eq_true, ↓reduceIte] at hpos ⊢
    omega

/-- A step of a call leaves a pool sound. -/
theorem Sound.turn {i : Nat} (h : Sound o) (step : o.step i = some o') : Sound o' := by
  obtain ⟨owner, g⟩ := h.guarded
  cases hc : o.calls[i]? with
  | none => simp [Overlap.step, hc] at step
  | some c =>
    obtain ⟨c', o₁, owner', rfl, a⟩ := advances_step g hc step
    have hset : ∀ k, ((o₁.setCall i c').calls.countP (Call.connects k)) + (c.connects k).toNat =
        o.calls.countP (Call.connects k) + (c'.connects k).toNat := by
      intro k
      change (o₁.calls.set i c').countP _ + _ = _
      rw [a.calls]
      exact countP_set hc _
    refine ⟨⟨owner', g.advance a⟩, ?_, ?_, ?_⟩
    · intro k
      have hk := hset k
      have hlow := h.low k
      have hbal := a.balanced.low k
      change (o₁.fleet.roll.map (·.1)).count k + _ ≤ o₁.fleet.asked.count k
      omega
    · intro k
      have hk := hset k
      have hhigh := h.high k
      have hbal := a.balanced.high k
      change o₁.fleet.asked.count k ≤ (o₁.fleet.roll.map (·.1)).count k + _ + o₁.stats.openFailures
      omega
    · intro hd' k s hk hhot
      have hi : (o₁.setCall i c').calls[i]? = some c' := by
        rw [calls_setCall, a.calls, if_pos rfl, hc]
        rfl
      cases hd : o.disposed with
      | false => exact ⟨i, c', hi, a.closing.begun hd hd' k s hk⟩
      | true =>
        have hold := hot_of_advance hc a hd hhot
        have hcur := a.closing.slots k s hk (g.length_of_hot hold)
        obtain ⟨j, d, hj, hdrop⟩ := h.disposed hd k s hcur hold
        by_cases hij : i = j
        · subst hij
          obtain rfl : c = d := Option.some.inj (hc.symm.trans hj)
          rcases a.closing.drops k s hdrop hk with hdrop | ⟨hnone, hl, hwork⟩
          · exact ⟨i, c', hi, hdrop⟩
          · rcases hhot with hne | ⟨j, d, hj, hw⟩
            · exact absurd hnone hne
            · rw [calls_setCall, a.calls] at hj
              by_cases hij : i = j
              · rw [if_pos hij] at hj
                obtain ⟨_, _, rfl⟩ := Option.map_eq_some_iff.mp hj
                rw [hwork] at hw
                cases hw
              · rw [if_neg hij] at hj
                exact absurd (holds_unique hl ((g.fits j d hj).holds hw)) hij
        · refine ⟨j, d, ?_, hdrop⟩
          rw [calls_setCall, a.calls, if_neg hij]
          exact hj

theorem Sound.start (config : PoolConfig) (store : ConnectionStore) :
    Sound (ofPool (Pool.start config store .empty)) := by
  have hempty : ∀ s, (ofPool (Pool.start config store .empty)).content s = none := fun _ => rfl
  refine ⟨⟨[], ⟨rfl, ?_, ?_, ?_⟩, ?_⟩, fun _ => Nat.le_refl _, fun _ => Nat.le_refl _, ?_⟩
  · intro k s h
    cases h
  · intro s e h
    rw [hempty] at h
    cases h
  · intro h k hr
    simp [ofPool, Pool.start, Fleet.roll, Fleet.empty] at hr
  · intro i c hc
    simp [ofPool] at hc
  · intro hd
    cases hd

/-- What changes around a pool leaves it sound. -/
theorem Sound.setCore (h : Sound o) (core : PoolCore) (alike : o.fleet.Alike core.fleet)
    (stats : core.stats = o.stats) (disposed : core.disposed = o.disposed) :
    Sound (o.setCore core) := by
  obtain ⟨owner, g⟩ := h.guarded
  refine ⟨⟨owner, g.setCore core alike⟩, fun k => ?_, fun k => ?_, fun hd => ?_⟩
  · change (core.fleet.roll.map (·.1)).count k + _ ≤ core.fleet.asked.count k
    rw [alike.roll, alike.asked]
    exact h.low k
  · change core.fleet.asked.count k ≤ (core.fleet.roll.map (·.1)).count k + _ +
      core.stats.openFailures
    rw [alike.roll, alike.asked, stats]
    exact h.high k
  · exact h.disposed (disposed ▸ hd)

theorem Sound.begin (h : Sound o) {c : Call} (fresh : c.isFresh = true) :
    Sound { o with calls := o.calls ++ [c] } := by
  obtain ⟨owner, g⟩ := h.guarded
  have hidle : c.working? = none ∧ ∀ k, c.connects k = false := by
    cases c with
    | get _ stage => cases stage <;> first | exact ⟨rfl, fun _ => rfl⟩ | cases fresh
    | mark | evict | invalidateConnection | dispose | reap => exact ⟨rfl, fun _ => rfl⟩
  have hcount : ∀ k, (o.calls ++ [c]).countP (Call.connects k) =
      o.calls.countP (Call.connects k) := by
    intro k
    simp [List.countP_append, hidle.2 k]
  refine ⟨⟨owner, g.begin fresh⟩, ?_, ?_, ?_⟩
  · intro k
    change _ + (o.calls ++ [c]).countP (Call.connects k) ≤ _
    rw [hcount]
    exact h.low k
  · intro k
    change _ ≤ _ + (o.calls ++ [c]).countP (Call.connects k) + _
    rw [hcount]
    exact h.high k
  · intro hd k s hk hhot
    have hold : o.Hot s := by
      refine hhot.imp_right ?_
      rintro ⟨i, d, hi, hw⟩
      change (o.calls ++ [c])[i]? = some d at hi
      rw [List.getElem?_append] at hi
      split at hi
      · exact ⟨i, d, hi, hw⟩
      · rw [List.getElem?_singleton] at hi
        split at hi <;> cases hi
        rw [hidle.1] at hw
        cases hw
    obtain ⟨i, d, hi, hdrop⟩ := h.disposed hd k s hk hold
    refine ⟨i, d, ?_, hdrop⟩
    change (o.calls ++ [c])[i]? = some d
    rw [List.getElem?_append_left (List.getElem?_eq_some_iff.mp hi).1]
    exact hi

theorem Sound.next (h : Sound o) (step : Next o o') : Sound o' := by
  cases step with
  | turn i step => exact h.turn step
  | begin c fresh => exact h.begin fresh
  | ask fleet alike => exact h.setCore { o.toPoolCore with fleet } alike rfl rfl
  | outside now store => exact h.setCore { o.toPoolCore with now, store } (.refl _) rfl rfl

/-- A pool is sound after any steps in any order. -/
theorem Reachable.sound (h : Reachable o) : Sound o := by
  induction h with
  | start config store => exact .start config store
  | next _ step ih => exact ih.next step

end

end Overlap

end ClusterAdmin.Pool
