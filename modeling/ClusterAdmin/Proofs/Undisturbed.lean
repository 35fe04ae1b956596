import ClusterAdmin.Proofs.Schedules

namespace ClusterAdmin.Pool

/-- A cluster for which no connection can be asked for: it has none, or what is known of it does not
do. -/
def Unreachable (c : Cluster) (f : Failure) : Prop :=
  c.connectionType = .cloudManaged ∨ ∃ store, Target.ofCluster store c = .error f

/-- A call for a handle that has had no reason to close or reconnect one. -/
def Call.Plain : Call → Prop
  | .get _ (.reconnecting _) | .get _ (.closing _) => False
  | .get c (.done (.error f)) => Unreachable c f
  | .get _ _ => True
  | _ => False

namespace Overlap

/-- A pool that began empty, of which handles are asked for and nothing else, in any order of steps.
Every connection succeeds, and no handle breaks off. -/
inductive Undisturbed : Overlap → Prop
  | start (config : PoolConfig) (store : ConnectionStore) :
    Undisturbed (ofPool (Pool.start config store .empty))
  | turn {o o' : Overlap} (before : Undisturbed o) (i : Nat) (step : o.step i = some o') :
    Undisturbed o'
  | begin {o : Overlap} (before : Undisturbed o) (c : Cluster) :
    Undisturbed { o with calls := o.calls ++ [.get c .asked] }
  | ask {o : Overlap} (before : Undisturbed o) (fleet : Fleet) (alike : o.fleet.Alike fleet)
    (handles : fleet.handles = o.fleet.handles) (succeeds : ∀ r ∈ fleet.connects, r = none) :
    Undisturbed { o with fleet }
  | outside {o : Overlap} (before : Undisturbed o) (now : Nat) (store : ConnectionStore) :
    Undisturbed { o with now, store }

theorem Undisturbed.reachable {o : Overlap} (h : Undisturbed o) : Reachable o := by
  induction h with
  | start config store => exact .start config store
  | turn _ i step ih => exact ih.next (.turn i step)
  | begin _ c ih => exact ih.next (.begin _ _ rfl)
  | ask _ fleet alike _ _ ih => exact ih.next (.ask _ fleet alike)
  | outside _ now store ih => exact ih.next (.outside _ now store)

/-- What holds of an undisturbed pool: every handle is up, and no call has found otherwise. -/
structure Calm (o : Overlap) : Prop where
  up : ∀ x ∈ o.fleet.handles, x.connected = true ∧ x.closed = false
  succeeds : ∀ r ∈ o.fleet.connects, r = none
  kept : ∀ s e, o.content s = some e → e.connected = true
  fails : o.stats.openFailures = 0
  live : o.disposed = false
  calls : ∀ c ∈ o.calls, c.Plain

section

variable {owner : List ClusterKey} {o o' : Overlap} {i : Nat}

theorem Calm.of_same (h : Calm o) (core : o'.toPoolCore = o.toPoolCore) (calls : o'.calls = o.calls)
    (content : ∀ s, o'.content s = o.content s) : Calm o' := by
  refine ⟨?_, ?_, ?_, ?_, ?_, ?_⟩
  · rw [core]
    exact h.up
  · rw [core]
    exact h.succeeds
  · intro s e he
    exact h.kept s e (content s ▸ he)
  · rw [core]
    exact h.fails
  · rw [core]
    exact h.live
  · rw [calls]
    exact h.calls

theorem Calm.setCall (h : Calm o) (i : Nat) {c : Call} (hc : c.Plain) : Calm (o.setCall i c) := by
  refine ⟨h.up, h.succeeds, h.kept, h.fails, h.live, ?_⟩
  intro d hd
  rcases List.mem_or_eq_of_mem_set hd with hd | rfl
  · exact h.calls d hd
  · exact hc

/-- Only a handle that is believed to be up is put into a slot. -/
theorem Calm.fill (h : Calm o) (s : Nat) {e : PooledHandle} (he : e.connected = true) :
    Calm (o.fill s (some e)) := by
  refine ⟨h.up, h.succeeds, ?_, h.fails, h.live, h.calls⟩
  intro t x hx
  rcases content_of_fill hx with hx | ⟨-, hx⟩
  · exact h.kept t x hx
  · cases hx
    exact he

theorem Calm.release (h : Calm o) (s : Nat) : Calm (o.release s) :=
  h.of_same rfl rfl (o.content_release s)

theorem Calm.finish (h : Calm o) (i s : Nat) {c : Cluster} {r : Except Failure Nat}
    (hr : (Call.get c (.done r)).Plain) : Calm (o.finish i s c r) :=
  (h.release s).setCall i hr

theorem Calm.claim (h : Calm o) (st : Stored owner o) (i : Nat) (c : Cluster) :
    Calm (o.claim i c) := by
  obtain ⟨s, o₁, -, he, -, calls, -, -, core, content, -⟩ := claim_cases st i c
  rw [he]
  exact (h.of_same core calls content).setCall i trivial

/-- What an undisturbed pool keeps can be handed out as it is. -/
theorem Calm.usable (h : Calm o) (st : Stored owner o) {s : Nat} {e : PooledHandle}
    (he : o.content s = some e) : o.isUsable e = true := by
  obtain ⟨k, b, -, hr⟩ := st.kept s e he
  rw [Fleet.roll_getElem?] at hr
  obtain ⟨x, hx, -⟩ := Option.map_eq_some_iff.mp hr
  obtain ⟨hup, hopen⟩ := h.up x (List.mem_of_getElem? hx)
  simp [PoolCore.isUsable, Fleet.isUp, hx, hup, hopen, h.kept s e he]

theorem Calm.serve (h : Calm o) (st : Stored owner o) (i s : Nat) (c : Cluster) :
    Calm (o.serve i s c) := by
  simp only [Overlap.serve, h.live]
  split
  · exact (h.release s).claim (st.release s) i c
  · split
    · rename_i hd
      cases hd
    · split
      · exact h.setCall i trivial
      · rename_i e he
        rw [if_pos (h.usable st he)]
        have hcore : Calm (o.setCore o.countReused) :=
          ⟨h.up, h.succeeds, h.kept, h.fails, h.live, h.calls⟩
        have hkept : ({ e with lastUsed := o.now } : PooledHandle).connected = true := h.kept s e he
        exact (hcore.fill s hkept).finish (r := .ok e.handle) i s trivial

theorem Calm.stepGet (h : Calm o) (st : Stored owner o) {c : Cluster} {stage : GetStage}
    (plain : (Call.get c stage).Plain) (step : o.stepGet i c stage = some o') : Calm o' := by
  cases stage with
  | asked =>
    simp only [Overlap.stepGet, PoolCore.refusal?, h.live] at step
    split at step <;> cases step
    · rename_i f hf
      refine h.setCall i (.inl ?_)
      by_cases hcloud : c.connectionType = .cloudManaged
      · exact hcloud
      · simp [hcloud] at hf
    · exact h.claim st i c
  | waiting s =>
    simp only [Overlap.stepGet] at step
    split at step <;> cases step
    exact h.serve st i s c
  | reconnecting s => exact plain.elim
  | closing s => exact plain.elim
  | reading s =>
    simp only [Overlap.stepGet] at step
    split at step <;> cases step
    · rename_i f hf
      exact h.finish i s (.inr ⟨o.store, hf⟩)
    · rename_i t ht
      have hasked : Calm { o with fleet := o.fleet.record (.connect t) } :=
        ⟨h.up, h.succeeds, h.kept, h.fails, h.live, h.calls⟩
      exact hasked.setCall i trivial
  | connecting s t =>
    simp only [Overlap.stepGet, Fleet.accept] at step
    have hnew : ∀ x ∈ o.fleet.handles ++ [⟨t.key, true, false, none⟩],
        x.connected = true ∧ x.closed = false := by
      intro x hx
      rcases List.mem_append.mp hx with hx | hx
      · exact h.up x hx
      · cases List.mem_singleton.mp hx
        exact ⟨rfl, rfl⟩
    split at step <;> cases step
    · rename_i f fleet hr
      split at hr <;> cases hr
      rename_i rest hrest
      cases h.succeeds _ (hrest ▸ List.mem_cons_self)
    · rename_i n fleet hr
      have hopened : Calm (o.setCore { o.countOpened with fleet }) := by
        split at hr <;> cases hr
        · rename_i rest hrest
          exact ⟨hnew, fun r hr => h.succeeds r (hrest ▸ List.mem_cons_of_mem _ hr), h.kept,
            h.fails, h.live, h.calls⟩
        · exact ⟨hnew, h.succeeds, h.kept, h.fails, h.live, h.calls⟩
      exact (hopened.fill s rfl).finish (r := .ok n) i s trivial
  | done r => cases step

theorem Calm.turn (h : Calm o) (g : Guarded owner o) (step : o.step i = some o') : Calm o' := by
  simp only [Overlap.step] at step
  split at step
  · cases step
  · rename_i c stage hc
    exact h.stepGet g.stored (h.calls _ (List.mem_of_getElem? hc)) step
  all_goals
    rename_i hc
    exact (h.calls _ (List.mem_of_getElem? hc)).elim

/-- An undisturbed pool is calm. -/
theorem Undisturbed.calm (h : Undisturbed o) : Calm o := by
  induction h with
  | start config store =>
    refine ⟨?_, ?_, ?_, rfl, rfl, ?_⟩
    · intro x hx
      cases hx
    · intro r hr
      cases hr
    · intro s e he
      cases he
    · intro c hc
      cases hc
  | turn before i step ih =>
    obtain ⟨owner, g⟩ := before.reachable.sound.guarded
    exact ih.turn g step
  | begin before c ih =>
    refine ⟨ih.up, ih.succeeds, ih.kept, ih.fails, ih.live, ?_⟩
    intro d hd
    rcases List.mem_append.mp hd with hd | hd
    · exact ih.calls d hd
    · cases List.mem_singleton.mp hd
      trivial
  | ask before fleet alike handles succeeds ih =>
    exact ⟨fun x hx => ih.up x (handles ▸ hx), succeeds, ih.kept, ih.fails, ih.live, ih.calls⟩
  | outside before now store ih => exact ⟨ih.up, ih.succeeds, ih.kept, ih.fails, ih.live, ih.calls⟩

end

end Overlap

end ClusterAdmin.Pool
