import ClusterAdmin.Proofs.Schedules

namespace ClusterAdmin.Pool

/-- The slot that a call for a handle will empty, having closed what it holds. -/
def Call.clearing? : Call → Option Nat
  | .get _ (.closing s) => some s
  | _ => none

theorem Call.not_isDone_of_clearing {c : Call} {s : Nat} (h : c.clearing? = some s) :
    c.isDone = false := by
  cases c with
  | get _ stage => cases stage <;> first | rfl | cases h
  | mark | evict | invalidateConnection | dispose | reap => cases h

namespace Overlap

/-- A slot holds a closed handle. -/
def Stale (o : Overlap) (s : Nat) : Prop :=
  ∃ e k, o.content s = some e ∧ o.fleet.roll[e.handle]? = some (k, true)

/-- No slot has come to hold a closed handle. -/
def Fades (o o' : Overlap) : Prop := ∀ s, o'.Stale s → o.Stale s

section

variable {owner : List ClusterKey} {o o' o'' : Overlap} {i s t : Nat}

namespace Fades

theorem trans (h : Fades o o') (h' : Fades o' o'') : Fades o o'' := fun s hs => h s (h' s hs)

theorem of_same (content : ∀ t, o'.content t = o.content t)
    (roll : o'.fleet.roll = o.fleet.roll) : Fades o o' := by
  intro t ⟨e, k, he, hr⟩
  exact ⟨e, k, content t ▸ he, roll ▸ hr⟩

theorem setCore (core : PoolCore) (roll : core.fleet.roll = o.fleet.roll) :
    Fades o (o.setCore core) := of_same (fun _ => rfl) roll

theorem setCall (o : Overlap) (i : Nat) (c : Call) : Fades o (o.setCall i c) :=
  of_same (fun _ => rfl) rfl

theorem release (o : Overlap) (s : Nat) : Fades o (o.release s) :=
  of_same (o.content_release s) rfl

theorem request (o : Overlap) (s i : Nat) : Fades o (o.update s (Slot.request i)) :=
  of_same (o.content_request s i) rfl

theorem forget (o : Overlap) (k : ClusterKey) (s : Nat) : Fades o (o.forget k s) :=
  of_same (o.content_forget k s) (by rw [toPoolCore_forget])

/-- A slot may be dropped and its lock given away. -/
theorem drop (o : Overlap) (core : PoolCore) (roll : core.fleet.roll = o.fleet.roll)
    (k : ClusterKey) (s : Nat) : Fades o (((o.setCore core).forget k s).release s) :=
  ((setCore core roll).trans (forget (o.setCore core) k s)).trans (release _ s)

theorem finish (o : Overlap) (i s : Nat) (c : Cluster) (r : Except Failure Nat) :
    Fades o (o.finish i s c r) := (release o s).trans (setCall _ i _)

/-- A slot may be given a new state of the handle that it holds. -/
theorem refill (core : PoolCore) {e e' : PooledHandle} (roll : core.fleet.roll = o.fleet.roll)
    (hs : o.content s = some e) (he : e'.handle = e.handle) :
    Fades o ((o.setCore core).fill s (some e')) := by
  intro t ⟨x, k, hx, hr⟩
  change core.fleet.roll[x.handle]? = _ at hr
  rw [roll] at hr
  rcases content_of_fill hx with hold | ⟨rfl, hnew⟩
  · exact ⟨x, k, hold, hr⟩
  · obtain rfl := Option.some.inj hnew
    exact ⟨e, k, hs, he ▸ hr⟩

/-- Or a handle that was just opened. -/
theorem keep (core : PoolCore) {n lastUsed : Nat} {tg : Target} (st : Stored owner o)
    (ha : o.fleet.accept tg = (.ok n, core.fleet)) (connected : Bool) :
    Fades o ((o.setCore core).fill s (some ⟨n, lastUsed, connected⟩)) := by
  obtain ⟨hn, hroll, -, -⟩ := Fleet.accept_ok ha
  intro t ⟨x, k, hx, hr⟩
  change core.fleet.roll[x.handle]? = _ at hr
  rcases content_of_fill hx with hold | ⟨-, hnew⟩
  · change o.content t = some x at hold
    obtain ⟨k', b, -, hr'⟩ := st.kept t x hold
    rw [hroll, List.getElem?_append_left (List.getElem?_eq_some_iff.mp hr').1] at hr
    exact ⟨x, k, hold, hr⟩
  · obtain rfl := Option.some.inj hnew
    rw [hroll, hn, List.getElem?_concat_length] at hr
    cases hr

theorem claim (st : Stored owner o) (i : Nat) (c : Cluster) : Fades o (o.claim i c) := by
  obtain ⟨_, o₁, _, he, -, -, -, -, core, content, -⟩ := claim_cases st i c
  rw [he]
  exact (of_same content (by rw [core])).trans (setCall o₁ i _)

theorem serve (st : Stored owner o) (i s : Nat) (c : Cluster) : Fades o (o.serve i s c) := by
  simp only [Overlap.serve]
  split
  · exact (release o s).trans (claim (st.release s) i c)
  · split
    · exact finish o i s c _
    · split
      · exact setCall o i _
      · rename_i e hs
        split
        · refine trans ?_ (finish _ i s c _)
          exact refill o.countReused rfl hs rfl
        · refine trans ?_ (setCall _ i _)
          let core : PoolCore := { o.toPoolCore with fleet := o.fleet.record (.reconnect e.handle) }
          exact refill core rfl hs rfl

end Fades

/-- A slot that is emptied holds nothing. -/
theorem stale_of_empty (hl : o.holds i s = true) (h : (o.fill s none).Stale t) :
    o.Stale t ∧ t ≠ s := by
  obtain ⟨x, k, hx, hr⟩ := h
  have hne : t ≠ s := by
    rintro rfl
    rw [content_fill_self hl] at hx
    cases hx
  rw [content_fill_ne _ hne.symm] at hx
  exact ⟨⟨x, k, hx, hr⟩, hne⟩

/-- No other slot holds the handle that a slot holds. -/
theorem Stored.content_unique (st : Stored owner o) {e e' : PooledHandle}
    (hs : o.content s = some e) (ht : o.content t = some e') (he : e.handle = e'.handle) :
    s = t := by
  obtain ⟨k, b, hk, hr⟩ := st.kept s e hs
  obtain ⟨k', b', hk', hr'⟩ := st.kept t e' ht
  rw [← he, hr] at hr'
  cases hr'
  exact Option.some.inj (hk.symm.trans hk')

/-- To close the handle in a slot leaves a closed one in that slot only. -/
theorem stale_of_close (st : Stored owner o) {e : PooledHandle} (hs : o.content s = some e)
    (h : ({ o with fleet := o.fleet.close e.handle } : Overlap).Stale t) :
    o.Stale t ∨ t = s := by
  obtain ⟨x, k, hx, hr⟩ := h
  change o.content t = some x at hx
  by_cases he : e.handle = x.handle
  · exact .inr (st.content_unique hs hx he).symm
  · rw [Fleet.roll_close_ne _ he] at hr
    exact .inl ⟨x, k, hx, hr⟩

/-- A call that closes what a slot holds and empties it at once leaves nothing behind. -/
theorem fades_clear (st : Stored owner o) {e : PooledHandle} (hl : o.holds i s = true)
    (hs : o.content s = some e) :
    Fades o ({ o with fleet := o.fleet.close e.handle }.fill s none) := by
  intro t ht
  obtain ⟨hstale, hne⟩ := stale_of_empty (o := { o with fleet := o.fleet.close e.handle }) hl ht
  exact (stale_of_close st hs hstale).resolve_right hne

/-- A step that brings no closed handle into a slot, of a call that was to empty none. -/
theorem stale_of_fades {c : Call} (hf : Fades o o') (hnone : c.clearing? = none)
    (hs : o'.Stale t) : o.Stale t ∧ c.clearing? ≠ some t := by
  refine ⟨hf t hs, ?_⟩
  intro he
  rw [hnone] at he
  cases he

/-- A step of a call for a handle finds no closed handle in a slot, but for the one that it has
just closed. -/
theorem stale_stepGet {c : Cluster} {stage : GetStage} (st : Stored owner o)
    (fits : Fits owner o i (.get c stage)) (hc : o.calls[i]? = some (.get c stage))
    (h : o.stepGet i c stage = some o') (hs : o'.Stale t) :
    (o.Stale t ∧ (Call.get c stage).clearing? ≠ some t) ∨
      ∃ d, o'.calls[i]? = some d ∧ d.clearing? = some t := by
  cases stage with
  | asked =>
    refine .inl (stale_of_fades ?_ rfl hs)
    simp only [stepGet] at h
    split at h <;> cases h
    · exact .setCall o i _
    · exact .claim st i c
  | waiting s =>
    refine .inl (stale_of_fades ?_ rfl hs)
    simp only [stepGet] at h
    split at h <;> cases h
    exact .serve st i s c
  | reconnecting s =>
    simp only [stepGet] at h
    split at h
    · cases h
    rename_i e hsome
    split at h <;> cases h
    · rename_i fleet hr
      let core : PoolCore := { o.countReconnected with fleet }
      refine .inl (stale_of_fades (Fades.trans ?_ (.finish _ i s c _)) rfl hs)
      exact .refill core (Fleet.alike_reaccept hr).roll hsome rfl
    · -- The handle is closed now and leaves the slot with the next step of the call.
      rename_i f fleet hr
      have hroll := (Fleet.alike_reaccept hr).roll
      let core : PoolCore := { o.toPoolCore with fleet }
      rcases stale_of_close (o := o.setCore core) (st.setCore core hroll) hsome hs with hold | rfl
      · exact .inl (stale_of_fades (Fades.setCore core hroll) rfl hold)
      · refine .inr ⟨.get c (.closing t), ?_, rfl⟩
        rw [calls_setCall, if_pos rfl]
        exact congrArg (Option.map fun _ => _) hc
  | closing s =>
    cases h
    obtain ⟨hold, hne⟩ := stale_of_empty (o := o.setCore o.countEvicted) fits.1.1 hs
    refine .inl ⟨hold, ?_⟩
    intro he
    exact hne (Option.some.inj he).symm
  | reading s =>
    refine .inl (stale_of_fades ?_ rfl hs)
    simp only [stepGet] at h
    split at h <;> cases h
    · exact .finish o i s c _
    · exact .of_same (fun _ => rfl) rfl
  | connecting s tg =>
    refine .inl (stale_of_fades ?_ rfl hs)
    simp only [stepGet] at h
    split at h <;> cases h
    · rename_i f fleet hr
      let core : PoolCore := { o.countOpenFailure with fleet }
      exact (Fades.setCore core (Fleet.alike_accept hr).roll).trans (.finish _ i s c _)
    · rename_i n fleet hr
      exact (Fades.keep { o.countOpened with fleet } st hr true).trans (.finish _ i s c _)
  | done => cases h

theorem fades_stepMark {c : Cluster} {stage : MarkStage} (h : o.stepMark i c stage = some o') :
    Fades o o' := by
  cases stage with
  | asked =>
    simp only [stepMark] at h
    split at h <;> cases h
    · exact .setCall o i _
    · exact (Fades.request o _ i).trans (.setCall _ i _)
  | waiting s =>
    simp only [stepMark] at h
    split at h <;> cases h
    refine Fades.trans ?_ ((Fades.release _ s).trans (.setCall _ i _))
    split
    · rename_i e hsome
      exact .refill o.toPoolCore rfl hsome rfl
    · exact .of_same (fun _ => rfl) rfl
  | done => cases h

theorem fades_stepEvict {ks : List ClusterKey} {stage : EvictStage} (st : Stored owner o)
    (h : o.stepEvict i ks stage = some o') : Fades o o' := by
  cases ks with
  | nil => cases stage <;> cases h
  | cons k ks =>
    cases stage with
    | next =>
      simp only [stepEvict] at h
      split at h <;> cases h
      · exact .setCall o i _
      · exact (Fades.request o _ i).trans (.setCall _ i _)
    | waiting s =>
      simp only [stepEvict] at h
      split at h
      · rename_i hl
        split at h <;> cases h
        · rename_i e hsome
          exact (fades_clear st hl hsome).trans (.setCall _ i _)
        · exact (Fades.drop o o.toPoolCore rfl k s).trans (.setCall _ i _)
      · cases h
    | closing s =>
      cases h
      exact (Fades.drop o o.countEvicted rfl k s).trans (.setCall _ i _)

theorem fades_stepReap {stage : ReapStage} (st : Stored owner o)
    (h : o.stepReap i stage = some o') : Fades o o' := by
  cases stage with
  | asked =>
    cases h
    exact .setCall o i _
  | looking left closed =>
    cases left with
    | nil => cases h
    | cons x left =>
      obtain ⟨k, s⟩ := x
      simp only [stepReap] at h
      split at h
      · cases h
        exact .setCall o i _
      · rename_i hbusy
        split at h <;> cases h
        · rename_i e hsome
          have hfree : ∀ j, o.holds j s = false := fun j => holds_of_idle hbusy j
          refine Fades.trans ((Fades.request o s i).trans ?_) (.setCall _ i _)
          exact fades_clear (st.request s i) (holds_request hfree hsome)
            ((o.content_request s i s).trans hsome)
        · exact (Fades.forget o k s).trans (.setCall _ i _)
  | closing k s left closed =>
    cases h
    exact (Fades.drop o o.countEvicted rfl k s).trans (.setCall _ i _)

/-- A step of any call finds no closed handle in a slot, but for the one that it has just closed. -/
theorem stale_step {c : Call} (g : Guarded owner o) (hc : o.calls[i]? = some c)
    (h : o.step i = some o') (hs : o'.Stale t) :
    (o.Stale t ∧ c.clearing? ≠ some t) ∨ ∃ d, o'.calls[i]? = some d ∧ d.clearing? = some t := by
  have fits := g.fits i c hc
  simp only [step, hc] at h
  cases c with
  | get c stage => exact stale_stepGet g.stored fits hc h hs
  | mark c stage => exact .inl (stale_of_fades (fades_stepMark h) rfl hs)
  | evict ks stage => exact .inl (stale_of_fades (fades_stepEvict g.stored h) rfl hs)
  | invalidateConnection id =>
    cases h
    exact .inl (stale_of_fades (.setCall o i _) rfl hs)
  | dispose =>
    refine .inl (stale_of_fades ?_ rfl hs)
    dsimp only at h
    split at h <;> cases h
    · exact .setCall o i _
    · exact .of_same (fun _ => rfl) rfl
  | reap stage => exact .inl (stale_of_fades (fades_stepReap g.stored h) rfl hs)

/-- Whatever closed handle a slot holds, a call will empty the slot. -/
def Cleared (o : Overlap) : Prop :=
  ∀ s, o.Stale s → ∃ (i : Nat) (c : Call), o.calls[i]? = some c ∧ c.clearing? = some s

theorem Cleared.turn (h : Cleared o) (g : Guarded owner o) (step : o.step i = some o') :
    Cleared o' := by
  cases hc : o.calls[i]? with
  | none => simp [Overlap.step, hc] at step
  | some c =>
    intro s hs
    rcases stale_step g hc step hs with ⟨hold, hother⟩ | ⟨d, hd, hclears⟩
    · obtain ⟨j, d, hd, hclears⟩ := h s hold
      have hij : i ≠ j := by
        rintro rfl
        rw [hc] at hd
        cases hd
        exact hother hclears
      obtain ⟨c', o₁, owner', rfl, a⟩ := advances_step g hc step
      refine ⟨j, d, ?_, hclears⟩
      rw [calls_setCall, if_neg hij, a.calls]
      exact hd
    · exact ⟨i, d, hd, hclears⟩

theorem Cleared.next (h : Cleared o) (g : Guarded owner o) (step : Next o o') : Cleared o' := by
  cases step with
  | turn i step => exact h.turn g step
  | begin c fresh =>
    intro s hs
    obtain ⟨i, d, hd, hclears⟩ := h s hs
    refine ⟨i, d, ?_, hclears⟩
    change (o.calls ++ [c])[i]? = some d
    rw [List.getElem?_append_left (List.getElem?_eq_some_iff.mp hd).1]
    exact hd
  | ask fleet alike =>
    intro s hs
    exact h s (Fades.setCore { o.toPoolCore with fleet } alike.roll s hs)
  | outside now store => exact h

theorem Reachable.cleared (h : Reachable o) : Cleared o := by
  induction h with
  | start config store =>
    intro s ⟨e, _, he, _⟩
    cases he
  | next before step ih =>
    obtain ⟨owner, g⟩ := before.sound.guarded
    exact ih.next g step

/-- Once all calls have ended, what the slot of a cluster holds is an open handle of the cluster. -/
theorem Reachable.open_of_done (h : Reachable o) (done : ∀ c ∈ o.calls, c.isDone = true)
    {k : ClusterKey} {e : PooledHandle} (hk : o.current.find? k = some s)
    (he : o.content s = some e) : o.fleet.roll[e.handle]? = some (k, false) := by
  obtain ⟨owner, g⟩ := h.sound.guarded
  obtain ⟨b, hr⟩ := g.stored.roll_of_content hk he
  cases b with
  | false => exact hr
  | true =>
    obtain ⟨i, c, hc, hclears⟩ := h.cleared s ⟨e, k, he, hr⟩
    have hdone := done c (List.mem_of_getElem? hc)
    rw [Call.not_isDone_of_clearing hclears] at hdone
    cases hdone

end

end Overlap

end ClusterAdmin.Pool
