import ClusterAdmin.Proofs.Turns

namespace ClusterAdmin.Pool.Overlap

section

variable {owner : List ClusterKey} {o o' : Overlap} {i : Nat}

@[simp] theorem holds_forget (o : Overlap) (k : ClusterKey) (s j t : Nat) :
    (o.forget k s).holds j t = o.holds j t := by
  simp only [forget]
  split <;> rfl

@[simp] theorem content_forget (o : Overlap) (k : ClusterKey) (s t : Nat) :
    (o.forget k s).content t = o.content t := by
  simp only [forget]
  split <;> rfl

@[simp] theorem toPoolCore_forget (o : Overlap) (k : ClusterKey) (s : Nat) :
    (o.forget k s).toPoolCore = o.toPoolCore := by
  simp only [forget]
  split <;> rfl

@[simp] theorem calls_forget (o : Overlap) (k : ClusterKey) (s : Nat) :
    (o.forget k s).calls = o.calls := by
  simp only [forget]
  split <;> rfl

/-- Dropping a slot takes nothing else out of the map. -/
theorem current_of_forget {k k' : ClusterKey} {s t : Nat}
    (h : (o.forget k s).current.find? k' = some t) :
    o.current.find? k' = some t ∧ ¬(k' = k ∧ t = s) := by
  simp only [forget] at h
  split at h
  · change (o.current.erase k).find? k' = some t at h
    rw [Table.find?_erase] at h
    split at h
    · cases h
    · rename_i hne
      exact ⟨h, fun he => hne he.1.symm⟩
  · rename_i hne
    refine ⟨h, ?_⟩
    rintro ⟨rfl, rfl⟩
    exact hne h

/-- A step of a call that opens nothing and begins no work in a slot. -/
theorem advances_beside {c c' : Call} {o₁ : Overlap} (calls : o₁.calls = o.calls)
    (respects : Respects i o o₁) (stored : Stored owner o₁) (fits : Fits owner o₁ i c')
    (balanced : Balanced c c' o o₁) (working : c'.working? = none)
    (current : ∀ k s, o₁.current.find? k = some s → o.current.find? k = some s)
    (disposed : o₁.disposed = o.disposed)
    (content : ∀ t, o₁.content t ≠ none → o.content t ≠ none)
    (drops : ∀ k s, c.Drops k s → o₁.current.find? k = some s →
      c'.Drops k s ∨ (o₁.content s = none ∧ o.holds i s = true)) :
    Advances owner i c o (o₁.setCall i c') := by
  refine ⟨_, o₁, owner, rfl, List.prefix_refl _, calls, respects, stored, fits, balanced,
    fun k s h _ => current k s h, fun h => disposed.trans h, ?_, ?_, ?_⟩
  · intro hd hd'
    rw [disposed, hd] at hd'
    cases hd'
  · rintro - t (ht | ht)
    · exact .inl (content t ht)
    · rw [working] at ht
      cases ht
  · intro k s hd hk
    exact (drops k s hd hk).imp_right fun h => ⟨h.1, h.2, working⟩

/-- A step that only moves a call on, as far as the pool is concerned. -/
theorem advances_alone {c c' : Call} (st : Stored owner o) (fits : Fits owner o i c')
    (connects : ∀ k, c'.connects k = c.connects k) (working : c'.working? = none)
    (drops : ∀ k s, c.Drops k s → o.current.find? k = some s → c'.Drops k s) :
    Advances owner i c o (o.setCall i c') :=
  advances_beside rfl (.refl i o) st fits (.of_same rfl rfl rfl connects) working
    (fun _ _ h => h) rfl (fun _ h => h) fun k s hd hk => .inl (drops k s hd hk)

/-- A step that asks for the lock of a slot. -/
theorem advances_request {c c' : Call} (st : Stored owner o) (s : Nat)
    (fits : Fits owner (o.update s (Slot.request i)) i c')
    (connects : ∀ k, c'.connects k = c.connects k) (working : c'.working? = none)
    (drops : ∀ k t, c.Drops k t → o.current.find? k = some t → c'.Drops k t) :
    Advances owner i c o ((o.update s (Slot.request i)).setCall i c') :=
  advances_beside rfl (.request i o s) (st.request s i) fits (.of_same rfl rfl rfl connects) working
    (fun _ _ h => h) rfl (fun t h => o.content_request s i t ▸ h)
    fun k t hd hk => .inl (drops k t hd hk)

/-- Every step of a call that marks a handle. -/
theorem advances_stepMark {c : Cluster} {stage : MarkStage} (st : Stored owner o)
    (h : o.stepMark i c stage = some o') : Advances owner i (.mark c stage) o o' := by
  cases stage with
  | asked =>
    simp only [stepMark] at h
    split at h <;> cases h
    · exact advances_alone st trivial (fun _ => rfl) rfl fun _ _ hd _ => absurd hd id
    · exact advances_request st _ trivial (fun _ => rfl) rfl fun _ _ hd _ => absurd hd id
  | waiting s =>
    simp only [stepMark] at h
    split at h <;> cases h
    rename_i hl
    split
    · rename_i e hsome
      have hst : Stored owner (o.fill s (some { e with connected := false })) :=
        st.refill hl hsome rfl
      refine advances_beside rfl ((Respects.own hl _).trans (.own ((holds_fill ..).trans hl) _))
        (hst.release s) trivial (.of_same rfl rfl rfl fun _ => rfl) rfl
        (fun _ _ h => h) rfl ?_ fun _ _ hd _ => absurd hd id
      intro t ht
      rw [content_release] at ht
      by_cases hst : s = t
      · subst hst
        simp [hsome]
      · rwa [content_fill_ne _ hst] at ht
    · exact advances_beside rfl (.own hl _) (st.release s) trivial
        (.of_same rfl rfl rfl fun _ => rfl) rfl (fun _ _ h => h) rfl
        (fun t h => o.content_release s t ▸ h) fun _ _ hd _ => absurd hd id
  | done => cases h

/-- A call that has emptied a slot drops it and gives the lock away. -/
theorem advances_drop {c c' : Call} {k : ClusterKey} {s : Nat} (core : PoolCore)
    (st : Stored owner o) (hl : o.holds i s = true) (hs : o.content s = none)
    (fleet : core.fleet = o.fleet) (disposed : core.disposed = o.disposed)
    (fails : core.stats.openFailures = o.stats.openFailures)
    (fits : ∀ o₁, Fits owner o₁ i c') (connects : ∀ k, c'.connects k = c.connects k)
    (working : c'.working? = none)
    (drops : ∀ k' t, c.Drops k' t → ¬(k' = k ∧ t = s) → o.current.find? k' = some t →
      c'.Drops k' t) :
    Advances owner i c o ((((o.setCore core).forget k s).release s).setCall i c') := by
  have hst : Stored owner (o.setCore core) := st.setCore core (by rw [fleet])
  have hl' : ((o.setCore core).forget k s).holds i s = true := (holds_forget ..).trans hl
  have hfree : ∀ j, j ≠ i → (o.setCore core).holds j s = false := by
    intro j hj
    cases h : (o.setCore core).holds j s with
    | false => rfl
    | true => exact absurd (holds_unique (o := o) h hl) hj
  have hcore : (((o.setCore core).forget k s).release s).toPoolCore = core :=
    toPoolCore_forget ..
  refine advances_beside (calls_forget ..) ?_ ((hst.forget hs k).release s) (fits _) ?_ working
    ?_ ?_ ?_ ?_
  · exact ((Respects.setCore i o core (fleet ▸ .refl _)).trans (.forget _ k s hfree)).trans
      (.own hl' _)
  · exact .of_same (by rw [hcore, fleet]) (by rw [hcore, fleet]) (by rw [hcore, fails]) connects
  · exact fun k' t h => (current_of_forget h).1
  · rw [hcore, disposed]
  · intro t ht
    rw [content_release, content_forget] at ht
    exact ht
  · intro k' t hd ht
    obtain ⟨hcur, hne⟩ := current_of_forget ht
    exact .inl (drops k' t hd hne hcur)

/-- A locked slot whose handle is closed is emptied. -/
theorem stored_clear {k : ClusterKey} {s : Nat} {e : PooledHandle} (st : Stored owner o)
    (hl : o.holds i s = true) (hk : owner[s]? = some k) (hs : o.content s = some e) :
    Stored owner ({ o with fleet := o.fleet.close e.handle }.fill s none) := by
  obtain ⟨b, hroll⟩ := st.roll_of_content (st.current_of_content hs hk) hs
  refine (st.close e.handle).empty hl ?_
  intro e' he'
  obtain rfl : e = e' := Option.some.inj (hs.symm.trans he')
  exact ⟨k, Fleet.roll_close_self hroll⟩

/-- A call closes what a slot holds that it has locked, and will drop the slot. -/
theorem advances_clear {c c' : Call} {k : ClusterKey} {s : Nat} {e : PooledHandle}
    (st : Stored owner o) (hl : o.holds i s = true) (hk : owner[s]? = some k)
    (hs : o.content s = some e)
    (fits : ∀ o₁, o₁.Owns i k s → o₁.content s = none → Fits owner o₁ i c')
    (connects : ∀ k, c'.connects k = c.connects k) (working : c'.working? = none)
    (drops : ∀ k' t, c.Drops k' t → t ≠ s → c'.Drops k' t) :
    Advances owner i c o
      (({ o with fleet := o.fleet.close e.handle }.fill s none).setCall i c') := by
  let core : PoolCore := { o.toPoolCore with fleet := o.fleet.close e.handle }
  have hempty : ((o.setCore core).fill s none).content s = none :=
    content_fill_self (o := o.setCore core) hl none
  refine advances_beside rfl (.setCore_fill hl core (o.fleet.follows_close _) none)
    (stored_clear st hl hk hs)
    (fits _ ⟨(holds_fill ..).trans hl, st.current_of_content hs hk⟩ hempty)
    (.of_same (o.fleet.asked_close _) (o.fleet.keys_close _) rfl connects) working
    (fun _ _ h => h) rfl ?_ ?_
  · intro t ht
    by_cases hst : s = t
    · subst hst
      exact absurd hempty ht
    · rw [content_fill_ne _ hst] at ht
      exact ht
  · intro k' t hd _
    by_cases hst : t = s
    · subst hst
      exact .inr ⟨hempty, hl⟩
    · exact .inl (drops k' t hd hst)

/-- Every step of a call that drops slots. -/
theorem advances_stepEvict {ks : List ClusterKey} {stage : EvictStage} (st : Stored owner o)
    (fits : Fits owner o i (.evict ks stage)) (h : o.stepEvict i ks stage = some o') :
    Advances owner i (.evict ks stage) o o' := by
  cases ks with
  | nil => cases stage <;> cases h
  | cons k ks =>
    cases stage with
    | next =>
      simp only [stepEvict] at h
      split at h <;> cases h
      · rename_i hnone
        refine advances_alone st (by cases ks <;> trivial) (fun _ => rfl) rfl fun k' t hd ht => ?_
        rcases List.mem_cons.mp hd with rfl | hd
        · rw [hnone] at ht
          cases ht
        · exact hd
      · rename_i s hsome
        refine advances_request st s (st.current k s hsome) (fun _ => rfl) rfl fun k' t hd ht => ?_
        rcases List.mem_cons.mp hd with rfl | hd
        · exact .inl (Option.some.inj (hsome.symm.trans ht))
        · exact .inr hd
    | waiting s =>
      simp only [stepEvict] at h
      split at h
      · rename_i hl
        split at h <;> cases h
        · rename_i e hsome
          refine advances_clear st hl fits hsome (fun _ howns hnone => ⟨howns, hnone⟩)
            (fun _ => rfl) rfl fun k' t hd hne => ?_
          exact hd.resolve_left fun he => hne he.symm
        · rename_i hnone
          refine advances_drop o.toPoolCore st hl hnone rfl rfl rfl
            (fun _ => by cases ks <;> trivial) (fun _ => rfl) rfl fun k' t hd hne ht => ?_
          refine hd.resolve_left ?_
          rintro rfl
          have howner := st.current k' s ht
          rw [show owner[s]? = some k from fits] at howner
          cases howner
          exact hne ⟨rfl, rfl⟩
      · cases h
    | closing s =>
      obtain ⟨howns, hnone⟩ := fits
      cases h
      exact advances_drop o.countEvicted st howns.1 hnone rfl rfl rfl
        (fun _ => by cases ks <;> trivial) (fun _ => rfl) rfl fun k' t hd _ _ => hd

/-- What a call does once it has asked for a lock, it does from where it asked. -/
theorem Advances.of_request {c : Call} {s : Nat}
    (h : Advances owner i c (o.update s (Slot.request i)) o') (drops : ∀ k t, ¬c.Drops k t) :
    Advances owner i c o o' := by
  obtain ⟨c', o₁, owner', he, a⟩ := h
  refine ⟨c', o₁, owner', he, a.owners, a.calls, (Respects.request i o s).trans a.respects,
    a.stored, a.fits, ⟨a.balanced.low, a.balanced.high⟩, ?_, a.closing.disposed, a.closing.begun, ?_,
    fun k t hd => absurd hd (drops k t)⟩
  · intro k t ht hlt
    exact a.closing.slots k t ht ((o.length_update s _).symm ▸ hlt)
  · intro hd t ht
    have hot := a.closing.hot hd t ht
    rwa [content_request] at hot

/-- A lock that nobody has goes to the first who asks. -/
theorem holds_request {s : Nat} {e : PooledHandle} (hfree : ∀ j, o.holds j s = false)
    (hs : o.content s = some e) : (o.update s (Slot.request i)).holds i s = true := by
  obtain ⟨x, hx, -⟩ := Option.bind_eq_some_iff.mp hs
  have hnone : x.holder = none := by
    rw [Option.eq_none_iff_forall_not_mem]
    intro j hj
    have hheld := (o.holds_iff j s).mpr ⟨x, hx, hj⟩
    rw [hfree j] at hheld
    cases hheld
  rw [holds_iff, slots_update, hx]
  exact ⟨_, rfl, by simp [Slot.request, hnone]⟩

/-- A slot that is to be dropped for idleness is one whose lock nobody has. -/
theorem holds_of_idle {s : Nat}
    (h : ¬((o.slots[s]?).any (·.holder.isSome) || !o.isIdle (o.content s)) = true) (j : Nat) :
    o.holds j s = false := by
  cases hj : o.holds j s with
  | false => rfl
  | true =>
    obtain ⟨x, hx, hxj⟩ := (o.holds_iff j s).mp hj
    simp [hx, hxj] at h

/-- Every step of a call that looks for idle handles. It takes the lock of a slot only if it is
free. -/
theorem advances_stepReap {stage : ReapStage} (st : Stored owner o)
    (fits : Fits owner o i (.reap stage)) (h : o.stepReap i stage = some o') :
    Advances owner i (.reap stage) o o' := by
  cases stage with
  | asked =>
    cases h
    refine advances_alone st ?_ (fun _ => rfl) rfl fun _ _ hd _ => absurd hd id
    intro x hx
    exact st.current x.1 x.2 ((Table.find?_eq_some_iff o.current x.1 x.2).mpr hx)
  | looking left closed =>
    cases left with
    | nil => cases h
    | cons x left =>
      obtain ⟨k, s⟩ := x
      have hk : owner[s]? = some k := fits (k, s) (by simp)
      have hleft : ∀ x ∈ left, owner[x.2]? = some x.1 := fun x hx => fits x (by simp [hx])
      simp only [stepReap] at h
      split at h
      · cases h
        exact advances_alone st hleft (fun _ => rfl) rfl fun _ _ hd _ => absurd hd id
      · rename_i hbusy
        have hfree : ∀ j, o.holds j s = false := fun j => holds_of_idle hbusy j
        split at h <;> cases h
        · rename_i e hsome
          exact .of_request (advances_clear (st.request s i) (holds_request hfree hsome) hk
            ((o.content_request s i s).trans hsome) (fun _ howns hnone => ⟨⟨howns, hnone⟩, hleft⟩)
            (fun _ => rfl) rfl fun _ _ hd _ => absurd hd id) fun _ _ => id
        · rename_i hnone
          refine advances_beside (calls_forget ..) (.forget o k s fun j _ => hfree j)
            (st.forget hnone k) hleft ?_ rfl (fun _ _ h => (current_of_forget h).1) ?_ ?_
            fun _ _ hd _ => absurd hd id
          · exact .of_same (by rw [toPoolCore_forget]) (by rw [toPoolCore_forget])
              (by rw [toPoolCore_forget]) fun _ => rfl
          · rw [toPoolCore_forget]
          · intro t ht
            rwa [content_forget] at ht
  | closing k s left closed =>
    obtain ⟨⟨howns, hnone⟩, hleft⟩ := fits
    cases h
    exact advances_drop o.countEvicted st howns.1 hnone rfl rfl rfl (fun _ => hleft)
      (fun _ => rfl) rfl fun _ _ hd _ _ => absurd hd id

/-- Disposing of a pool sets out to drop every slot that there is, the first time. -/
theorem advances_dispose (st : Stored owner o)
    (h : (if o.disposed then some (o.setCall i (.evict [] .next))
      else some ({ o with disposed := true }.setCall i (.evict o.current.keys .next))) = some o') :
    Advances owner i .dispose o o' := by
  split at h <;> cases h
  · exact advances_alone st trivial (fun _ => rfl) rfl fun _ _ hd _ => absurd hd id
  · let core : PoolCore := { o.toPoolCore with disposed := true }
    refine ⟨_, o.setCore core, owner, rfl, List.prefix_refl _, rfl, .setCore i o core (.refl _),
      st.setCore core rfl, ?_, .of_same rfl rfl rfl fun _ => rfl, fun _ _ h _ => h, fun _ => rfl,
      ?_, fun _ => hot_of_content (fun _ => rfl) fun _ h => h, fun _ _ hd => absurd hd id⟩
    · cases o.current.keys <;> trivial
    · intro _ _ k s hk
      exact Table.mem_keys_of_find? hk

/-- Every step of every call keeps the pool in order. -/
theorem advances_step {c : Call} (g : Guarded owner o) (hc : o.calls[i]? = some c)
    (h : o.step i = some o') : Advances owner i c o o' := by
  have fits := g.fits i c hc
  simp only [step, hc] at h
  cases c with
  | get c stage => exact advances_stepGet g.stored fits h
  | mark c stage => exact advances_stepMark g.stored h
  | evict ks stage => exact advances_stepEvict g.stored fits h
  | invalidateConnection connection =>
    cases h
    refine advances_alone g.stored ?_ (fun _ => rfl) rfl fun _ _ hd _ => absurd hd id
    cases o.current.keys.filter (·.connectionId = connection) <;> trivial
  | dispose => exact advances_dispose g.stored h
  | reap stage => exact advances_stepReap g.stored fits h

end

end ClusterAdmin.Pool.Overlap
