import ClusterAdmin.Proofs.Runs

namespace ClusterAdmin

/-- How many handles were handed out in all. -/
def handouts : List Moment → Nat
  | [] => 0
  | m :: past => m.before.grants m.action + handouts past

theorem handouts_concat (past : List Moment) (m : Moment) :
    handouts (past ++ [m]) = handouts past + m.before.grants m.action := by
  induction past with
  | nil => simp [handouts]
  | cons m' past ih =>
    simp only [List.cons_append, handouts, ih]
    omega

namespace Run

variable {past : List Moment} {s : Services}

/-- The counters of a pool grow by one with each handle that is handed out. -/
theorem granted (run : Run past s) : s.pool.stats.granted = handouts past := by
  induction run with
  | start started =>
    rw [(Services.start_ok started).1]
    rfl
  | act run a ih => rw [handouts_concat, (Services.moves_act _ a).granted, ih]

end Run

namespace Fleet

theorem count_closings (f : Fleet) (h : Nat) : f.closings.count h = f.log.count (.close h) := by
  rw [closings, List.count_filterMap, List.count_eq_countP]
  congr 1
  funext r
  rw [Bool.eq_iff_iff]
  cases r <;> simp [Request.closed?]

theorem length_asked (f : Fleet) : f.asked.length = f.log.countP (·.connected?.isSome) :=
  List.length_filterMap_eq_countP

/-- Handles are open or closed. -/
theorem length_handles (f : Fleet) :
    f.handles.length = f.handles.countP (·.closed) + f.handles.countP (!·.closed) := by
  rw [List.length_eq_countP_add_countP (·.closed)]
  simp

end Fleet

/-- Every handle ever made is closed, and was closed once, or lies in exactly the slot of the
cluster that it was opened for. The handles opened are those evicted and those in slots, every
connection asked for was opened or failed, and every handle given out was reused, reconnected or
opened. -/
theorem handles_conserved {past : List Moment} {s : Services} (run : Run past s) :
    (∀ h x, s.pool.fleet.handles[h]? = some x →
      (x.closed = true ∧ s.pool.fleet.log.count (.close h) = 1 ∧
        ∀ k e, s.pool.held k = some e → e.handle ≠ h) ∨
      (x.closed = false ∧ s.pool.fleet.log.count (.close h) = 0 ∧
        ∀ k, (∃ e, s.pool.held k = some e ∧ e.handle = h) ↔ k = x.key)) ∧
    s.pool.stats.opened =
      s.pool.stats.evicted + s.pool.fleet.handles.countP (!·.closed) ∧
    s.pool.openCount = s.pool.fleet.handles.countP (!·.closed) ∧
    s.pool.fleet.log.countP (·.connected?.isSome) =
      s.pool.stats.opened + s.pool.stats.openFailures ∧
    handouts past = s.pool.stats.reused + s.pool.stats.reconnected + s.pool.stats.opened := by
  have a := run.accounted
  refine ⟨?_, ?_, ?_, ?_, ?_⟩
  · intro h x hx
    have hroll : s.pool.fleet.roll[h]? = some (x.key, x.closed) := by
      rw [Fleet.roll_getElem?, hx]
      rfl
    have hcount := a.closings h
    rw [Fleet.count_closings, hroll] at hcount
    cases hc : x.closed with
    | true =>
      rw [hc] at hroll hcount
      refine .inl ⟨rfl, hcount, ?_⟩
      rintro k e he rfl
      rw [a.held k e he] at hroll
      simp at hroll
    | false =>
      rw [hc] at hroll hcount
      refine .inr ⟨rfl, hcount, fun k => ⟨?_, ?_⟩⟩
      · rintro ⟨e, he, rfl⟩
        rw [a.held k e he] at hroll
        simpa using hroll
      · rintro rfl
        exact a.kept _ h hroll
  · have hopened := a.opened
    have hevicted := a.evicted
    rw [Fleet.roll, List.length_map, Fleet.length_handles] at hopened
    rw [Fleet.roll, List.countP_map] at hevicted
    rw [hopened, hevicted]
    rfl
  · rw [a.openCount_eq, Fleet.roll, List.countP_map]
    rfl
  · rw [← Fleet.length_asked]
    exact a.asked
  · exact run.granted.symm

/-- A handle that dropped and could not be reconnected is closed once; the one opened in its place
is in the slot. -/
theorem handles_conserved_replacing :
    let c := Cluster.behind "conn" "main" "localhost:9092"
    let calls := [.getHandle c, .dropHandle 0,
      .setReconnectFault 0 (some (Failure.transient "Connection refused")), .getHandle c]
    let s := calls.foldl Services.act .idle
    s.pool.fleet.log.count (.close 0) = 1 ∧
      (∀ k, (∃ e, s.pool.held k = some e ∧ e.handle = 1) ↔ k = c.key) ∧
      s.pool.stats.opened = s.pool.stats.evicted + s.pool.openCount ∧
      handouts (moments .idle calls) = 2 := by
  intro c calls s
  obtain ⟨handles, opened, count, -, given⟩ := handles_conserved (Run.idle.acts calls)
  have hclosed : s.pool.fleet.handles[0]? =
      some ⟨c.key, false, true, some (Failure.transient "Connection refused")⟩ := by decide
  have hopen : s.pool.fleet.handles[1]? = some ⟨c.key, true, false, none⟩ := by decide
  refine ⟨?_, ?_, opened.trans (by rw [count]), given.trans (by decide)⟩
  · rcases handles 0 _ hclosed with ⟨-, hcount, -⟩ | ⟨h, -⟩
    · exact hcount
    · cases h
  · rcases handles 1 _ hopen with ⟨h, -⟩ | ⟨-, -, hheld⟩
    · cases h
    · exact hheld

end ClusterAdmin
