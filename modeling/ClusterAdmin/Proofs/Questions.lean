import Mathlib.Data.List.Basic
import ClusterAdmin.Proofs.Runs

namespace ClusterAdmin

namespace Fleet

/-- The cluster that a handle was opened for. -/
def key? (f : Fleet) (h : Nat) : Option ClusterKey := (f.handles[h]?).map (·.key)

theorem key?_eq (f : Fleet) (h : Nat) : f.key? h = (f.roll[h]?).map (·.1) := by
  rw [key?, roll_getElem?, Option.map_map]
  rfl

/-- The questions about rules so far, each with the handle it went over. -/
def questions (f : Fleet) : List (Nat × AclFilter) :=
  f.log.filterMap fun
    | .describeAcls h filter => some (h, filter)
    | _ => none

/-- A question about rules and its answer. -/
structure Exchange where
  handle : Nat
  filter : AclFilter
  answer : Except Failure AclListing

/-- Questions answered in turn, and by an empty list once no prepared answer is left. -/
def exchanges : List (Nat × AclFilter) → List (Except Failure AclListing) → List Exchange
  | [], _ => []
  | q :: qs, [] => ⟨q.1, q.2, .ok ⟨0, none, []⟩⟩ :: exchanges qs []
  | q :: qs, a :: as => ⟨q.1, q.2, a⟩ :: exchanges qs as

/-- What was asked about rules between two fleets, with the answers. -/
def heard (f f' : Fleet) : List Exchange :=
  exchanges (f'.questions.drop f.questions.length) f.describes

/-- An exchange as an answer about a topic of a cluster. -/
def reply? (f : Fleet) (x : Exchange) : Option (Acl.TopicKey × Except Failure AclListing) :=
  (f.key? x.handle).bind fun k => x.filter.name.map fun topic => (⟨k, topic⟩, x.answer)

/-- What brokers answered about topics between two fleets. -/
def replies (f f' : Fleet) : List (Acl.TopicKey × Except Failure AclListing) :=
  (heard f f').filterMap f'.reply?

/-- No rules were asked for between two fleets, and no handle became another cluster's. -/
structure Quiet (f f' : Fleet) : Prop where
  questions : f'.questions = f.questions
  describes : f'.describes = f.describes
  key : ∀ h k, f.key? h = some k → f'.key? h = some k

theorem Quiet.refl (f : Fleet) : Quiet f f := ⟨rfl, rfl, fun _ _ h => h⟩

theorem Quiet.trans {f g h : Fleet} (a : Quiet f g) (b : Quiet g h) : Quiet f h :=
  ⟨b.questions.trans a.questions, b.describes.trans a.describes,
    fun i k hk => b.key i k (a.key i k hk)⟩

theorem quiet_update (f : Fleet) (h : Nat) (change : Handle → Handle)
    (hk : ∀ x, (change x).key = x.key) : Quiet f (f.update h change) := by
  refine ⟨rfl, rfl, ?_⟩
  intro i k hi
  rw [← hi]
  simp only [key?, update, List.getElem?_modify, Option.map_eq_map, Option.map_map]
  congr 1
  funext x
  by_cases he : h = i <;> simp [he, hk]

theorem quiet_connect {f f' : Fleet} {t : Target} {r : Except Failure Nat}
    (h : f.connect t = (r, f')) : Quiet f f' := by
  have hq : (f.record (.connect t)).questions = f.questions := by simp [questions, record]
  simp only [connect, accept] at h
  split at h <;> cases h
  · exact ⟨hq, rfl, fun _ _ hk => hk⟩
  all_goals
    refine ⟨hq, rfl, ?_⟩
    intro i k hk
    obtain ⟨x, hx, rfl⟩ := Option.map_eq_some_iff.mp hk
    have hlt := (List.getElem?_eq_some_iff.mp hx).1
    simp [key?, record, List.getElem?_append_left hlt, hx]

theorem quiet_reconnect {f f' : Fleet} {h : Nat} {r : Except Failure Unit}
    (hr : f.reconnect h = (r, f')) : Quiet f f' := by
  have hq : (f.record (.reconnect h)).questions = f.questions := by simp [questions, record]
  simp only [reconnect, reaccept] at hr
  split at hr <;> cases hr
  · exact ⟨hq, rfl, fun _ _ hk => hk⟩
  · have hu := quiet_update (f.record (.reconnect h)) h
      (fun x => { x with connected := true }) fun _ => rfl
    exact ⟨hu.questions.trans hq, rfl, hu.key⟩

theorem quiet_close (f : Fleet) (h : Nat) : Quiet f (f.close h) := by
  have hq : (f.record (.close h)).questions = f.questions := by simp [questions, record]
  have hu := quiet_update (f.record (.close h)) h
    (fun x => { x with connected := false, closed := true }) fun _ => rfl
  exact ⟨hu.questions.trans hq, rfl, hu.key⟩

/-- Further questions were put, and as many of the prepared answers used. -/
structure Hears (f : Fleet) (qs : List (Nat × AclFilter)) (f' : Fleet) : Prop where
  questions : f'.questions = f.questions ++ qs
  describes : f'.describes = f.describes.drop qs.length
  key : ∀ h k, f.key? h = some k → f'.key? h = some k

theorem Quiet.hears {f f' : Fleet} (h : Quiet f f') : Hears f [] f' :=
  ⟨by simp [h.questions], by simp [h.describes], h.key⟩

theorem Hears.trans {f g h : Fleet} {qs rs : List (Nat × AclFilter)} (a : Hears f qs g)
    (b : Hears g rs h) : Hears f (qs ++ rs) h := by
  refine ⟨?_, ?_, fun i k hk => b.key i k (a.key i k hk)⟩
  · rw [b.questions, a.questions, List.append_assoc]
  · rw [b.describes, a.describes, List.drop_drop, List.length_append]

theorem hears_describeAcls (f : Fleet) (h : Nat) (filter : AclFilter) :
    Hears f [(h, filter)] (f.describeAcls h filter).2 := by
  have hq : (f.record (.describeAcls h filter)).questions = f.questions ++ [(h, filter)] := by
    simp [questions, record]
  simp only [describeAcls]
  split
  · rename_i hd
    exact ⟨hq, by rw [show f.describes = _ from hd]; rfl, fun _ _ hk => hk⟩
  · rename_i hd
    exact ⟨hq, by rw [show f.describes = _ from hd]; exact hd, fun _ _ hk => hk⟩

theorem Hears.heard {f f' : Fleet} {qs : List (Nat × AclFilter)} (h : Hears f qs f') :
    heard f f' = exchanges qs f.describes := by
  rw [Fleet.heard, h.questions, List.drop_left]

theorem exchanges_append (qs rs : List (Nat × AclFilter))
    (as : List (Except Failure AclListing)) :
    exchanges (qs ++ rs) as = exchanges qs as ++ exchanges rs (as.drop qs.length) := by
  induction qs generalizing as with
  | nil => rfl
  | cons q qs ih =>
    cases as with
    | nil => simp [exchanges, ih]
    | cons a as => simp [exchanges, ih]

theorem handle_of_mem_exchanges {qs : List (Nat × AclFilter)}
    {as : List (Except Failure AclListing)} {x : Exchange} (hx : x ∈ exchanges qs as) :
    ∃ q ∈ qs, q.1 = x.handle := by
  induction qs generalizing as with
  | nil => simp [exchanges] at hx
  | cons q qs ih =>
    cases as with
    | nil =>
      rcases List.mem_cons.mp hx with rfl | hx
      · exact ⟨q, by simp, rfl⟩
      · obtain ⟨r, hr, he⟩ := ih hx
        exact ⟨r, by simp [hr], he⟩
    | cons a as =>
      rcases List.mem_cons.mp hx with rfl | hx
      · exact ⟨q, by simp, rfl⟩
      · obtain ⟨r, hr, he⟩ := ih hx
        exact ⟨r, by simp [hr], he⟩

/-- What is heard in two stretches is heard in the whole, if the first went over known handles. -/
theorem Hears.replies_append {f g h : Fleet} {qs rs : List (Nat × AclFilter)} (a : Hears f qs g)
    (b : Hears g rs h) (known : ∀ q ∈ qs, ∃ k, g.key? q.1 = some k) :
    replies f h = replies f g ++ replies g h := by
  simp only [replies, (a.trans b).heard, a.heard, b.heard, exchanges_append, List.filterMap_append,
    a.describes]
  congr 1
  apply List.filterMap_congr
  intro x hx
  obtain ⟨q, hq, he⟩ := handle_of_mem_exchanges hx
  obtain ⟨k, hk⟩ := known q hq
  rw [he] at hk
  rw [reply?, reply?, b.key _ _ hk, hk]

theorem Quiet.replies {f f' : Fleet} (h : Quiet f f') : replies f f' = [] := by
  simp [Fleet.replies, h.hears.heard, exchanges]

end Fleet

namespace Pool

theorem quiet_openInto (p : Pool) (c : Cluster) : p.fleet.Quiet (p.openInto c).2.fleet := by
  rcases p.openInto_cases c with ⟨f, _, h⟩ | ⟨t, f, fleet, _, hc, h⟩ | ⟨t, n, fleet, _, hc, h⟩
  · rw [h]
    exact .refl _
  · rw [h]
    exact Fleet.quiet_connect hc
  · rw [h]
    exact Fleet.quiet_connect hc

/-- Asking for a handle asks for no rules. -/
theorem quiet_getHandle (p : Pool) (c : Cluster) : p.fleet.Quiet (p.getHandle c).2.fleet := by
  rcases p.getHandle_cases c with ⟨f, h⟩ | ⟨_, h⟩ | ⟨e, _, h | ⟨fleet, hr, h⟩ | ⟨f, fleet, hr, h⟩⟩
  · rw [h]
    exact .refl _
  · rw [h]
    exact quiet_openInto (p.setSlot c.key none) c
  · rw [h]
    exact .refl _
  · rw [h]
    exact Fleet.quiet_reconnect hr
  · rw [h]
    have hq := (Fleet.quiet_reconnect hr).trans (Fleet.quiet_close fleet e.handle)
    exact hq.trans (quiet_openInto ({ p with fleet }.discard c.key e) c)

theorem key_openInto {p q : Pool} {c : Cluster} {n : Nat} (h : p.openInto c = (.ok n, q)) :
    q.fleet.key? n = some c.key := by
  rcases p.openInto_cases c with ⟨f, _, he⟩ | ⟨t, f, fleet, _, hc, he⟩ | ⟨t, m, fleet, ht, hc, he⟩
  · rw [he] at h
    cases h
  · rw [he] at h
    cases h
  · rw [he] at h
    cases h
    obtain ⟨hn, hroll, _, _⟩ := Fleet.accept_ok hc
    change fleet.key? n = some c.key
    rw [Fleet.key?_eq, hroll, hn, List.getElem?_concat_length, Target.key_ofCluster ht]
    rfl

/-- The handle that is handed out for a cluster was opened for that cluster. -/
theorem Accounted.key_getHandle {p q : Pool} (a : p.Accounted) {c : Cluster} {n : Nat}
    (h : p.getHandle c = (.ok n, q)) : q.fleet.key? n = some c.key := by
  have hq := p.quiet_getHandle c
  rw [h] at hq
  rcases p.getHandle_cases c with
    ⟨f, he⟩ | ⟨_, he⟩ | ⟨e, hk, he | ⟨fleet, _, he⟩ | ⟨f, fleet, _, he⟩⟩
  · rw [he] at h
    cases h
  · rw [he] at h
    exact key_openInto h
  · obtain rfl : e.handle = n := by
      rw [he] at h
      cases h
      rfl
    exact hq.key _ _ (by rw [Fleet.key?_eq, a.held _ _ hk]; rfl)
  · obtain rfl : e.handle = n := by
      rw [he] at h
      cases h
      rfl
    exact hq.key _ _ (by rw [Fleet.key?_eq, a.held _ _ hk]; rfl)
  · rw [he] at h
    exact key_openInto h

end Pool

end ClusterAdmin
