import ClusterAdmin.Fleet

namespace ClusterAdmin

/-- A direct cluster behind one server. -/
def Cluster.behind (connectionId clusterId server : String) : Cluster :=
  ⟨connectionId, clusterId, .selfHostedDirect, [server], none, .nativeSockets⟩

/-- The cluster that a request asks to be connected to. -/
def Request.connected? : Request → Option ClusterKey
  | .connect t => some t.key
  | _ => none

/-- The handle that a request closes. -/
def Request.closed? : Request → Option Nat
  | .close h => some h
  | _ => none

namespace Fleet

/-- For each handle its cluster, and whether it is closed. -/
def roll (f : Fleet) : List (ClusterKey × Bool) := f.handles.map fun x => (x.key, x.closed)

/-- The clusters that connections were asked for, in order. -/
def asked (f : Fleet) : List ClusterKey := f.log.filterMap Request.connected?

/-- The handles that were closed, in order. -/
def closings (f : Fleet) : List Nat := f.log.filterMap Request.closed?

theorem roll_getElem? (f : Fleet) (h : Nat) :
    f.roll[h]? = (f.handles[h]?).map fun x => (x.key, x.closed) := by
  simp [roll]

/-- Nothing was opened, closed or asked to be opened between two fleets. -/
structure Alike (f f' : Fleet) : Prop where
  roll : f'.roll = f.roll
  asked : f'.asked = f.asked
  closings : f'.closings = f.closings

theorem Alike.refl (f : Fleet) : Alike f f := ⟨rfl, rfl, rfl⟩

theorem Alike.trans {f g h : Fleet} (a : Alike f g) (b : Alike g h) : Alike f h :=
  ⟨b.roll.trans a.roll, b.asked.trans a.asked, b.closings.trans a.closings⟩

/-- A request that neither opens nor closes. -/
theorem alike_record (f : Fleet) {r : Request} (ho : r.connected? = none) (hc : r.closed? = none) :
    Alike f (f.record r) :=
  ⟨rfl, by simp [Fleet.asked, record, ho], by simp [Fleet.closings, record, hc]⟩

/-- A change of a handle that leaves it open or closed as it was. -/
theorem alike_update (f : Fleet) (h : Nat) {change : Handle → Handle}
    (hk : ∀ x, (change x).key = x.key) (hc : ∀ x, (change x).closed = x.closed) :
    Alike f (f.update h change) := by
  refine ⟨?_, rfl, rfl⟩
  apply List.ext_getElem?
  intro i
  simp only [roll_getElem?, update, List.getElem?_modify, Option.map_eq_map, Option.map_map]
  congr 1
  funext x
  by_cases he : h = i <;> simp [he, hk, hc]

theorem alike_drop (f : Fleet) (h : Nat) : Alike f (f.drop h) :=
  alike_update f h (fun _ => rfl) fun _ => rfl

theorem alike_setReconnectFault (f : Fleet) (h : Nat) (fault : Option Failure) :
    Alike f (f.setReconnectFault h fault) :=
  alike_update f h (fun _ => rfl) fun _ => rfl

theorem alike_reaccept {f f' : Fleet} {h : Nat} {r : Except Failure Unit}
    (hr : f.reaccept h = (r, f')) : Alike f f' := by
  simp only [reaccept] at hr
  split at hr <;> cases hr
  · exact .refl f
  · exact alike_update f h (fun _ => rfl) fun _ => rfl

theorem alike_reconnect {f f' : Fleet} {h : Nat} {r : Except Failure Unit}
    (hr : f.reconnect h = (r, f')) : Alike f f' :=
  (alike_record f (r := .reconnect h) rfl rfl).trans (alike_reaccept hr)

theorem alike_describeAcls (f : Fleet) (h : Nat) (filter : AclFilter) :
    Alike f (f.describeAcls h filter).2 := by
  have hr := alike_record f (r := .describeAcls h filter) rfl rfl
  simp only [describeAcls]
  split <;> exact ⟨hr.roll, hr.asked, hr.closings⟩

theorem alike_metadata (f : Fleet) (h : Nat) (topics : Option (List String)) :
    Alike f (f.metadata h topics).2 := by
  have hr := alike_record f (r := .metadata h topics) rfl rfl
  simp only [metadata]
  split <;> exact ⟨hr.roll, hr.asked, hr.closings⟩

theorem alike_createTopics (f : Fleet) (h : Nat) (topics : List NewTopic) (validateOnly : Bool) :
    Alike f (f.createTopics h topics validateOnly).2 := by
  have hr := alike_record f (r := .createTopics h topics validateOnly) rfl rfl
  simp only [createTopics]
  split <;> exact ⟨hr.roll, hr.asked, hr.closings⟩

theorem alike_deleteTopics (f : Fleet) (h : Nat) (names : List String) :
    Alike f (f.deleteTopics h names).2 := by
  have hr := alike_record f (r := .deleteTopics h names) rfl rfl
  simp only [deleteTopics]
  split <;> exact ⟨hr.roll, hr.asked, hr.closings⟩

theorem asked_connect (f : Fleet) (t : Target) :
    (f.record (.connect t)).asked = f.asked ++ [t.key] := by
  simp [asked, record, Request.connected?]

theorem closings_connect (f : Fleet) (t : Target) :
    (f.record (.connect t)).closings = f.closings := by
  simp [closings, record, Request.closed?]

/-- A connection that fails opens nothing. -/
theorem alike_accept {f f' : Fleet} {t : Target} {e : Failure}
    (h : f.accept t = (.error e, f')) : Alike f f' := by
  simp only [accept] at h
  split at h <;> cases h
  exact ⟨rfl, rfl, rfl⟩

/-- A connection that succeeds adds one open handle, for the cluster that it was asked for. -/
theorem accept_ok {f f' : Fleet} {t : Target} {n : Nat} (h : f.accept t = (.ok n, f')) :
    n = f.roll.length ∧ f'.roll = f.roll ++ [(t.key, false)] ∧ f'.asked = f.asked ∧
      f'.closings = f.closings := by
  simp only [accept] at h
  split at h <;> cases h
  all_goals exact ⟨by simp [roll], by simp [roll], rfl, rfl⟩

theorem roll_close (f : Fleet) (h : Nat) :
    (f.close h).roll = f.roll.modify h fun x => (x.1, true) := by
  apply List.ext_getElem?
  intro i
  simp only [roll_getElem?, close, update, record, List.getElem?_modify, Option.map_eq_map,
    Option.map_map]
  congr 1
  funext x
  by_cases he : h = i <;> simp [he]

theorem asked_close (f : Fleet) (h : Nat) : (f.close h).asked = f.asked := by
  simp [asked, close, update, record, Request.connected?]

theorem closings_close (f : Fleet) (h : Nat) : (f.close h).closings = f.closings ++ [h] := by
  simp [closings, close, update, record, Request.closed?]

/-- Closing one handle changes no other. -/
theorem roll_close_ne (f : Fleet) {h i : Nat} (hne : h ≠ i) :
    (f.close h).roll[i]? = f.roll[i]? := by
  rw [roll_close, List.getElem?_modify_ne _ _ hne]

theorem roll_close_self {f : Fleet} {h : Nat} {k : ClusterKey} {b : Bool}
    (hf : f.roll[h]? = some (k, b)) : (f.close h).roll[h]? = some (k, true) := by
  rw [roll_close, List.getElem?_modify_eq, hf]
  rfl

theorem keys_close (f : Fleet) (h : Nat) : (f.close h).roll.map (·.1) = f.roll.map (·.1) := by
  rw [roll_close]
  apply List.ext_getElem?
  intro i
  simp only [List.getElem?_map, List.getElem?_modify, Option.map_eq_map, Option.map_map]
  congr 1
  funext x
  by_cases hi : h = i <;> simp [hi]

/-- Closing an open handle makes the closed ones one more. -/
theorem countP_closed_close {f : Fleet} {h : Nat} {k : ClusterKey}
    (hf : f.roll[h]? = some (k, false)) :
    (f.close h).roll.countP (·.2) = f.roll.countP (·.2) + 1 := by
  obtain ⟨hl, he⟩ := List.getElem?_eq_some_iff.mp hf
  have hset : (f.close h).roll = f.roll.set h (k, true) := by
    rw [roll_close]
    apply List.ext_getElem?
    intro i
    rw [List.getElem?_modify, List.getElem?_set]
    by_cases hi : h = i
    · subst hi
      simp [hl, he]
    · simp [hi]
  rw [hset, List.countP_set hl, he]
  simp

/-- Handles stay those of their clusters, and closed ones stay closed. -/
def Follows (f f' : Fleet) : Prop :=
  ∀ (h : Nat) (k : ClusterKey) (b : Bool), f.roll[h]? = some (k, b) →
    ∃ b', f'.roll[h]? = some (k, b') ∧ (b = true → b' = true)

theorem Follows.refl (f : Fleet) : f.Follows f := fun _ _ b h => ⟨b, h, id⟩

theorem Follows.trans {f g h : Fleet} (a : f.Follows g) (b : g.Follows h) : f.Follows h := by
  intro i k x hx
  obtain ⟨y, hy, hxy⟩ := a i k x hx
  obtain ⟨z, hz, hyz⟩ := b i k y hy
  exact ⟨z, hz, fun ht => hyz (hxy ht)⟩

theorem Alike.follows {f f' : Fleet} (a : Alike f f') : f.Follows f' :=
  fun _ _ b h => ⟨b, a.roll ▸ h, id⟩

theorem follows_close (f : Fleet) (h : Nat) : f.Follows (f.close h) := by
  intro i k b hb
  by_cases hi : h = i
  · subst hi
    exact ⟨true, roll_close_self hb, fun _ => rfl⟩
  · exact ⟨b, (f.roll_close_ne hi).trans hb, id⟩

theorem follows_accept {f f' : Fleet} {t : Target} {n : Nat} (h : f.accept t = (.ok n, f')) :
    f.Follows f' := by
  intro i k b hb
  refine ⟨b, ?_, id⟩
  rw [(accept_ok h).2.1, List.getElem?_append_left (List.getElem?_eq_some_iff.mp hb).1]
  exact hb

end Fleet

end ClusterAdmin
