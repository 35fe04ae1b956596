import ClusterAdmin.Proofs.Standings

namespace ClusterAdmin.Wire

/-- A call of a client. -/
inductive Call where
  | describeAcls (filter : AclFilter)
  | metadata (topics : Option (List String))
  | createTopics (topics : List NewTopic) (validateOnly : Bool)
  | deleteTopics (names : List String)
  | reconnect
  | close
  deriving DecidableEq, Repr

/-- What a call gives. -/
inductive Value where
  | acls (listing : AclListing)
  | metadata (content : ClusterMetadata)
  | topics (outcomes : List TopicOutcome)
  | nothing
  deriving DecidableEq, Repr

namespace Call

/-- The request that a call sends. -/
def request? (settings : NativeConfig) : Call → Option Request
  | describeAcls filter => some (.describeAcls filter)
  | metadata topics => some (.metadata topics)
  | createTopics topics validateOnly =>
    some (.createTopics topics settings.topicOperationTimeoutMs validateOnly)
  | deleteTopics names => some (.deleteTopics names settings.topicOperationTimeoutMs)
  | reconnect | close => none

/-- How a call takes the body of an answer. -/
def reader : Call → Reader Value
  | describeAcls _ => (fun a => .acls a.content) <$> AclsAnswer.read
  | metadata _ => (fun a => .metadata a.content) <$> MetadataAnswer.read
  | createTopics _ _ => (fun a => .topics a.content) <$> CreationAnswer.read
  | deleteTopics _ => (fun a => .topics a.content) <$> DeletionAnswer.read
  | reconnect | close => pure .nothing

theorem admin_of_request {settings : NativeConfig} {k : Call} {r : Request}
    (hr : k.request? settings = some r) : r.isAdmin = true := by
  cases k <;> cases hr <;> rfl

end Call

theorem map_eq_ok {α β : Type} {g : α → β} {read : Reader α} {body rest : Bytes} {b : β}
    (h : (g <$> read) body = .ok (b, rest)) : ∃ a, read body = .ok (a, rest) ∧ g a = b := by
  simp only [Functor.map, StateT.map] at h
  cases hread : read body with
  | error f =>
    rw [hread] at h
    cases h
  | ok r =>
    rw [hread] at h
    cases h
    exact ⟨r.1, rfl, rfl⟩

theorem Exchange.Tells.map {α β : Type} {e : Exchange} {read : Reader α} {a : α}
    (h : e.Tells read a) (g : α → β) : e.Tells (g <$> read) (g a) := by
  obtain ⟨body, rest, hid, hbody⟩ := h
  refine ⟨body, rest, hid, ?_⟩
  simp only [Functor.map, StateT.map, hbody, bind, Except.bind]
  rfl

namespace Client

/-- What a call gives, and the client after it. -/
def perform (c : Client) : Call → Except Failure Value × Client
  | .describeAcls filter => mapResult .acls (c.describeAcls filter)
  | .metadata topics => mapResult .metadata (c.metadata topics)
  | .createTopics topics validateOnly => mapResult .topics (c.createTopics topics validateOnly)
  | .deleteTopics names => mapResult .topics (c.deleteTopics names)
  | .reconnect => mapResult (fun _ => .nothing) c.reconnect
  | .close => (.ok .nothing, c.close)

/-- The client after some calls, whatever they gave. -/
def performAll (c : Client) (calls : List Call) : Client :=
  calls.foldl (fun c k => (c.perform k).2) c

/-- A client from its first connection on, after some calls. -/
def used (target : Target) (settings : NativeConfig) (network : Network) (nonce : Nat → String)
    (calls : List Call) : Client :=
  (connect target settings network nonce).2.performAll calls

theorem mapResult_mapResult {α β γ : Type} (g : β → γ) (f : α → β)
    (r : Except Failure α × Client) : mapResult g (mapResult f r) = mapResult (g ∘ f) r := by
  obtain ⟨_ | _, c⟩ := r <;> rfl

/-- A call that sends a request does nothing else. -/
theorem perform_eq_send {c : Client} {k : Call} {r : Request}
    (hr : k.request? c.settings = some r) :
    ∃ (α : Type) (read : Reader α) (g : α → Value), k.reader = g <$> read ∧
      c.perform k = mapResult g (c.send r read) := by
  cases k <;> cases hr <;> exact ⟨_, _, _, rfl, mapResult_mapResult _ _ _⟩

/-- A request is not sent, or it is answered on the connection that serves, or it fails there and
the connection is given up. -/
theorem Sound.perform_cases {c : Client} (h : Sound c) {k : Call} {r : Request}
    (hr : k.request? c.settings = some r) :
    (c.current = none ∧ ∃ f, c.perform k = (.error f, c)) ∨
    ∃ i x, c.current = some i ∧ c.connections[i]? = some x ∧
      ((∃ v answer x', c.perform k = (.ok v, c.after i [⟨i, c.nextId, r⟩] x') ∧
        Exchange.Passes ⟨⟨i, c.nextId, r⟩, answer⟩ c.settings x x' ∧
        Exchange.Tells ⟨⟨i, c.nextId, r⟩, answer⟩ k.reader v) ∨
      ∃ f x', c.perform k = (.error f, (c.after i [⟨i, c.nextId, r⟩] x').dropped) ∧
        Asked.Fails ⟨i, c.nextId, r⟩ c.settings x x') := by
  obtain ⟨α, read, g, hread, hperform⟩ := perform_eq_send hr
  rw [hperform, hread]
  simp only [send]
  by_cases hclosed : c.closed = true
  · rw [if_pos hclosed]
    exact .inl ⟨h.closed hclosed, _, rfl⟩
  · rw [if_neg hclosed]
    cases hcurrent : c.current with
    | none => exact .inl ⟨rfl, _, rfl⟩
    | some i =>
      obtain ⟨x, here⟩ := h.here hcurrent
      refine .inr ⟨i, x, rfl, here, ?_⟩
      obtain ⟨v, answer, x', hr, passes, tells⟩ | ⟨f, x', hr, fails⟩ :=
        c.roundTrip_cases here r read
      · simp only [hr]
        exact .inl ⟨g v, answer, x', rfl, passes, tells.map g⟩
      · simp only [hr]
        exact .inr ⟨f, x', rfl, fails⟩

/-- Connections that do not serve are as they were, and do not come to serve. -/
def Spares (c c' : Client) : Prop :=
  ∀ i x, c.connections[i]? = some x → c.current ≠ some i →
    c'.connections[i]? = some x ∧ c'.current ≠ some i

/-- One client after another. -/
structure Follows (c c' : Client) : Prop where
  sound : Sound c'
  alike : Alike c c'
  spares : Spares c c'

theorem Follows.refl {c : Client} (h : Sound c) : Follows c c :=
  ⟨h, ⟨rfl, rfl, rfl⟩, fun _ _ hx hi => ⟨hx, hi⟩⟩

theorem Follows.trans {c c' c'' : Client} (h : Follows c c') (h' : Follows c' c'') :
    Follows c c'' := by
  refine ⟨h'.sound, h.alike.trans h'.alike, fun i x hx hi => ?_⟩
  obtain ⟨hx', hi'⟩ := h.spares i x hx hi
  exact h'.spares i x hx' hi'

theorem Sound.follows_request {c : Client} (h : Sound c) {k : Call} {r : Request}
    (hr : k.request? c.settings = some r) : Follows c (c.perform k).2 := by
  have hadmin := Call.admin_of_request hr
  obtain ⟨-, f, hp⟩ | ⟨i, x, hcurrent, here, ⟨v, answer, x', hp, passes, -⟩ | ⟨f, x', hp, fails⟩⟩ :=
    h.perform_cases hr
  · rw [hp]
    exact .refl h
  all_goals
    rw [hp]
    obtain ⟨login, work, hadmitted⟩ := h.serving i hcurrent
    have hspared (j : Nat) (y : Connection) (hy : c.connections[j]? = some y)
        (hj : c.current ≠ some j) : (c.connections.set i x')[j]? = some y := by
      rwa [List.getElem?_set_ne (by rintro rfl; exact hj hcurrent)]
  · have talk := Talk.answered here passes
    have hadmitted' := hadmitted.talk talk (by simpa [log] using hadmin)
    exact ⟨h.talk talk (.inr ⟨_, _, _, hadmitted'⟩) fun _ => ⟨_, _, hadmitted'⟩, ⟨rfl, rfl, rfl⟩,
      fun j y hy hj => ⟨hspared j y hy hj, hj⟩⟩
  -- The connection is given up before the request is counted, for it does not serve after it.
  · have talk : Talk i c.dropped _ _ _ := Talk.failed here fails
    have hgiven : c.dropped.Admitted i login work none :=
      hadmitted.left ⟨⟨rfl, rfl, rfl⟩, rfl, rfl⟩
    have hadmitted' := hgiven.talk talk (by simpa [log] using hadmin)
    have hsound := (h.idle c.closed).talk talk (.inr ⟨_, _, _, hadmitted'⟩) fun hi =>
      absurd hi (c.current_dropped_ne i)
    exact ⟨hsound, ⟨rfl, rfl, rfl⟩, fun j y hy hj => ⟨hspared j y hy hj, current_dropped_ne _ j⟩⟩

/-- A closed client makes no new connection. Another gives its own up and tries the servers. -/
theorem Sound.reconnect_cases {c : Client} (h : Sound c) :
    (c.closed = true ∧ ∃ f, c.reconnect = (.error f, c)) ∨
    (∃ f c', Opens c.dropped (.error f) c' ∧ c.reconnect = (.error f, c')) ∨
    ∃ i c', c.closed ≠ true ∧ Opens c.dropped (.ok i) c' ∧
      c.reconnect = (.ok (), { c' with current := some i, connected := true }) := by
  simp only [Client.reconnect]
  by_cases hclosed : c.closed = true
  · rw [if_pos hclosed]
    exact .inl ⟨hclosed, _, rfl⟩
  · rw [if_neg hclosed]
    have hopens : Opens c.dropped (c.dropped.openAny c.target.servers noServersFailure).1
        (c.dropped.openAny c.target.servers noServersFailure).2 :=
      (h.idle c.closed).openAny rfl c.target.servers noServersFailure
    cases hr : c.dropped.openAny c.target.servers noServersFailure with
    | mk r c' =>
      rw [hr] at hopens
      cases r with
      | error f => exact .inr (.inl ⟨f, c', hopens, rfl⟩)
      | ok i => exact .inr (.inr ⟨i, c', hclosed, hopens, rfl⟩)

theorem Opens.getElem? {c c' : Client} {r : Except Failure Nat} (h : Opens c r c') {i : Nat}
    {x : Connection} (hx : c.connections[i]? = some x) : c'.connections[i]? = some x := by
  obtain ⟨hi, -⟩ := List.getElem?_eq_some_iff.mp hx
  rw [(h.leaves i hi).connection, hx]

theorem Sound.follows_reconnect {c : Client} (h : Sound c) : Follows c c.reconnect.2 := by
  obtain ⟨-, f, hp⟩ | ⟨f, c', opens, hp⟩ | ⟨i, c', hopen, opens, hp⟩ := h.reconnect_cases
  all_goals rw [hp]
  · exact .refl h
  · exact ⟨opens.sound, ⟨opens.alike.target, opens.alike.settings, opens.alike.nonce⟩,
      fun i x hx _ => ⟨opens.getElem? hx, by rw [opens.idle]; nofun⟩⟩
  · obtain ⟨hnew, login, work, hadmitted⟩ := opens.opened i rfl
    refine ⟨⟨⟨opens.sound.numbered, opens.sound.next, opens.sound.made⟩, ?_, ?_, rfl, ?_⟩,
      ⟨opens.alike.target, opens.alike.settings, opens.alike.nonce⟩, ?_⟩
    · exact fun j hj => (opens.sound.standing j hj).left ⟨⟨rfl, rfl, rfl⟩, rfl, rfl⟩
    · rintro j ⟨⟩
      exact ⟨login, work, hadmitted.left ⟨⟨rfl, rfl, rfl⟩, rfl, rfl⟩⟩
    · exact fun hclosed => absurd (opens.closed.symm.trans hclosed) hopen
    · intro j x hx _
      obtain ⟨hj, -⟩ := List.getElem?_eq_some_iff.mp hx
      refine ⟨opens.getElem? hx, ?_⟩
      rintro ⟨⟩
      exact absurd hnew (Nat.not_le_of_lt hj)

theorem Sound.follows {c : Client} (h : Sound c) (k : Call) : Follows c (c.perform k).2 := by
  cases hr : k.request? c.settings with
  | some r => exact h.follows_request hr
  | none =>
    cases k with
    | reconnect => exact h.follows_reconnect
    | close => exact ⟨h.idle true, ⟨rfl, rfl, rfl⟩, fun i x hx _ => ⟨hx, c.current_dropped_ne i⟩⟩
    | describeAcls | metadata | createTopics | deleteTopics => cases hr

theorem Sound.follows_performAll {c : Client} (h : Sound c) (calls : List Call) :
    Follows c (c.performAll calls) := by
  induction calls generalizing c with
  | nil => exact .refl h
  | cons k ks ih =>
    have hk := h.follows k
    exact hk.trans (ih hk.sound)

/-- Every client that is in use is sound, and is the client that it was made as. -/
theorem follows_used (target : Target) (settings : NativeConfig) (network : Network)
    (nonce : Nat → String) (calls : List Call) :
    Follows (make target settings network nonce) (used target settings network nonce calls) := by
  have hconnect := (sound_make target settings network nonce).follows_reconnect
  exact hconnect.trans (hconnect.sound.follows_performAll calls)

end Client

end ClusterAdmin.Wire
