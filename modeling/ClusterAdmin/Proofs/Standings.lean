import ClusterAdmin.Proofs.Logins

namespace ClusterAdmin.Wire

/-- A request that is not part of a login. -/
def Request.isAdmin : Request → Bool
  | .saslHandshake _ | .saslAuthenticate _ => false
  | .metadata _ | .describeAcls _ | .createTopics _ _ _ | .deleteTopics _ _ => true

theorem LoginRequests.isAdmin_eq_false {s : SaslConfig} {requests : List Request}
    (h : LoginRequests s requests) {r : Request} (hr : r ∈ requests) : r.isAdmin = false := by
  obtain ⟨payloads, rfl⟩ := h
  rcases List.mem_cons.mp hr with rfl | hr
  · rfl
  · obtain ⟨payload, -, rfl⟩ := List.mem_map.mp hr
    rfl

/-- Exchanges that let a client in. Without a login none are needed. -/
def Admits (sasl : Option SaslConfig) (nonce : String) (login : List Exchange) : Prop :=
  match sasl with
  | none => login = []
  | some s => LoggedIn s nonce login

theorem Admits.isAdmin_eq_false {sasl : Option SaslConfig} {nonce : String}
    {login : List Exchange} (h : Admits sasl nonce login) :
    ∀ a ∈ log login none, a.request.isAdmin = false := by
  intro a ha
  cases sasl with
  | none => simp [show login = [] from h, log] at ha
  | some s => exact (LoggedIn.requests h).isAdmin_eq_false (List.mem_map_of_mem ha)

namespace Client

/-- The requests that were made on a connection. -/
def askedOn (c : Client) (i : Nat) : List Asked := c.asked.filter (·.connection = i)

/-- What went over a connection since it was made. -/
structure Held (c : Client) (i : Nat) (es : List Exchange) (failed : Option Asked) : Prop where
  course : ∃ address peer x, c.connections[i]? = some x ∧
    Course c.settings (.make address peer) es failed x
  asked : c.askedOn i = log es failed

/-- A connection on which a client was let in. -/
structure Admitted (c : Client) (i : Nat) (login work : List Exchange) (failed : Option Asked) :
    Prop where
  held : c.Held i (login ++ work) failed
  admits : Admits c.target.sasl (c.nonce i) login
  admin : ∀ a ∈ log work failed, a.request.isAdmin = true

/-- A connection on which a login was refused. -/
structure Refused (c : Client) (i : Nat) (s : SaslConfig) : Prop where
  sasl : c.target.sasl = some s
  held : ∃ es failed, c.Held i es failed
  requests : LoginRequests s ((c.askedOn i).map (·.request))

/-- Every connection stands in one of these ways. -/
def Standing (c : Client) (i : Nat) : Prop :=
  (∃ s, c.Refused i s) ∨ ∃ login work failed, c.Admitted i login work failed

/-- What a client was made with is as it was. -/
structure Alike (c c' : Client) : Prop where
  target : c'.target = c.target
  settings : c'.settings = c.settings
  nonce : c'.nonce = c.nonce

theorem Alike.trans {c c' c'' : Client} (h : Alike c c') (h' : Alike c' c'') : Alike c c'' :=
  ⟨h'.target.trans h.target, h'.settings.trans h.settings, h'.nonce.trans h.nonce⟩

/-- And so is what concerns a connection. -/
structure Leaves (i : Nat) (c c' : Client) : Prop extends Alike c c' where
  connection : c'.connections[i]? = c.connections[i]?
  asked : c'.askedOn i = c.askedOn i

theorem Leaves.trans {i : Nat} {c c' c'' : Client} (h : Leaves i c c') (h' : Leaves i c' c'') :
    Leaves i c c'' :=
  ⟨h.toAlike.trans h'.toAlike, h'.connection.trans h.connection, h'.asked.trans h.asked⟩

section

variable {i : Nat} {c c' : Client}

theorem Held.here {es : List Exchange} {failed : Option Asked} (h : c.Held i es failed) :
    ∃ x, c.connections[i]? = some x := by
  obtain ⟨address, peer, x, hx, -⟩ := h.course
  exact ⟨x, hx⟩

theorem Held.left {es : List Exchange} {failed : Option Asked} (h : c.Held i es failed)
    (hl : Leaves i c c') : c'.Held i es failed where
  course := by rw [hl.connection, hl.settings]; exact h.course
  asked := by rw [hl.asked]; exact h.asked

theorem Admitted.left {login work : List Exchange} {failed : Option Asked}
    (h : c.Admitted i login work failed) (hl : Leaves i c c') :
    c'.Admitted i login work failed where
  held := h.held.left hl
  admits := by rw [hl.target, hl.nonce]; exact h.admits
  admin := h.admin

theorem Standing.left (h : c.Standing i) (hl : Leaves i c c') : c'.Standing i := by
  obtain ⟨s, ⟨sasl, ⟨es, failed, held⟩, requests⟩⟩ | ⟨login, work, failed, admitted⟩ := h
  · exact .inl ⟨s, by rw [hl.target]; exact sasl, ⟨es, failed, held.left hl⟩,
      by rw [hl.asked]; exact requests⟩
  · exact .inr ⟨login, work, failed, admitted.left hl⟩

theorem askedOn_append (c : Client) {as : List Asked} (there : ∀ a ∈ as, a.connection = i) :
    (c.asked ++ as).filter (·.connection = i) = c.askedOn i ++ as := by
  have hall : as.filter (·.connection = i) = as := List.filter_eq_self.mpr (by simpa using there)
  rw [List.filter_append, hall, askedOn]

/-- Requests on a connection leave the others as they are. -/
theorem Talk.leaves {es : List Exchange} {failed : Option Asked} (h : Talk i c es failed c')
    {j : Nat} (hj : j ≠ i) : Leaves j c c' := by
  obtain ⟨⟨x, x', -, -, rfl⟩, -, there⟩ := h
  have hnone : (log es failed).filter (·.connection = j) = [] := by
    refine List.filter_eq_nil_iff.mpr fun a ha => ?_
    rw [there a ha]
    simpa using Ne.symm hj
  refine ⟨⟨rfl, rfl, rfl⟩, ?_, ?_⟩
  · exact List.getElem?_set_ne (Ne.symm hj)
  · simp only [askedOn, after, List.filter_append, hnone, List.append_nil]

/-- Requests on a connection add to what went over it. -/
theorem Talk.held {es es' : List Exchange} {failed : Option Asked} (h : Talk i c es' failed c')
    (held : c.Held i es none) : c'.Held i (es ++ es') failed := by
  obtain ⟨⟨x, x', here, course, rfl⟩, -, there⟩ := h
  obtain ⟨⟨address, peer, y, hy, before⟩, asked⟩ := held
  cases here.symm.trans hy
  obtain ⟨hi, -⟩ := List.getElem?_eq_some_iff.mp here
  refine ⟨⟨address, peer, x', List.getElem?_set_self hi, before.trans course⟩, ?_⟩
  rw [askedOn, after, askedOn_append c there, asked]
  simp [log]

end

/-- Identifiers were given out one after another, each to a request on some connection. -/
structure Ordered (c : Client) : Prop where
  numbered : Numbered 0 c.asked
  next : c.nextId = Int32.ofNat c.asked.length
  made : ∀ a ∈ c.asked, a.connection < c.connections.length

theorem Ordered.talk {i : Nat} {c c' : Client} {es : List Exchange} {failed : Option Asked}
    (h : Ordered c) (talk : Talk i c es failed c') : Ordered c' := by
  obtain ⟨⟨x, x', here, -, rfl⟩, numbered, there⟩ := talk
  obtain ⟨hi, -⟩ := List.getElem?_eq_some_iff.mp here
  refine ⟨h.numbered.append ?_, ?_, ?_⟩
  · rwa [Int32.zero_add, ← h.next]
  · rw [after, h.next, List.length_append, Int32.ofNat_add]
  · intro a ha
    rw [after, List.length_set]
    rcases List.mem_append.mp ha with ha | ha
    · exact h.made a ha
    · rwa [there a ha]

/-- How a client stands between its calls. -/
structure Sound (c : Client) : Prop extends Ordered c where
  standing : ∀ i < c.connections.length, c.Standing i
  serving : ∀ i, c.current = some i → ∃ login work, c.Admitted i login work none
  connected : c.connected = c.current.isSome
  closed : c.closed = true → c.current = none

theorem sound_make (target : Target) (settings : NativeConfig) (network : Network)
    (nonce : Nat → String) : Sound (make target settings network nonce) :=
  ⟨⟨rfl, rfl, by simp [make]⟩, by simp [make], by simp [make], rfl, fun _ => rfl⟩

theorem Sound.here {c : Client} (h : Sound c) {i : Nat} (hi : c.current = some i) :
    ∃ x, c.connections[i]? = some x := by
  obtain ⟨login, work, admitted⟩ := h.serving i hi
  exact admitted.held.here

theorem Sound.closed_ne {c : Client} (h : Sound c) {i : Nat} (hi : c.current = some i) :
    c.closed ≠ true := by
  intro hclosed
  cases (h.closed hclosed).symm.trans hi

theorem current_dropped_ne (c : Client) (i : Nat) : c.dropped.current ≠ some i := by
  simp [dropped]

/-- Giving a connection up, for good or not, leaves all connections as they are. -/
theorem Sound.idle {c : Client} (h : Sound c) (closed : Bool) :
    Sound { c.dropped with closed } :=
  ⟨⟨h.numbered, h.next, h.made⟩, fun i hi => (h.standing i hi).left ⟨⟨rfl, rfl, rfl⟩, rfl, rfl⟩,
    nofun, rfl, fun _ => rfl⟩

/-- Requests after a login are kept apart from those of the login. -/
theorem Admitted.talk {c c' : Client} {i : Nat} {login work es : List Exchange}
    {failed : Option Asked} (h : c.Admitted i login work none) (talk : Talk i c es failed c')
    (admin : ∀ a ∈ log es failed, a.request.isAdmin = true) :
    c'.Admitted i login (work ++ es) failed where
  held := by
    rw [← List.append_assoc]
    exact talk.held h.held
  admits := by
    obtain ⟨_, _, -, -, rfl⟩ := talk.course
    exact h.admits
  admin a ha := by
    rw [log_append] at ha
    exact (List.mem_append.mp ha).elim (h.admin a) (admin a)

/-- Requests that leave their connection as it should be, and serving if it serves. -/
theorem Sound.talk {c c' : Client} {i : Nat} {es : List Exchange} {failed : Option Asked}
    (h : Sound c) (talk : Talk i c es failed c') (standing : c'.Standing i)
    (serving : c.current = some i → ∃ login work, c'.Admitted i login work none) : Sound c' := by
  have hordered := h.toOrdered.talk talk
  have hleaves (j : Nat) (hj : j ≠ i) := talk.leaves hj
  obtain ⟨⟨x, x', -, -, rfl⟩, -, -⟩ := talk
  refine ⟨hordered, fun j hj => ?_, fun j hj => ?_, h.connected, h.closed⟩
  · by_cases hji : j = i
    · rwa [hji]
    · exact (h.standing j (by simpa [after] using hj)).left (hleaves j hji)
  · by_cases hji : j = i
    · subst hji
      exact serving hj
    · obtain ⟨login, work, hadmitted⟩ := h.serving j hj
      exact ⟨login, work, hadmitted.left (hleaves j hji)⟩

/-- What trying servers comes to for a client that has no connection: one that serves, or none, and
no change to connections that were there. -/
structure Opens (c : Client) (r : Except Failure Nat) (c' : Client) : Prop where
  sound : Sound c'
  alike : Alike c c'
  idle : c'.current = none
  closed : c'.closed = c.closed
  leaves : ∀ i < c.connections.length, Leaves i c c'
  longer : c.connections.length ≤ c'.connections.length
  opened : ∀ i, r = .ok i → c.connections.length ≤ i ∧ ∃ login work, c'.Admitted i login work none
  asked : ∃ made, c'.asked = c.asked ++ made ∧ ∀ a ∈ made, a.request.isAdmin = false

theorem Sound.opens_nothing {c : Client} (h : Sound c) (idle : c.current = none) (f : Failure) :
    Opens c (.error f) c where
  sound := h
  alike := ⟨rfl, rfl, rfl⟩
  idle := idle
  closed := rfl
  leaves _ _ := ⟨⟨rfl, rfl, rfl⟩, rfl, rfl⟩
  longer := Nat.le_refl _
  opened := nofun
  asked := ⟨[], by simp⟩

theorem Opens.trans {c c' c'' : Client} {r r' : Except Failure Nat} (h : Opens c r c')
    (h' : Opens c' r' c'') : Opens c r' c'' where
  sound := h'.sound
  alike := h.alike.trans h'.alike
  idle := h'.idle
  closed := h'.closed.trans h.closed
  leaves i hi := (h.leaves i hi).trans (h'.leaves i (Nat.lt_of_lt_of_le hi h.longer))
  longer := Nat.le_trans h.longer h'.longer
  opened i hr := ⟨Nat.le_trans h.longer (h'.opened i hr).1, (h'.opened i hr).2⟩
  asked := by
    obtain ⟨made, hasked, hmade⟩ := h.asked
    obtain ⟨made', hasked', hmade'⟩ := h'.asked
    refine ⟨made ++ made', by rw [hasked', hasked, List.append_assoc], fun a ha => ?_⟩
    exact (List.mem_append.mp ha).elim (hmade a) (hmade' a)

section

variable {c : Client} (address : String) (peer : Peer)

theorem getElem?_joined :
    (c.joined address peer).connections[c.connections.length]? = some (.make address peer) := by
  simp [joined]

theorem leaves_joined {i : Nat} (hi : i < c.connections.length) :
    Leaves i c (c.joined address peer) :=
  ⟨⟨rfl, rfl, rfl⟩, List.getElem?_append_left hi, rfl⟩

theorem Ordered.joined (h : Ordered c) : Ordered (c.joined address peer) where
  numbered := h.numbered
  next := h.next
  made a ha := by
    have hbefore := h.made a ha
    rw [Client.joined, List.length_append]
    omega

theorem Ordered.held_joined (h : Ordered c) :
    (c.joined address peer).Held c.connections.length [] none where
  course := ⟨address, peer, _, getElem?_joined address peer, .silence⟩
  asked := by
    refine List.filter_eq_nil_iff.mpr fun a ha => ?_
    simpa using Nat.ne_of_lt (h.made a ha)

variable {address peer}

/-- Requests on a new connection after which it stands as it should. -/
theorem Sound.opens (h : Sound c) (idle : c.current = none) {es : List Exchange}
    {failed : Option Asked} {c' : Client} {r : Except Failure Nat}
    (talk : Talk c.connections.length (c.joined address peer) es failed c')
    (login : ∀ a ∈ log es failed, a.request.isAdmin = false)
    (standing : c'.Standing c.connections.length)
    (opened : ∀ i, r = .ok i → i = c.connections.length ∧
      ∃ login work, c'.Admitted i login work none) : Opens c r c' := by
  have hleaves (i : Nat) (hi : i < c.connections.length) : Leaves i c c' :=
    (leaves_joined address peer hi).trans (talk.leaves (Nat.ne_of_lt hi))
  have hordered := (h.toOrdered.joined address peer).talk talk
  obtain ⟨⟨x, x', -, -, rfl⟩, -, -⟩ := talk
  have hlength : (((c.joined address peer).after c.connections.length (log es failed)
      x').connections).length = c.connections.length + 1 := by simp [after, joined]
  refine ⟨⟨hordered, ?_, ?_, h.connected, h.closed⟩, ⟨rfl, rfl, rfl⟩, idle, rfl, hleaves, by omega,
    ?_, _, rfl, login⟩
  · intro i hi
    rcases Nat.lt_succ_iff_lt_or_eq.mp (hlength ▸ hi) with hi | rfl
    · exact (h.standing i hi).left (hleaves i hi)
    · exact standing
  · intro i hi
    cases idle.symm.trans hi
  · intro i hr
    obtain ⟨rfl, hadmitted⟩ := opened i hr
    exact ⟨Nat.le_refl _, hadmitted⟩

end

theorem dial_snd (c : Client) (address : String) : (c.dial address).2 = c.dialing address := by
  simp only [dial]
  split <;> rfl

/-- How trying a server ends: it is not reached, or it lets the client in, or it does not. -/
inductive Approach (c : Client) (address : String) : Except Failure Nat → Client → Prop
  | unreached {e : DialFault} (dialed : (c.dial address).1 = .error e) :
    Approach c address (.error (c.dialFailure address e)) (c.dialing address)
  | admitted {peer : Peer} {es : List Exchange} {c' : Client}
      (dialed : (c.dial address).1 = .ok peer)
      (talk : Talk c.connections.length ((c.dialing address).joined address peer) es none c')
      (admits : Admits c.target.sasl (c.nonce c.connections.length) es) :
    Approach c address (.ok c.connections.length) c'
  | refused {peer : Peer} {s : SaslConfig} {f : Failure} {requests : List Request} {c' : Client}
      (dialed : (c.dial address).1 = .ok peer) (sasl : c.target.sasl = some s)
      (failed : ((c.dialing address).joined address peer).authenticate c.connections.length s =
        (.error f, c'))
      (tries : Tries c.connections.length ((c.dialing address).joined address peer) requests c')
      (login : LoginRequests s requests) :
    Approach c address (.error f) c'

theorem openBroker_cases (c : Client) (address : String) :
    Approach c address (c.openBroker address).1 (c.openBroker address).2 := by
  have hdial : c.dial address = ((c.dial address).1, c.dialing address) := by rw [← dial_snd]
  simp only [Client.openBroker]
  cases hd : (c.dial address).1 with
  | error e =>
    rw [hd] at hdial
    rw [hdial]
    exact .unreached hd
  | ok peer =>
    rw [hd] at hdial
    rw [hdial]
    have hnew := getElem?_joined (c := c.dialing address) address peer
    cases hsasl : c.target.sasl with
    | none =>
      have hnone : ((c.dialing address).joined address peer).target.sasl = none := hsasl
      simp only [hnone]
      exact .admitted hd (.silence hnew) (by rw [hsasl]; rfl)
    | some s =>
      have hsome : ((c.dialing address).joined address peer).target.sasl = some s := hsasl
      simp only [hsome]
      obtain ⟨es, c', hr, talk, loggedIn⟩ | ⟨f, requests, c', hr, tries, login⟩ :=
        authenticate_cases hnew s
      · have hadmits : Admits c.target.sasl (c.nonce c.connections.length) es := by
          rw [hsasl]
          exact loggedIn
        have hok : ((c.dialing address).joined address peer).authenticate
            (c.dialing address).connections.length s = (.ok (), c') := hr
        rw [hok]
        exact .admitted hd talk hadmits
      · rw [hr]
        exact .refused hd hsasl hr tries login

theorem Sound.dialing {c : Client} (h : Sound c) (address : String) : Sound (c.dialing address) :=
  ⟨⟨h.numbered, h.next, h.made⟩, fun i hi => (h.standing i hi).left ⟨⟨rfl, rfl, rfl⟩, rfl, rfl⟩,
    fun i hi => (h.serving i hi).imp fun _ h => h.imp fun _ h =>
      h.left ⟨⟨rfl, rfl, rfl⟩, rfl, rfl⟩, h.connected, h.closed⟩

/-- That a server was dialed concerns no connection. -/
theorem Opens.dialed {c c' : Client} {address : String} {r : Except Failure Nat}
    (h : Opens (c.dialing address) r c') : Opens c r c' :=
  ⟨h.sound, ⟨h.alike.target, h.alike.settings, h.alike.nonce⟩, h.idle, h.closed,
    fun i hi => ⟨⟨h.alike.target, h.alike.settings, h.alike.nonce⟩, (h.leaves i hi).connection,
      (h.leaves i hi).asked⟩, h.longer, h.opened, h.asked⟩

theorem Sound.openBroker {c : Client} (h : Sound c) (idle : c.current = none) (address : String) :
    Opens c (c.openBroker address).1 (c.openBroker address).2 := by
  have hdialing := h.dialing address
  have hidle : (c.dialing address).current = none := idle
  refine Opens.dialed (?_ : Opens (c.dialing address) _ _)
  have approach := c.openBroker_cases address
  generalize c.openBroker address = tried at approach ⊢
  obtain ⟨r, c'⟩ := tried
  dsimp only at approach ⊢
  cases approach with
  | unreached dialed => exact hdialing.opens_nothing hidle _
  | @admitted peer es _ dialed talk admits =>
    have hheld := hdialing.toOrdered.held_joined address peer
    have hadmitted : c'.Admitted c.connections.length es [] none := by
      refine ⟨by simpa using talk.held hheld, ?_, by simp [log]⟩
      obtain ⟨_, _, -, -, rfl⟩ := talk.course
      exact admits
    have hlogin : ∀ a ∈ log es none, a.request.isAdmin = false := admits.isAdmin_eq_false
    refine hdialing.opens hidle talk hlogin (.inr ⟨_, _, _, hadmitted⟩) ?_
    rintro i ⟨⟩
    exact ⟨rfl, _, _, hadmitted⟩
  | @refused peer s f requests _ dialed sasl failed tries login =>
    obtain ⟨es, failed, talk, hlog⟩ := tries
    have hheld := hdialing.toOrdered.held_joined address peer
    have hlogin : ∀ a ∈ log es failed, a.request.isAdmin = false := fun a ha =>
      login.isAdmin_eq_false (hlog ▸ List.mem_map_of_mem ha)
    refine hdialing.opens hidle talk hlogin (.inl ⟨s, ?_, ⟨_, _, talk.held hheld⟩, ?_⟩)
      fun i hi => by cases hi
    · obtain ⟨_, _, -, -, rfl⟩ := talk.course
      exact sasl
    · have hasked : c'.askedOn (c.dialing address).connections.length = log es failed :=
        (talk.held hheld).asked
      rw [hasked, hlog]
      exact login

/-- Servers are tried one after another, each by a client that has no connection. -/
theorem Sound.openAny {c : Client} (h : Sound c) (idle : c.current = none)
    (addresses : List String) (last : Failure) :
    Opens c (c.openAny addresses last).1 (c.openAny addresses last).2 := by
  induction addresses generalizing c last with
  | nil => exact h.opens_nothing idle last
  | cons address rest ih =>
    have hopens := h.openBroker idle address
    simp only [Client.openAny]
    cases hr : c.openBroker address with
    | mk r c' =>
      rw [hr] at hopens
      cases r with
      | ok i => exact hopens
      | error f =>
        by_cases hauth : f.isAuth = true
        · simp only [if_pos hauth]
          exact hopens
        · simp only [if_neg hauth]
          exact hopens.trans (ih hopens.sound hopens.idle f)

end Client

end ClusterAdmin.Wire
