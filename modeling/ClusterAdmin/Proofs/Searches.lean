import ClusterAdmin.Proofs.Calls

namespace ClusterAdmin.Wire.Client

/-- Trying servers leaves what does not hang on where connections lead. -/
structure Still (c c' : Client) : Prop extends Alike c c' where
  network : c'.network = c.network
  current : c'.current = c.current
  connected : c'.connected = c.connected
  closed : c'.closed = c.closed

theorem Still.refl (c : Client) : Still c c := ⟨⟨rfl, rfl, rfl⟩, rfl, rfl, rfl, rfl⟩

theorem Still.trans {c c' c'' : Client} (h : Still c c') (h' : Still c' c'') : Still c c'' :=
  ⟨h.toAlike.trans h'.toAlike, h'.network.trans h.network, h'.current.trans h.current,
    h'.connected.trans h.connected, h'.closed.trans h.closed⟩

theorem Talk.still {i : Nat} {c c' : Client} {es : List Exchange} {failed : Option Asked}
    (h : Talk i c es failed c') : Still c c' ∧ c'.dialed = c.dialed := by
  obtain ⟨⟨x, x', -, -, rfl⟩, -, -⟩ := h
  exact ⟨⟨⟨rfl, rfl, rfl⟩, rfl, rfl, rfl, rfl⟩, rfl⟩

section

variable {c c' : Client} {address : String} {r : Except Failure Nat}

theorem still_joined (c : Client) (address : String) (peer : Peer) :
    Still c ((c.dialing address).joined address peer) :=
  ⟨⟨rfl, rfl, rfl⟩, rfl, rfl, rfl, rfl⟩

/-- Whatever comes of trying a server, it was dialed, once. -/
theorem Approach.still (h : Approach c address r c') :
    Still c c' ∧ c'.dialed = c.dialed ++ [address] := by
  cases h with
  | unreached => exact ⟨⟨⟨rfl, rfl, rfl⟩, rfl, rfl, rfl, rfl⟩, rfl⟩
  | @admitted peer _ _ _ talk _ =>
    obtain ⟨still, hdialed⟩ := talk.still
    exact ⟨(c.still_joined address peer).trans still, hdialed⟩
  | @refused peer _ _ _ _ _ _ _ tries _ =>
    obtain ⟨_, _, talk, -⟩ := tries
    obtain ⟨still, hdialed⟩ := talk.still
    exact ⟨(c.still_joined address peer).trans still, hdialed⟩

/-- A server that lets the client in is the one at the other end of the connection it gives. -/
theorem Approach.reaches {i : Nat} (h : Approach c address (.ok i) c') :
    (c'.connections[i]?).map (·.address) = some address := by
  cases h with
  | @admitted peer _ _ _ talk _ =>
    obtain ⟨x, x', here, course, rfl⟩ := talk.course
    have hnew := getElem?_joined (c := c.dialing address) address peer
    cases hnew.symm.trans here
    obtain ⟨hlt, -⟩ := List.getElem?_eq_some_iff.mp here
    simp only [after, List.getElem?_set_self hlt, Option.map_some, course.address]
    rfl

end

/-- Servers that were tried one after another, each with the failure that it came to. None of them
refused the login. -/
inductive InVain : Client → List (String × Failure) → Client → Prop
  | none (c : Client) : InVain c [] c
  | next {c c' c'' : Client} {address : String} {f : Failure} {tried : List (String × Failure)}
      (approach : c.Approach address (.error f) c') (goesOn : f.category ≠ .auth)
      (later : InVain c' tried c'') : InVain c ((address, f) :: tried) c''

theorem InVain.still {c c' : Client} {tried : List (String × Failure)} (h : InVain c tried c') :
    Still c c' ∧ c'.dialed = c.dialed ++ tried.map (·.1) := by
  induction h with
  | none c => exact ⟨.refl c, by simp⟩
  | next approach _ _ ih =>
    obtain ⟨still, hdialed⟩ := approach.still
    exact ⟨still.trans ih.1, by rw [ih.2, hdialed, List.append_assoc]; rfl⟩

/-- The failure of the server that was tried last, or that there is none to try. -/
def lastFailure (tried : List (String × Failure)) : Failure :=
  (tried.getLast?.map (·.2)).getD noServersFailure

/-- How a search for a server ends, and which ones were dialed. -/
inductive Search (c : Client) (servers : List String) : Except Failure Nat → Client → Prop
  | exhausted {tried : List (String × Failure)} {c' : Client} (inVain : InVain c tried c')
      (listed : servers = tried.map (·.1)) (dialed : c'.dialed = c.dialed ++ servers) :
    Search c servers (.error (lastFailure tried)) c'
  | ended {tried : List (String × Failure)} {address : String} {unasked : List String}
      {r : Except Failure Nat} {c' c'' : Client} (inVain : InVain c tried c')
      (inTurn : servers = tried.map (·.1) ++ address :: unasked)
      (approach : c'.Approach address r c'') (ends : ∀ f, r = .error f → f.category = .auth)
      (dialed : c''.dialed = c.dialed ++ (tried.map (·.1) ++ [address])) : Search c servers r c''

theorem openAny_cases (c : Client) (servers : List String) (last : Failure) :
    ∃ tried c', InVain c tried c' ∧
      ((servers = tried.map (·.1) ∧
        c.openAny servers last = (.error ((tried.getLast?.map (·.2)).getD last), c')) ∨
      ∃ address unasked r c'', servers = tried.map (·.1) ++ address :: unasked ∧
        c'.Approach address r c'' ∧ (∀ f, r = .error f → f.category = .auth) ∧
        c.openAny servers last = (r, c'')) := by
  induction servers generalizing c last with
  | nil => exact ⟨[], c, .none c, .inl ⟨rfl, rfl⟩⟩
  | cons address rest ih =>
    have approach := c.openBroker_cases address
    simp only [openAny]
    cases hr : c.openBroker address with
    | mk r c₁ =>
      rw [hr] at approach
      cases r with
      | ok i =>
        refine ⟨[], c, .none c, .inr ⟨address, rest, _, c₁, rfl, approach, ?_, rfl⟩⟩
        rintro _ ⟨⟩
      | error f =>
        by_cases hauth : f.isAuth = true
        · simp only [if_pos hauth]
          refine ⟨[], c, .none c, .inr ⟨address, rest, _, c₁, rfl, approach, ?_, rfl⟩⟩
          rintro _ ⟨⟩
          exact of_decide_eq_true hauth
        · simp only [if_neg hauth]
          have hgoes : f.category ≠ .auth := fun h => hauth (decide_eq_true h)
          obtain ⟨tried, c', inVain, hend⟩ := ih c₁ f
          refine ⟨(address, f) :: tried, c', .next approach hgoes inVain, ?_⟩
          rcases hend with ⟨hall, ho⟩ | ⟨a, unasked, r, c'', hturn, hlast, hends, ho⟩
          · refine .inl ⟨by rw [hall]; rfl, ?_⟩
            rw [ho, List.getLast?_cons]
            cases tried.getLast? <;> rfl
          · exact .inr ⟨a, unasked, r, c'', by rw [hturn]; rfl, hlast, hends, ho⟩

theorem openAny_search (c : Client) (servers : List String) :
    Search c servers (c.openAny servers noServersFailure).1
      (c.openAny servers noServersFailure).2 := by
  obtain ⟨tried, c', inVain, ⟨hall, ho⟩ | ⟨a, unasked, r, c'', hturn, approach, ends, ho⟩⟩ :=
    c.openAny_cases servers noServersFailure
  all_goals rw [ho]
  · exact .exhausted inVain hall (by rw [inVain.still.2, hall])
  · refine .ended inVain hturn approach ends ?_
    rw [approach.still.2, inVain.still.2, List.append_assoc]

theorem Search.still {c c' : Client} {servers : List String} {r : Except Failure Nat}
    (h : Search c servers r c') : Still c c' := by
  cases h with
  | exhausted inVain => exact inVain.still.1
  | ended inVain _ approach => exact inVain.still.1.trans approach.still.1

/-- The client in another network. -/
def inNetwork (c : Client) (n : Network) : Client := { c with network := n }

/-- What a call gives, and the client after it in another network. -/
def across {α : Type} (n : Network) (r : Except Failure α × Client) : Except Failure α × Client :=
  (r.1, r.2.inNetwork n)

section

variable (c : Client) (n : Network) (i : Nat)

theorem roundTrip_inNetwork {α : Type} (r : Request) (read : Reader α) :
    (c.inNetwork n).roundTrip i r read = across n (c.roundTrip i r read) := by
  simp only [roundTrip, takeId, inNetwork]
  cases r.frame c.nextId c.settings.clientId with
  | error f => rfl
  | ok frame =>
    cases c.connections[i]? with
    | none => rfl
    | some x =>
      dsimp only
      obtain ⟨e | answer, x'⟩ := x.exchange frame c.settings.maxResponseBytes <;> rfl

theorem handshake_inNetwork (m : Mechanism) :
    (c.inNetwork n).handshake i m = across n (c.handshake i m) := by
  simp only [handshake, roundTrip_inNetwork]
  obtain ⟨f | a, c'⟩ := c.roundTrip i (.saslHandshake m.wireName) HandshakeAnswer.read
  · rfl
  · dsimp only [across]
    split <;> rfl

theorem loginMessage_inNetwork (payload : Bytes) :
    (c.inNetwork n).loginMessage i payload = across n (c.loginMessage i payload) := by
  simp only [loginMessage, roundTrip_inNetwork]
  obtain ⟨f | a, c'⟩ := c.roundTrip i (.saslAuthenticate payload) LoginAnswer.read
  · rfl
  · dsimp only [across]
    split <;> rfl

theorem scramLogin_inNetwork (s : Scram.Client) :
    (c.inNetwork n).scramLogin i s = across n (c.scramLogin i s) := by
  simp only [scramLogin, loginMessage_inNetwork]
  obtain ⟨f | serverFirst, c₁⟩ := c.loginMessage i (Bytes.ofText s.first.1)
  · rfl
  · dsimp only [across]
    cases s.first.2.onServerFirst serverFirst with
    | error r => rfl
    | ok answered =>
      dsimp only
      rw [loginMessage_inNetwork]
      obtain ⟨f | serverFinal, c₂⟩ := c₁.loginMessage i (Bytes.ofText answered.1)
      · rfl
      · dsimp only [across]
        cases answered.2.onServerFinal serverFinal <;> rfl

theorem authenticate_inNetwork (s : SaslConfig) :
    (c.inNetwork n).authenticate i s = across n (c.authenticate i s) := by
  simp only [authenticate, handshake_inNetwork]
  obtain ⟨f | a, c₁⟩ := c.handshake i s.mechanism
  · rfl
  · dsimp only [across]
    cases s.mechanism with
    | plain =>
      dsimp only
      rw [loginMessage_inNetwork]
      obtain ⟨f | a, c₂⟩ := c₁.loginMessage i s.plainResponse <;> rfl
    | scramSha256 | scramSha512 =>
      dsimp only
      have hnonce : (c₁.inNetwork n).nonce i = c₁.nonce i := rfl
      rw [hnonce]
      cases Scram.Client.ofConfig s (c₁.nonce i) with
      | error f => rfl
      | ok scram => exact c₁.scramLogin_inNetwork n i scram

variable {n}

/-- Trying a server is the same in every network that leads to the same for its address. -/
theorem openBroker_inNetwork {address : String}
    (same : n c.dialed address = c.network c.dialed address) :
    (c.inNetwork n).openBroker address = across n (c.openBroker address) := by
  have hdial : (c.inNetwork n).dial address =
      ((c.dial address).1, (c.dialing address).inNetwork n) := by
    simp only [dial, inNetwork, same]
    split <;> rfl
  simp only [openBroker, hdial]
  rw [show c.dial address = ((c.dial address).1, c.dialing address) from by rw [← dial_snd]]
  cases (c.dial address).1 with
  | error e => rfl
  | ok peer =>
    dsimp only
    have hsasl : (((c.dialing address).inNetwork n).joined address peer).target.sasl =
      ((c.dialing address).joined address peer).target.sasl := rfl
    rw [hsasl]
    cases ((c.dialing address).joined address peer).target.sasl with
    | none => rfl
    | some s =>
      dsimp only
      have h : (((c.dialing address).inNetwork n).joined address peer).authenticate
          ((c.dialing address).inNetwork n).connections.length s =
            across n (((c.dialing address).joined address peer).authenticate
              (c.dialing address).connections.length s) :=
        ((c.dialing address).joined address peer).authenticate_inNetwork n _ s
      rw [h]
      obtain ⟨f | u, c'⟩ := ((c.dialing address).joined address peer).authenticate
        (c.dialing address).connections.length s <;> rfl

end

/-- A network leads to the same as the client's wherever the client went on the way to another. -/
def LeadsAlike (n : Network) (c c' : Client) : Prop :=
  ∀ earlier address, c.dialed <+: earlier → earlier ++ [address] <+: c'.dialed →
    n earlier address = c.network earlier address

theorem openAny_still (c : Client) (servers : List String) (last : Failure) :
    Still c (c.openAny servers last).2 ∧ c.dialed <+: (c.openAny servers last).2.dialed := by
  obtain ⟨tried, c', inVain, ⟨-, ho⟩ | ⟨a, unasked, r, c'', -, approach, -, ho⟩⟩ :=
    c.openAny_cases servers last
  all_goals rw [ho]
  · exact ⟨inVain.still.1, inVain.still.2 ▸ List.prefix_append _ _⟩
  · refine ⟨inVain.still.1.trans approach.still.1, ?_⟩
    rw [approach.still.2, inVain.still.2, List.append_assoc]
    exact List.prefix_append _ _

theorem openAny_inNetwork {n : Network} {c : Client} {servers : List String} {last : Failure}
    (alike : LeadsAlike n c (c.openAny servers last).2) :
    (c.inNetwork n).openAny servers last = across n (c.openAny servers last) := by
  induction servers generalizing c last with
  | nil => rfl
  | cons address rest ih =>
    obtain ⟨still, hdialed⟩ := (c.openBroker_cases address).still
    have hfirst : c.dialed ++ [address] <+: (c.openAny (address :: rest) last).2.dialed := by
      rw [← hdialed, openAny]
      obtain ⟨f | i, c₁⟩ := c.openBroker address
      · dsimp only
        split
        · exact List.prefix_rfl
        · exact (openAny_still _ _ _).2
      · exact List.prefix_rfl
    rw [openAny, openBroker_inNetwork c (alike _ _ List.prefix_rfl hfirst)]
    simp only [openAny] at alike ⊢
    generalize c.openBroker address = tried at still hdialed alike ⊢
    obtain ⟨f | i, c₁⟩ := tried
    · dsimp only [across] at still hdialed alike ⊢
      by_cases hauth : f.isAuth = true
      · simp only [if_pos hauth]
      · simp only [if_neg hauth] at alike ⊢
        refine ih fun earlier a h h' => ?_
        rw [still.network]
        exact alike earlier a ((hdialed ▸ List.prefix_append _ _ : c.dialed <+: _).trans h) h'
    · rfl

/-- Nothing serves requests, and the client says so. -/
structure Down (c : Client) : Prop where
  current : c.current = none
  connected : c.connected = false

theorem Down.isConnected {c : Client} (h : Down c) : c.isConnected = false := by
  rw [Client.isConnected, h.connected, Bool.and_false]

theorem down_dropped (c : Client) : Down c.dropped := ⟨rfl, rfl⟩

theorem Still.down {c c' : Client} (h : Still c c') (down : Down c) : Down c' :=
  ⟨h.current.trans down.current, h.connected.trans down.connected⟩

/-- A request that nothing serves fails before anything is sent. -/
theorem Down.perform_request {c : Client} (h : Down c) {k : Call} {r : Request}
    (hr : k.request? c.settings = some r) :
    ∃ f, c.perform k = (.error f, c) ∧ f.category = .transient ∧ f.retryable = true := by
  obtain ⟨α, read, g, -, hperform⟩ := perform_eq_send hr
  rw [hperform]
  simp only [send, h.current]
  split
  · exact ⟨c.closedFailure, rfl, rfl, rfl⟩
  · exact ⟨c.notConnectedFailure, rfl, rfl, rfl⟩

theorem Down.reconnect {c : Client} (h : Down c) {f : Failure}
    (failed : c.reconnect.1 = .error f) : Down c.reconnect.2 := by
  simp only [Client.reconnect] at failed ⊢
  split at failed
  · rw [if_pos ‹_›]
    exact h
  · rw [if_neg ‹_›]
    have hstill := (openAny_still c.dropped c.target.servers noServersFailure).1
    generalize c.dropped.openAny c.target.servers noServersFailure = found at failed hstill ⊢
    obtain ⟨f | i, c'⟩ := found
    · exact hstill.down c.down_dropped
    · cases failed

/-- Only a new connection changes that there is none. -/
theorem Down.perform {c : Client} (h : Down c) {k : Call}
    (failed : k = .reconnect → ∃ f, (c.perform k).1 = .error f) : Down (c.perform k).2 := by
  cases hr : k.request? c.settings with
  | some r =>
    obtain ⟨f, hp, -⟩ := h.perform_request hr
    rw [hp]
    exact h
  | none =>
    cases k with
    | reconnect =>
      obtain ⟨f, hf⟩ := failed rfl
      have hfailed : ∃ f, c.reconnect.1 = .error f := by
        simp only [Client.perform, mapResult] at hf
        cases hrec : c.reconnect.1 with
        | error f => exact ⟨f, rfl⟩
        | ok u =>
          rw [hrec] at hf
          cases hf
      obtain ⟨f, hf⟩ := hfailed
      exact h.reconnect hf
    | close => exact ⟨rfl, rfl⟩
    | describeAcls | metadata | createTopics | deleteTopics => cases hr

/-- No connection is made in the course of some calls. -/
def NoneMade (c : Client) (calls : List Call) : Prop :=
  ∀ before after, calls = before ++ .reconnect :: after →
    ∃ f, ((c.performAll before).perform .reconnect).1 = .error f

theorem Down.performAll {c : Client} (h : Down c) {calls : List Call}
    (noneMade : NoneMade c calls) : Down (c.performAll calls) := by
  induction calls generalizing c with
  | nil => exact h
  | cons k ks ih =>
    have hk : Down (c.perform k).2 :=
      h.perform fun hk => by
        subst hk
        exact noneMade [] ks rfl
    exact ih hk fun before after hks => noneMade (k :: before) after (by rw [hks]; rfl)

theorem request?_isSome {k : Call} (settings : NativeConfig) (hreconnect : k ≠ .reconnect)
    (hclose : k ≠ .close) : ∃ r, k.request? settings = some r := by
  cases k with
  | reconnect => exact absurd rfl hreconnect
  | close => exact absurd rfl hclose
  | describeAcls | metadata | createTopics | deleteTopics => exact ⟨_, rfl⟩

/-- What a client comes to that looks for a server. -/
structure Seeks (c : Client) (r : Except Failure Unit) (c' : Client) : Prop where
  /-- The search is that of a client without a connection. What it finds serves from then on. -/
  searched : (∃ f, r = .error f ∧ Search c.dropped c.target.servers (.error f) c') ∨
    ∃ i c₁, r = .ok () ∧ Search c.dropped c.target.servers (.ok i) c₁ ∧
      c' = { c₁ with current := some i, connected := true }
  /-- The server that serves then is the one that was dialed last. -/
  serving : r = .ok () → c'.isConnected = true ∧ c'.broker?.isSome = true ∧
    c'.broker? = c'.dialed.getLast?
  noServers : c.target.servers = [] → r = .error noServersFailure
  /-- It comes to the same in every network that leads to the same where the client went. -/
  unasked : ∀ n, LeadsAlike n c c' → (c.inNetwork n).reconnect = across n (r, c')
  /-- Without a server requests fail, until one is found. -/
  down : ∀ f, r = .error f → ∀ calls, NoneMade c' calls →
    (c'.performAll calls).current = none ∧ (c'.performAll calls).isConnected = false ∧
    ∀ k, k ≠ .reconnect → k ≠ .close → ∃ f',
      (c'.performAll calls).perform k = (.error f', c'.performAll calls) ∧
        f'.category = .transient ∧ f'.retryable = true

theorem reconnect_inNetwork {n : Network} {c : Client} (alike : LeadsAlike n c c.reconnect.2) :
    (c.inNetwork n).reconnect = across n c.reconnect := by
  by_cases hclosed : c.closed = true
  · have hclosed' : (c.inNetwork n).closed = true := hclosed
    rw [reconnect, reconnect, if_pos hclosed, if_pos hclosed']
    rfl
  · have hclosed' : ¬(c.inNetwork n).closed = true := hclosed
    have hopen : LeadsAlike n c.dropped
        (c.dropped.openAny c.target.servers noServersFailure).2 := by
      rw [reconnect, if_neg hclosed] at alike
      generalize c.dropped.openAny c.target.servers noServersFailure = found at alike ⊢
      obtain ⟨f | i, c'⟩ := found <;> exact alike
    have h : (c.inNetwork n).dropped.openAny (c.inNetwork n).target.servers noServersFailure =
        across n (c.dropped.openAny c.target.servers noServersFailure) := openAny_inNetwork hopen
    rw [reconnect, reconnect, if_neg hclosed, if_neg hclosed', h]
    obtain ⟨f | i, c'⟩ := c.dropped.openAny c.target.servers noServersFailure <;> rfl

/-- What a search found is a connection to the server that was dialed last. -/
theorem Search.reaches {c c' : Client} {servers : List String} {i : Nat}
    (h : Search c servers (.ok i) c') :
    ∃ address, (c'.connections[i]?).map (·.address) = some address ∧
      c'.dialed.getLast? = some address := by
  cases h with
  | @ended _ address _ _ _ _ _ _ approach _ dialed =>
    refine ⟨address, approach.reaches, ?_⟩
    rw [dialed, ← List.append_assoc, List.getLast?_concat]

theorem reconnect_seeks {c : Client} (hopen : c.closed = false) :
    Seeks c c.reconnect.1 c.reconnect.2 := by
  have hclosed : ¬c.closed = true := by rw [hopen]; decide
  have hsearch := c.dropped.openAny_search c.target.servers
  refine ⟨?_, fun hok => ?_, fun hnone => ?_, fun n => reconnect_inNetwork,
    fun f hf calls noneMade => ?_⟩
  · rw [reconnect, if_neg hclosed]
    generalize c.dropped.openAny c.target.servers noServersFailure = found at hsearch ⊢
    obtain ⟨f | i, c'⟩ := found
    · exact .inl ⟨f, rfl, hsearch⟩
    · exact .inr ⟨i, c', rfl, hsearch, rfl⟩
  · rw [reconnect, if_neg hclosed] at hok ⊢
    generalize c.dropped.openAny c.target.servers noServersFailure = found at hsearch hok ⊢
    obtain ⟨f | i, c'⟩ := found
    · cases hok
    · obtain ⟨address, hserver, hlast⟩ := hsearch.reaches
      have hopen' : c'.closed = false := hsearch.still.closed.trans hopen
      have hbroker : broker? { c' with current := some i, connected := true } = some address :=
        hserver
      refine ⟨by simp [isConnected, hopen'], by rw [hbroker]; rfl, ?_⟩
      rw [hbroker]
      exact hlast.symm
  · rw [reconnect, if_neg hclosed, hnone]
    rfl
  · have hdown : Down c.reconnect.2 := by
      rw [reconnect, if_neg hclosed] at hf ⊢
      generalize c.dropped.openAny c.target.servers noServersFailure = found at hsearch hf ⊢
      obtain ⟨f | i, c'⟩ := found
      · exact hsearch.still.down c.down_dropped
      · cases hf
    have hafter := hdown.performAll noneMade
    refine ⟨hafter.current, hafter.isConnected, fun k hreconnect hclose => ?_⟩
    obtain ⟨r, hr⟩ := request?_isSome _ hreconnect hclose
    exact hafter.perform_request hr

/-- Connecting, and connecting again unless the client was closed, tries the servers in their order
and one at a time. The first that lets the client in ends the search, and is the one that it is
connected to then. The first that refuses the login ends it with its failure. No later server is
dialed or makes any difference. Otherwise it is the failure of the last server, or an invalid
configuration where none is given. A client that found no server has no connection and says so, and
every request on it fails transiently until another search finds one. -/
theorem servers_in_turn :
    (∀ target settings network nonce, Seeks (make target settings network nonce)
      (connect target settings network nonce).1 (connect target settings network nonce).2) ∧
    (∀ c : Client, c.closed = false → Seeks c c.reconnect.1 c.reconnect.2) ∧
    noServersFailure.category = .invalid :=
  ⟨fun _ _ _ _ => reconnect_seeks rfl, fun _ => reconnect_seeks, rfl⟩

/-- The first server cannot be reached, the second refuses the login, and the third is not asked. -/
theorem servers_in_turn_refused :
    let refusing : Peer := ⟨fun _ _ => none, fun
      | [_] => ⟨writeOctets (writeInt32 0 ++ [0, 33] ++ List.replicate 4 0), .pending⟩
      | _ => ⟨[], .pending⟩⟩
    let network : Network := fun _ address =>
      if address = "b:9092" then .ok refusing else .error .silent
    let target : Target := ⟨⟨"eu", "a"⟩, ["a:9092", "b:9092", "c:9092"],
      some ⟨.plain, "user", "pencil"⟩, none⟩
    let r := connect target {} network (fun _ => "")
    r.1 = .error (Failure.auth
      "UNSUPPORTED_SASL_MECHANISM: PLAIN is not enabled on the broker (enabled: )") ∧
    r.2.dialed = ["a:9092", "b:9092"] ∧ r.2.closed = false ∧ r.2.isConnected = false ∧
    Seeks r.2 r.2.reconnect.1 r.2.reconnect.2 ∧
    ∃ f, (r.2.perform (.metadata none)).1 = .error f ∧ f.category = .transient := by
  intro refusing network target r
  have hrefused : r.1 = .error (Failure.auth
      "UNSUPPORTED_SASL_MECHANISM: PLAIN is not enabled on the broker (enabled: )") := by
    decide +kernel
  have hdialed : r.2.dialed = ["a:9092", "b:9092"] := by decide +kernel
  have hclosed : r.2.closed = false := by decide +kernel
  obtain ⟨hconnect, hreconnect, -⟩ := servers_in_turn
  obtain ⟨-, hdown, hrequests⟩ :=
    (hconnect target {} network fun _ => "").down _ hrefused [] (by rintro (_ | _) _ ⟨⟩)
  obtain ⟨f, hp, htransient, -⟩ := hrequests (.metadata none) (by decide) (by decide)
  exact ⟨hrefused, hdialed, hclosed, hdown, hreconnect r.2 hclosed, f, congrArg Prod.fst hp,
    htransient⟩

end ClusterAdmin.Wire.Client
