import ClusterAdmin.Proofs.Searches

namespace ClusterAdmin.Wire

/-- Whether an error of a socket may be gone when one tries again. -/
def MayPass (e : Failure.IoError) : Prop :=
  e.kind.category?.getD (Classifier.ofMessage e.text) = .transient

/-- What goes wrong with a server, short of a refused login. -/
inductive Mishap where
  | unreached (fault : DialFault)
  /-- A request of the login has no frame. -/
  | unwritten (message : String)
  | unanswered (api : Api) (fault : ExchangeFault)
  /-- An answer is too short for an identifier. -/
  | headless (api : Api) (fault : ReadFault)
  /-- An answer has the identifier of another request. -/
  | misplaced (api : Api) (expected got : Int32)
  | garbled (api : Api) (fault : ReadFault)
  /-- An answer has a code that is not zero. -/
  | declined (code : Int16) (message : String)
  deriving DecidableEq, Repr

namespace Mishap

/-- How a mishap with the server at an address is reported. -/
def failure (c : Client) (address : String) : Mishap → Failure
  | unreached fault => c.dialFailure address fault
  | unwritten message => Failure.invalid message
  | unanswered api fault => c.exchangeFailure api address fault
  | headless api fault => Failure.invalid s!"decode {api.name} response header: {fault.message}"
  | misplaced api expected got => Failure.transient
      s!"Correlation id mismatch for {api.name}: expected {expected.toInt}, got {got.toInt}"
  | garbled api fault => Failure.invalid s!"decode {api.name} response: {fault.message}"
  | declined code message => Client.loginFailure code message

/-- Whether a mishap counts as one of the network or of a busy server. A server that sends what
nobody can read or what is too long does not, nor does an address that is none. -/
def Fleeting : Mishap → Prop
  | unreached .silent | unanswered _ .ended | unanswered _ .endedWithin
  | unanswered _ (.socket .silent) | misplaced _ _ _ => True
  | unreached (.failed e) | unreached (.unusable _ e) | unanswered _ (.socket (.failed e)) =>
    MayPass e
  | declined code message => code ≠ 0 ∧
    match BrokerCode.ofCode? code with
    | some known => known.category = .transient
    | none => Classifier.ofMessage
        (if message.isEmpty then s!"Kafka error code {code.toInt}" else message) = .transient
  | unanswered _ (.badSize _) | unwritten _ | headless _ _ | garbled _ _ => False

theorem failure_eq_of_settings {c c' : Client} (h : c'.settings = c.settings) (address : String)
    (m : Mishap) : m.failure c' address = m.failure c address := by
  cases m with
  | unreached fault => cases fault <;> simp only [failure, Client.dialFailure, h]
  | unanswered api fault =>
    obtain _ | _ | ⟨⟨_⟩ | _⟩ | _ := fault <;> simp only [failure, Client.exchangeFailure, h]
  | unwritten | headless | misplaced | garbled | declined => rfl

theorem ofIo_fleeting (e : Failure.IoError) :
    (Failure.ofIo e).category = .transient ∧ (Failure.ofIo e).retryable = true ↔ MayPass e := by
  refine ⟨And.left, fun h => ⟨h, ?_⟩⟩
  have hcategory : (Failure.ofIo e).retryable =
    (e.kind.category?.getD (Classifier.ofMessage e.text)).retryable := rfl
  rw [hcategory, show _ = Category.transient from h]
  rfl

theorem loginFailure_fleeting (code : Int16) (message : String) :
    (Client.loginFailure code message).category = .transient ∧
      (Client.loginFailure code message).retryable = true ↔ (declined code message).Fleeting := by
  simp only [Client.loginFailure, Failure.ofBroker?, Fleeting]
  by_cases hcode : code = 0
  · simp [hcode, Failure.auth, Failure.new]
  · rw [if_neg hcode]
    cases BrokerCode.ofCode? code with
    | some known =>
      refine ⟨fun h => ⟨hcode, h.1⟩, fun h => ⟨h.2, ?_⟩⟩
      simp only [Option.getD_some, h.2]
      rfl
    | none =>
      have htext : ((some message).filter (!·.isEmpty)).getD s!"Kafka error code {code.toInt}" =
          if message.isEmpty then s!"Kafka error code {code.toInt}" else message := by
        by_cases hempty : message.isEmpty = true
        · simp [Option.filter, hempty]
        · simp [Option.filter, hempty]
      simp only [htext]
      refine ⟨fun h => ⟨hcode, h.1⟩, fun h => ⟨h.2, ?_⟩⟩
      simp only [Option.getD_some, Failure.new, h.2]
      rfl

/-- A failure is transient, and so may be tried again, exactly if the mishap is a fleeting one. -/
theorem failure_fleeting (c : Client) (address : String) (m : Mishap) :
    (m.failure c address).category = .transient ∧ (m.failure c address).retryable = true ↔
      m.Fleeting := by
  have himpossible {message : String} :
      (Failure.invalid message).category = .transient ∧
        (Failure.invalid message).retryable = true ↔ False := by
    simp [Failure.invalid, Failure.new]
  cases m with
  | unreached fault =>
    cases fault with
    | silent => exact ⟨fun _ => trivial, fun _ => ⟨rfl, rfl⟩⟩
    | failed e | unusable _ e => exact ofIo_fleeting e
  | unanswered api fault =>
    cases fault with
    | ended | endedWithin => exact ⟨fun _ => trivial, fun _ => ⟨rfl, rfl⟩⟩
    | badSize => exact himpossible
    | socket fault =>
      cases fault with
      | failed e => exact ofIo_fleeting e
      | silent => exact ⟨fun _ => trivial, fun _ => ⟨rfl, rfl⟩⟩
  | misplaced => exact ⟨fun _ => trivial, fun _ => ⟨rfl, rfl⟩⟩
  | declined code message => exact loginFailure_fleeting code message
  | unwritten | headless | garbled => exact himpossible

end Mishap

/-- How a request on a connection goes wrong. -/
inductive Asked.Snags {α : Type} (a : Asked) (settings : NativeConfig) (x : Connection)
    (read : Reader α) : Mishap → Prop
  | unwritten {message : String} (frameless : a.frame settings = .error (Failure.invalid message)) :
    a.Snags settings x read (.unwritten message)
  | unanswered {frame : Bytes} {fault : ExchangeFault} (framed : a.frame settings = .ok frame)
      (stopped : (x.exchange frame settings.maxResponseBytes).1 = .error fault) :
    a.Snags settings x read (.unanswered a.request.api fault)
  | headless {frame answer : Bytes} {fault : ReadFault} (framed : a.frame settings = .ok frame)
      (answered : (x.exchange frame settings.maxResponseBytes).1 = .ok answer)
      (head : readInt32 answer = .error fault) :
    a.Snags settings x read (.headless a.request.api fault)
  | misplaced {frame answer body : Bytes} {got : Int32} (framed : a.frame settings = .ok frame)
      (answered : (x.exchange frame settings.maxResponseBytes).1 = .ok answer)
      (head : readInt32 answer = .ok (got, body)) (foreign : got ≠ a.id) :
    a.Snags settings x read (.misplaced a.request.api a.id got)
  | garbled {frame answer body : Bytes} {fault : ReadFault} (framed : a.frame settings = .ok frame)
      (answered : (x.exchange frame settings.maxResponseBytes).1 = .ok answer)
      (head : readInt32 answer = .ok (a.id, body)) (unreadable : read body = .error fault) :
    a.Snags settings x read (.garbled a.request.api fault)

theorem Request.frame_eq_error {r : Request} {id : Int32} {clientId : String} {f : Failure}
    (h : r.frame id clientId = .error f) : ∃ message, f = Failure.invalid message := by
  simp only [Request.frame] at h
  split at h
  · cases h
    exact ⟨_, rfl⟩
  · split at h
    · cases h
      exact ⟨_, rfl⟩
    · cases h

namespace Connection

@[simp] theorem address_exchange (x : Connection) (frame : Bytes) (limit : Nat) :
    (x.exchange frame limit).2.address = x.address := by
  simp only [exchange]
  obtain hw | ⟨n, fault, hw⟩ := x.write_cases frame
  · rw [hw]
    exact ((x.put frame).receive_keeps limit).2.2.trans (x.address_put frame)
  · rw [hw]
    exact x.address_put _

end Connection

namespace Client

/-- A request on a connection that fails has a mishap to blame. -/
theorem roundTrip_snags {α : Type} {c c' : Client} {i : Nat} {x : Connection}
    (here : c.connections[i]? = some x) {r : Request} {read : Reader α} {f : Failure}
    (failed : c.roundTrip i r read = (.error f, c')) :
    ∃ m, Asked.Snags ⟨i, c.nextId, r⟩ c.settings x read m ∧ f = m.failure c x.address := by
  cases hframe : r.frame c.nextId c.settings.clientId with
  | error e =>
    obtain ⟨message, rfl⟩ := Request.frame_eq_error hframe
    simp only [roundTrip, takeId, hframe] at failed
    cases failed
    exact ⟨_, .unwritten hframe, rfl⟩
  | ok frame =>
    rw [c.roundTrip_eq here r read hframe] at failed
    have hfailed := congrArg Prod.fst failed
    dsimp only at hfailed
    cases hx : (x.exchange frame c.settings.maxResponseBytes).1 with
    | error fault =>
      rw [hx, x.address_exchange] at hfailed
      cases hfailed
      exact ⟨_, .unanswered hframe hx, rfl⟩
    | ok answer =>
      rw [hx] at hfailed
      simp only [readAnswer] at hfailed
      cases hhead : readInt32 answer with
      | error fault =>
        rw [hhead] at hfailed
        cases hfailed
        exact ⟨_, .headless hframe hx hhead, rfl⟩
      | ok head =>
        obtain ⟨got, body⟩ := head
        rw [hhead] at hfailed
        dsimp only at hfailed
        by_cases hid : got = c.nextId
        · rw [if_neg (not_not.mpr hid)] at hfailed
          subst hid
          cases hbody : read body with
          | error fault =>
            rw [hbody] at hfailed
            cases hfailed
            exact ⟨_, .garbled hframe hx hhead hbody, rfl⟩
          | ok v =>
            rw [hbody] at hfailed
            cases hfailed
        · rw [if_pos hid] at hfailed
          cases hfailed
          exact ⟨_, .misplaced hframe hx hhead hid, rfl⟩

end Client

/-- What is reported of a server that does not agree to a mechanism. -/
def notEnabled (m : Mechanism) (mechanisms : List String) : String :=
  let enabled := ", ".intercalate mechanisms
  s!"{m.wireName} is not enabled on the broker (enabled: {enabled})"

/-- How a login on a new connection goes wrong, short of a refusal. -/
inductive Amiss (settings : NativeConfig) (s : SaslConfig) (start : Connection) : Mishap → Prop
  | snagged {α : Type} {es : List Exchange} {x : Connection} {a : Asked} {read : Reader α}
      {m : Mishap} (course : Course settings start es none x)
      (login : LoginRequests s (es.map (·.asked.request) ++ [a.request]))
      (snags : a.Snags settings x read m) : Amiss settings s start m
  | notAgreed {e : Exchange} {x : Connection} {answer : HandshakeAnswer}
      (course : Course settings start [e] none x)
      (asks : e.asked.request = .saslHandshake s.mechanism.wireName)
      (tells : e.Tells HandshakeAnswer.read answer) (code : answer.errorCode ≠ 0) :
    Amiss settings s start (.declined answer.errorCode (notEnabled s.mechanism answer.mechanisms))
  | notTaken {es : List Exchange} {e : Exchange} {x : Connection} {answer : LoginAnswer}
      (course : Course settings start (es ++ [e]) none x)
      (login : LoginRequests s (es.map (·.asked.request) ++ [e.asked.request]))
      (tells : e.Tells LoginAnswer.read answer) (code : answer.errorCode ≠ 0) :
    Amiss settings s start
      (.declined answer.errorCode (answer.errorMessage.getD "Authentication failed"))

namespace Client

section

variable {c c' c'' : Client} {i : Nat} {start : Connection} {s : SaslConfig}
  {es : List Exchange} {f : Failure}

/-- A client in the middle of a login on a new connection. -/
structure LoggingIn (i : Nat) (c : Client) (start : Connection) (es : List Exchange)
    (c' : Client) : Prop where
  talk : Talk i c es none c'
  start : c.connections[i]? = some start

theorem LoggingIn.begin (here : c.connections[i]? = some start) : LoggingIn i c start [] c :=
  ⟨.silence here, here⟩

theorem LoggingIn.settings (h : LoggingIn i c start es c') : c'.settings = c.settings := by
  obtain ⟨_, _, -, -, rfl⟩ := h.talk.course
  rfl

theorem LoggingIn.roundTrip {α : Type} (h : LoggingIn i c start es c') {r : Request}
    {read : Reader α} (login : LoginRequests s (es.map (·.asked.request) ++ [r]))
    (failed : c'.roundTrip i r read = (.error f, c'')) :
    ∃ m, Amiss c.settings s start m ∧ f = m.failure c start.address := by
  obtain ⟨x, x', here, course, hc⟩ := h.talk.course
  cases h.start.symm.trans here
  have hhere : c'.connections[i]? = some x' := by
    obtain ⟨hi, -⟩ := List.getElem?_eq_some_iff.mp here
    simp [hc, after, hi]
  obtain ⟨m, snags, hf⟩ := roundTrip_snags hhere failed
  rw [h.settings] at snags
  exact ⟨m, .snagged course login snags,
    by rw [hf, course.address, m.failure_eq_of_settings h.settings]⟩

/-- A handshake at the start of a login is agreed to, or goes wrong. -/
theorem LoggingIn.handshake (h : LoggingIn i c start [] c') :
    (∃ e c'', c'.handshake i s.mechanism = (.ok (), c'') ∧ LoggingIn i c start [e] c'' ∧
      e.asked.request = .saslHandshake s.mechanism.wireName) ∨
    ∃ f c'' m, c'.handshake i s.mechanism = (.error f, c'') ∧ Amiss c.settings s start m ∧
      f = m.failure c start.address := by
  simp only [Client.handshake]
  obtain ⟨a, e, c'', hr, talk, hrequest, tells⟩ | ⟨f, a, c'', hr, -⟩ :=
    h.talk.roundTrip (.saslHandshake s.mechanism.wireName) HandshakeAnswer.read
  · rw [hr]
    by_cases hcode : a.errorCode = 0
    · simp only [if_pos hcode]
      exact .inl ⟨e, c'', rfl, ⟨talk, h.start⟩, hrequest⟩
    · obtain ⟨x, x', here, course, -⟩ := talk.course
      cases h.start.symm.trans here
      simp only [if_neg hcode]
      exact .inr ⟨_, c'', _, rfl, .notAgreed course hrequest tells hcode, rfl⟩
  · obtain ⟨m, amiss, hf⟩ := h.roundTrip (s := s) ⟨[], rfl⟩ hr
    rw [hr]
    exact .inr ⟨f, c'', m, rfl, amiss, hf⟩

/-- A message of a login is taken, or goes wrong. -/
theorem LoggingIn.loginMessage (h : LoggingIn i c start es c') (payload : Bytes)
    (login : LoginRequests s (es.map (·.asked.request) ++ [.saslAuthenticate payload])) :
    (∃ answer e c'', c'.loginMessage i payload = (.ok answer, c'') ∧
      LoggingIn i c start (es ++ [e]) c'' ∧ e.asked.request = .saslAuthenticate payload) ∨
    ∃ f c'' m, c'.loginMessage i payload = (.error f, c'') ∧ Amiss c.settings s start m ∧
      f = m.failure c start.address := by
  simp only [Client.loginMessage]
  obtain ⟨a, e, c'', hr, talk, hrequest, tells⟩ | ⟨f, a, c'', hr, -⟩ :=
    h.talk.roundTrip (.saslAuthenticate payload) LoginAnswer.read
  · rw [hr]
    by_cases hcode : a.errorCode = 0
    · simp only [if_pos hcode]
      exact .inl ⟨a.payload, e, c'', rfl, ⟨talk, h.start⟩, hrequest⟩
    · obtain ⟨x, x', here, course, -⟩ := talk.course
      cases h.start.symm.trans here
      simp only [if_neg hcode]
      exact .inr ⟨_, c'', _, rfl, .notTaken course (hrequest ▸ login) tells hcode, rfl⟩
  · obtain ⟨m, amiss, hf⟩ := h.roundTrip login hr
    rw [hr]
    exact .inr ⟨f, c'', m, rfl, amiss, hf⟩

/-- The server's messages are to blame for a refusal only. -/
theorem LoggingIn.scramLogin {e : Exchange} (h : LoggingIn i c start [e] c')
    (asked : e.asked.request = .saslHandshake s.mechanism.wireName) {scram : Scram.Client}
    (failed : c'.scramLogin i scram = (.error f, c'')) (unrefused : f.category ≠ .auth) :
    ∃ m, Amiss c.settings s start m ∧ f = m.failure c start.address := by
  simp only [Client.scramLogin] at failed
  obtain ⟨serverFirst, e', c₁, hr, loggingIn, hasked⟩ | ⟨f', c₁, m, hr, amiss⟩ :=
    h.loginMessage (s := s) (Bytes.ofText scram.first.1)
      ⟨[Bytes.ofText scram.first.1], by simp [asked]⟩
  · rw [hr] at failed
    dsimp only at failed
    cases hproves : scram.first.2.onServerFirst serverFirst with
    | error r =>
      rw [hproves] at failed
      cases failed
      exact absurd rfl unrefused
    | ok answered =>
      rw [hproves] at failed
      dsimp only at failed
      obtain ⟨serverFinal, e'', c₂, hr', -⟩ | ⟨f', c₂, m, hr', amiss⟩ :=
        loggingIn.loginMessage (s := s) (Bytes.ofText answered.1)
          ⟨[Bytes.ofText scram.first.1, Bytes.ofText answered.1], by simp [asked, hasked]⟩
      · rw [hr'] at failed
        dsimp only at failed
        cases hverified : answered.2.onServerFinal serverFinal with
        | error r =>
          rw [hverified] at failed
          cases failed
          exact absurd rfl unrefused
        | ok scram' =>
          rw [hverified] at failed
          cases failed
      · rw [hr'] at failed
        cases failed
        exact ⟨m, amiss⟩
  · rw [hr] at failed
    cases failed
    exact ⟨m, amiss⟩

/-- A login that fails otherwise than by a refusal went wrong somewhere. -/
theorem authenticate_amiss (here : c.connections[i]? = some start)
    (failed : c.authenticate i s = (.error f, c')) (unrefused : f.category ≠ .auth) :
    ∃ m, Amiss c.settings s start m ∧ f = m.failure c start.address := by
  simp only [authenticate] at failed
  obtain ⟨e, c₁, hr, loggingIn, hasked⟩ | ⟨f', c₁, m, hr, amiss⟩ :=
    (LoggingIn.begin here).handshake (s := s)
  · rw [hr] at failed
    dsimp only at failed
    have hmessage (payload : Bytes) :
        LoginRequests s ([e].map (·.asked.request) ++ [.saslAuthenticate payload]) :=
      ⟨[payload], by simp [hasked]⟩
    cases hm : s.mechanism with
    | plain =>
      simp only [hm] at failed
      obtain ⟨answer, e', c₂, hr', -⟩ | ⟨f', c₂, m, hr', amiss⟩ :=
        loggingIn.loginMessage s.plainResponse (hmessage s.plainResponse)
      · rw [hr'] at failed
        cases failed
      · rw [hr'] at failed
        cases failed
        exact ⟨m, amiss⟩
    | scramSha256 | scramSha512 =>
      simp only [hm, Scram.Client.ofConfig, Mechanism.hash?] at failed
      exact loggingIn.scramLogin hasked failed unrefused
  · rw [hr] at failed
    cases failed
    exact ⟨m, amiss⟩

end

/-- What befalls a client that tries a server. -/
inductive Befalls (c : Client) (address : String) : Mishap → Prop
  | unreached {fault : DialFault} (dialed : (c.dial address).1 = .error fault) :
    Befalls c address (.unreached fault)
  | amiss {peer : Peer} {s : SaslConfig} {m : Mishap} (dialed : (c.dial address).1 = .ok peer)
      (sasl : c.target.sasl = some s) (amiss : Amiss c.settings s (.make address peer) m) :
    Befalls c address m

/-- A server that does not let the client in and does not refuse the login has met with a mishap. -/
theorem Approach.befalls {c c' : Client} {address : String} {f : Failure}
    (h : Approach c address (.error f) c') (goesOn : f.category ≠ .auth) :
    ∃ m, Befalls c address m ∧ f = m.failure c address := by
  cases h with
  | @unreached fault dialed => exact ⟨.unreached fault, .unreached dialed, rfl⟩
  | @refused peer s _ _ _ dialed sasl failed =>
    obtain ⟨m, amiss, hf⟩ :=
      authenticate_amiss (getElem?_joined (c := c.dialing address) address peer) failed goesOn
    exact ⟨m, .amiss dialed sasl amiss, hf.trans (m.failure_eq_of_settings rfl _)⟩

/-- The last of the servers that were tried in vain. -/
theorem InVain.last {c c' : Client} {tried : List (String × Failure)} (h : InVain c tried c')
    (hsome : tried ≠ []) :
    ∃ before address f c₁, tried = before ++ [(address, f)] ∧ InVain c before c₁ ∧
      c₁.Approach address (.error f) c' ∧ f.category ≠ .auth := by
  induction h with
  | none => exact absurd rfl hsome
  | @next c c₁ c' address f tried approach goesOn later ih =>
    cases tried with
    | nil =>
      cases later
      exact ⟨[], address, f, c, rfl, .none c, approach, goesOn⟩
    | cons t ts =>
      obtain ⟨before, a, f', c₂, htried, inVain, hlast, hgoes⟩ := ih (List.cons_ne_nil t ts)
      exact ⟨(address, f) :: before, a, f', c₂, by rw [htried]; rfl,
        .next approach goesOn inVain, hlast, hgoes⟩

theorem Approach.openBroker_eq {c c' : Client} {address : String} {f : Failure}
    (h : Approach c address (.error f) c') : c.openBroker address = (.error f, c') := by
  have hdial : c.dial address = ((c.dial address).1, c.dialing address) := by rw [← dial_snd]
  simp only [openBroker]
  cases h with
  | unreached dialed =>
    rw [hdial, dialed]
    rfl
  | @refused peer s _ _ _ dialed sasl failed =>
    have hsasl : ((c.dialing address).joined address peer).target.sasl = some s := sasl
    have hfailed : ((c.dialing address).joined address peer).authenticate
        (c.dialing address).connections.length s = (.error f, c') := failed
    rw [hdial, dialed]
    simp only [hsasl, hfailed]

theorem InVain.openAny_eq {c c' : Client} {tried : List (String × Failure)}
    (h : InVain c tried c') (last : Failure) :
    c.openAny (tried.map (·.1)) last = (.error ((tried.getLast?.map (·.2)).getD last), c') := by
  induction h generalizing last with
  | none => rfl
  | @next c c₁ c' address f tried approach goesOn _ ih =>
    have hauth : ¬f.isAuth = true := fun h => goesOn (of_decide_eq_true h)
    rw [List.map_cons, openAny, approach.openBroker_eq]
    simp only [if_neg hauth]
    rw [ih, List.getLast?_cons]
    cases tried.getLast? <;> rfl

theorem InVain.reconnect_eq {c c' : Client} {tried : List (String × Failure)}
    (h : InVain c.dropped tried c') (hopen : c.closed = false)
    (hall : c.target.servers = tried.map (·.1)) :
    c.reconnect = (.error (lastFailure tried), c') := by
  rw [reconnect, if_neg (by rw [hopen]; decide), hall, h.openAny_eq]
  rfl

theorem InVain.tried {c c' : Client} {address : String} {f : Failure}
    {tried : List (String × Failure)} (failed : (c.openBroker address).1 = .error f)
    (goesOn : f.category ≠ .auth) (later : InVain (c.openBroker address).2 tried c') :
    InVain c ((address, f) :: tried) c' :=
  .next (failed ▸ c.openBroker_cases address) goesOn later

/-- A search for a server, a client's first or another one. -/
inductive Seeking : Client → Except Failure Unit × Client → Prop
  | first (target : Target) (settings : NativeConfig) (network : Network) (nonce : Nat → String) :
    Seeking (make target settings network nonce) (connect target settings network nonce)
  | again {c : Client} (unclosed : c.closed = false) : Seeking c c.reconnect

theorem Seeking.eq_reconnect {c : Client} {r : Except Failure Unit × Client} (h : Seeking c r) :
    c.closed = false ∧ r = c.reconnect := by
  cases h with
  | first => exact ⟨rfl, rfl⟩
  | again unclosed => exact ⟨unclosed, rfl⟩

/-- Where every server fails otherwise than by refusing the login, a search gives the failure of the
last one, as it came. It is transient, and may be tried again, exactly if that server could not be
reached for a reason that passes, hung up or stayed silent, took the request for another, or
answered with the code of a passing trouble. If it sent what is too long or cannot be read, or if
its address is none, the failure is final, whatever became of the servers before it. -/
theorem last_server_decides {c c' : Client} {r : Except Failure Unit × Client}
    {tried : List (String × Failure)} (seeking : Seeking c r) (inVain : InVain c.dropped tried c')
    (listed : c.target.servers = tried.map (·.1)) (nonempty : tried ≠ []) :
    ∃ before address f c₁ m, tried = before ++ [(address, f)] ∧ InVain c.dropped before c₁ ∧
      c₁.Befalls address m ∧ f = m.failure c₁ address ∧ r = (.error f, c') ∧
      (f.category = .transient ∧ f.retryable = true ↔ m.Fleeting) := by
  obtain ⟨unclosed, rfl⟩ := seeking.eq_reconnect
  obtain ⟨before, address, f, c₁, rfl, hbefore, approach, goesOn⟩ := inVain.last nonempty
  obtain ⟨m, befalls, hf⟩ := approach.befalls goesOn
  refine ⟨before, address, f, c₁, m, rfl, hbefore, befalls, hf, ?_, hf ▸ m.failure_fleeting c₁ _⟩
  rw [inVain.reconnect_eq unclosed listed, lastFailure, List.getLast?_concat]
  rfl

theorem exists_of_mapError {α β : Type} {r : Except Failure α} {g : Failure → β} {b : β}
    (h : r.mapError g = .error b) : ∃ f, r = .error f ∧ g f = b := by
  cases r with
  | error f => exact ⟨f, rfl, Except.error.inj h⟩
  | ok a => cases h

/-- The first server answers with two octets, which are no identifier, and the second cannot be
reached. -/
theorem last_server_decides_unreached :
    let garbling : Peer := ⟨fun _ _ => none, fun
      | [_] => ⟨writeOctets [0, 0], .pending⟩
      | _ => ⟨[], .pending⟩⟩
    let network : Network := fun _ address => if address = "a:9092" then .ok garbling else
      .error (.failed ⟨.connectionRefused, "Connection refused (os error 111)"⟩)
    let login : SaslConfig := ⟨.plain, "user", "pencil"⟩
    let target : Target := ⟨⟨"eu", "a"⟩, ["a:9092", "b:9092"], some login, none⟩
    let c := make target {} network (fun _ => "")
    ∃ first last c', InVain c.dropped [("a:9092", first), ("b:9092", last)] c' ∧
      first.category = .invalid ∧ c.reconnect = (.error last, c') ∧ last.category = .transient ∧
      last.retryable = true := by
  intro garbling network login target c
  have hfirst : (c.dropped.openBroker "a:9092").1.mapError (·.category) = .error .invalid := by
    decide +kernel
  have hlast : ((c.dropped.openBroker "a:9092").2.openBroker "b:9092").1.mapError
      (fun f => (f.category, f.retryable)) = .error (.transient, true) := by decide +kernel
  obtain ⟨first, hfirst, hinvalid⟩ := exists_of_mapError hfirst
  obtain ⟨last, hlast, hagain⟩ := exists_of_mapError hlast
  obtain ⟨htransient, hretryable⟩ := Prod.mk.inj hagain
  have inVain : InVain c.dropped [("a:9092", first), ("b:9092", last)] _ :=
    .tried hfirst (by rw [hinvalid]; decide) (.tried hlast (by rw [htransient]; decide) (.none _))
  obtain ⟨before, address, f, c₁, m, htried, -, -, -, hr, -⟩ :=
    last_server_decides (.again (c := c) rfl) inVain rfl (by simp)
  obtain ⟨-, hone⟩ : [("a:9092", first)] = before ∧ [("b:9092", last)] = [(address, f)] :=
    List.append_inj' htried rfl
  cases hone
  exact ⟨first, last, _, inVain, hinvalid, hr, htransient, hretryable⟩

/-- The first server cannot be reached, which passes. The second announces more than a client takes,
and that is what is reported. -/
theorem last_server_oversized :
    let boasting : Peer := ⟨fun _ _ => none, fun
      | [_] => ⟨writeInt32 2147483647, .pending⟩
      | _ => ⟨[], .pending⟩⟩
    let network : Network := fun _ address => if address = "a:9092" then .ok boasting else
      .error (.failed ⟨.connectionRefused, "Connection refused (os error 111)"⟩)
    let login : SaslConfig := ⟨.plain, "user", "pencil"⟩
    let target : Target := ⟨⟨"eu", "a"⟩, ["b:9092", "a:9092"], some login, none⟩
    let c := make target {} network (fun _ => "")
    ∃ first last c', InVain c.dropped [("b:9092", first), ("a:9092", last)] c' ∧
      first.category = .transient ∧ connect target {} network (fun _ => "") = (.error last, c') ∧
      last.category = .invalid ∧ last.retryable = false := by
  intro boasting network login target c
  have hfirst : (c.dropped.openBroker "b:9092").1.mapError (·.category) = .error .transient := by
    decide +kernel
  have hlast : ((c.dropped.openBroker "b:9092").2.openBroker "a:9092").1.mapError
      (fun f => (f.category, f.retryable)) = .error (.invalid, false) := by decide +kernel
  obtain ⟨first, hfirst, htransient⟩ := exists_of_mapError hfirst
  obtain ⟨last, hlast, hfinal⟩ := exists_of_mapError hlast
  obtain ⟨hinvalid, hretryable⟩ := Prod.mk.inj hfinal
  have inVain : InVain c.dropped [("b:9092", first), ("a:9092", last)] _ :=
    .tried hfirst (by rw [htransient]; decide) (.tried hlast (by rw [hinvalid]; decide) (.none _))
  exact ⟨first, last, _, inVain, htransient, inVain.reconnect_eq rfl rfl, hinvalid, hretryable⟩

end Client

end ClusterAdmin.Wire
