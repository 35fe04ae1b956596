import ClusterAdmin.Proofs.Exchanges
import ClusterAdmin.Proofs.Talks

namespace ClusterAdmin.Wire

/-- What a client sends to log in: a handshake, and then messages. -/
def LoginRequests (s : SaslConfig) (requests : List Request) : Prop :=
  ∃ payloads : List Bytes,
    requests = .saslHandshake s.mechanism.wireName :: payloads.map .saslAuthenticate

namespace Exchange

/-- The server agreed to a mechanism. -/
structure Agrees (e : Exchange) (m : Mechanism) : Prop where
  asks : e.asked.request = .saslHandshake m.wireName
  agreed : ∃ a, e.Tells HandshakeAnswer.read a ∧ a.errorCode = 0

/-- The server took a message of a login, and gave that answer. -/
structure Takes (e : Exchange) (message answer : Bytes) : Prop where
  asks : e.asked.request = .saslAuthenticate message
  taken : ∃ a, e.Tells LoginAnswer.read a ∧ a.errorCode = 0 ∧ a.payload = answer

end Exchange

/-- The exchanges of a login that went through. -/
inductive LoggedIn (s : SaslConfig) (nonce : String) : List Exchange → Prop
  | plain {e e' : Exchange} {answer : Bytes} (mechanism : s.mechanism = .plain)
      (agrees : e.Agrees s.mechanism) (takes : e'.Takes s.plainResponse answer) :
    LoggedIn s nonce [e, e']
  | scram {e e' e'' : Exchange} {serverFirst serverFinal : Bytes} {last : String}
      {scram scram' scram'' : Scram.Client} (made : Scram.Client.ofConfig s nonce = .ok scram)
      (agrees : e.Agrees s.mechanism)
      (begins : e'.Takes (Bytes.ofText scram.first.1) serverFirst)
      (proves : scram.first.2.onServerFirst serverFirst = .ok (last, scram'))
      (ends : e''.Takes (Bytes.ofText last) serverFinal)
      (verified : scram'.onServerFinal serverFinal = .ok scram'')
      (complete : scram''.isComplete = true) : LoggedIn s nonce [e, e', e'']

theorem LoggedIn.requests {s : SaslConfig} {nonce : String} {es : List Exchange}
    (h : LoggedIn s nonce es) : LoginRequests s ((log es none).map (·.request)) := by
  cases h with
  | plain _ agrees takes => exact ⟨[s.plainResponse], by simp [log, agrees.asks, takes.asks]⟩
  | @scram _ _ _ _ _ last scram _ _ _ agrees begins _ ends =>
    exact ⟨[Bytes.ofText scram.first.1, Bytes.ofText last],
      by simp [log, agrees.asks, begins.asks, ends.asks]⟩

namespace Client

/-- From one client to another by requests on a connection, of which only the last may have
failed. -/
def Tries (i : Nat) (c : Client) (requests : List Request) (c' : Client) : Prop :=
  ∃ es failed, Talk i c es failed c' ∧ (log es failed).map (·.request) = requests

theorem Talk.tries {i : Nat} {c c' : Client} {es : List Exchange} (h : Talk i c es none c') :
    Tries i c (es.map (·.asked.request)) c' :=
  ⟨es, none, h, by simp [log]⟩

section

variable {i : Nat} {c c' : Client} {es : List Exchange}

/-- A request that must be answered in a certain way is so answered, or it is the last one tried. -/
theorem Talk.tries_roundTrip {α : Type} (h : Talk i c es none c') (r : Request) (read : Reader α) :
    (∃ v e c'', c'.roundTrip i r read = (.ok v, c'') ∧ Talk i c (es ++ [e]) none c'' ∧
      Tries i c (es.map (·.asked.request) ++ [r]) c'' ∧ e.asked.request = r ∧ e.Tells read v) ∨
    ∃ f c'', c'.roundTrip i r read = (.error f, c'') ∧
      Tries i c (es.map (·.asked.request) ++ [r]) c'' := by
  obtain ⟨v, e, c'', hr, talk, hrequest, tells⟩ | ⟨f, a, c'', hr, talk, hrequest⟩ :=
    h.roundTrip r read
  · refine .inl ⟨v, e, c'', hr, talk, ?_, hrequest, tells⟩
    simpa [hrequest] using talk.tries
  · exact .inr ⟨f, c'', hr, es, some a, talk, by simp [log, hrequest]⟩

theorem Talk.handshake (h : Talk i c es none c') (m : Mechanism) :
    (∃ e c'', c'.handshake i m = (.ok (), c'') ∧ Talk i c (es ++ [e]) none c'' ∧ e.Agrees m) ∨
    ∃ f c'', c'.handshake i m = (.error f, c'') ∧
      Tries i c (es.map (·.asked.request) ++ [.saslHandshake m.wireName]) c'' := by
  simp only [Client.handshake]
  obtain ⟨a, e, c'', hr, talk, tries, hrequest, tells⟩ | ⟨f, c'', hr, tries⟩ :=
    h.tries_roundTrip (.saslHandshake m.wireName) HandshakeAnswer.read
  · rw [hr]
    by_cases hcode : a.errorCode = 0
    · simp only [if_pos hcode]
      exact .inl ⟨e, c'', rfl, talk, hrequest, a, tells, hcode⟩
    · simp only [if_neg hcode]
      exact .inr ⟨_, c'', rfl, tries⟩
  · rw [hr]
    exact .inr ⟨f, c'', rfl, tries⟩

theorem Talk.loginMessage (h : Talk i c es none c') (payload : Bytes) :
    (∃ answer e c'', c'.loginMessage i payload = (.ok answer, c'') ∧
      Talk i c (es ++ [e]) none c'' ∧ e.Takes payload answer) ∨
    ∃ f c'', c'.loginMessage i payload = (.error f, c'') ∧
      Tries i c (es.map (·.asked.request) ++ [.saslAuthenticate payload]) c'' := by
  simp only [Client.loginMessage]
  obtain ⟨a, e, c'', hr, talk, tries, hrequest, tells⟩ | ⟨f, c'', hr, tries⟩ :=
    h.tries_roundTrip (.saslAuthenticate payload) LoginAnswer.read
  · rw [hr]
    by_cases hcode : a.errorCode = 0
    · simp only [if_pos hcode]
      exact .inl ⟨a.payload, e, c'', rfl, talk, hrequest, a, tells, hcode, rfl⟩
    · simp only [if_neg hcode]
      exact .inr ⟨_, c'', rfl, tries⟩
  · rw [hr]
    exact .inr ⟨f, c'', rfl, tries⟩

end

/-- A SCRAM login after the handshake goes through, or stops somewhere. -/
theorem Talk.scramLogin {i : Nat} {c c' : Client} {e : Exchange} {s : SaslConfig} {nonce : String}
    {scram : Scram.Client} (h : Talk i c [e] none c') (agrees : e.Agrees s.mechanism)
    (made : Scram.Client.ofConfig s nonce = .ok scram) :
    (∃ es c'', c'.scramLogin i scram = (.ok (), c'') ∧ Talk i c es none c'' ∧
      LoggedIn s nonce es) ∨
    ∃ f requests c'', c'.scramLogin i scram = (.error f, c'') ∧ Tries i c requests c'' ∧
      LoginRequests s requests := by
  simp only [Client.scramLogin]
  let first := Bytes.ofText scram.first.1
  obtain ⟨serverFirst, e', c₁, hfirst, talk, begins⟩ | ⟨f, c₁, hfirst, tries⟩ :=
    h.loginMessage (Bytes.ofText scram.first.1)
  · rw [hfirst]
    dsimp only
    cases hproves : scram.first.2.onServerFirst serverFirst with
    | error r =>
      exact .inr ⟨_, _, c₁, rfl, talk.tries, [first], by simp [first, agrees.asks, begins.asks]⟩
    | ok answered =>
      obtain ⟨last, scram'⟩ := answered
      dsimp only
      obtain ⟨serverFinal, e'', c₂, hlast, talk', ends⟩ | ⟨f, c₂, hlast, tries⟩ :=
        talk.loginMessage (Bytes.ofText last)
      · rw [hlast]
        dsimp only
        cases hverified : scram'.onServerFinal serverFinal with
        | error r =>
          exact .inr ⟨_, _, c₂, rfl, talk'.tries, [first, Bytes.ofText last],
            by simp [first, agrees.asks, begins.asks, ends.asks]⟩
        | ok scram'' =>
          have hcomplete : scram''.isComplete = true := by
            obtain ⟨_, _, -, -, -, rfl⟩ := Scram.Client.onServerFinal_eq_ok_iff.mp hverified
            rfl
          exact .inl ⟨_, c₂, rfl, talk', .scram made agrees begins hproves ends hverified hcomplete⟩
      · rw [hlast]
        exact .inr ⟨f, _, c₂, rfl, tries, [first, Bytes.ofText last],
          by simp [first, agrees.asks, begins.asks]⟩
  · rw [hfirst]
    exact .inr ⟨f, _, c₁, rfl, tries, [first], by simp [first, agrees.asks]⟩

/-- A login on a new connection goes through, or stops somewhere. -/
theorem authenticate_cases {c : Client} {i : Nat} {x : Connection}
    (here : c.connections[i]? = some x) (s : SaslConfig) :
    (∃ es c', c.authenticate i s = (.ok (), c') ∧ Talk i c es none c' ∧
      LoggedIn s (c.nonce i) es) ∨
    ∃ f requests c', c.authenticate i s = (.error f, c') ∧ Tries i c requests c' ∧
      LoginRequests s requests := by
  simp only [authenticate]
  obtain ⟨e, c₁, hhandshake, talk, agrees⟩ | ⟨f, c₁, hhandshake, tries⟩ :=
    (Talk.silence here).handshake s.mechanism
  · rw [hhandshake]
    have hnonce : c₁.nonce = c.nonce := by
      obtain ⟨_, _, -, -, rfl⟩ := talk.course
      rfl
    dsimp only
    rw [hnonce]
    cases hm : s.mechanism with
    | plain =>
      dsimp only
      obtain ⟨answer, e', c₂, hmessage, talk', takes⟩ | ⟨f, c₂, hmessage, tries⟩ :=
        talk.loginMessage s.plainResponse
      · rw [hmessage]
        exact .inl ⟨_, c₂, rfl, talk', .plain hm agrees takes⟩
      · rw [hmessage]
        exact .inr ⟨f, _, c₂, rfl, tries, [s.plainResponse], by simp [agrees.asks]⟩
    | scramSha256 | scramSha512 =>
      dsimp only
      cases hmade : Scram.Client.ofConfig s (c.nonce i) with
      | error f => exact .inr ⟨f, _, c₁, rfl, talk.tries, [], by simp [agrees.asks]⟩
      | ok scram => exact talk.scramLogin agrees hmade
  · rw [hhandshake]
    exact .inr ⟨f, _, c₁, rfl, tries, [], by simp⟩

end Client

end ClusterAdmin.Wire
