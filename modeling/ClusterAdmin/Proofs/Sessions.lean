import ClusterAdmin.Proofs.Closing

namespace ClusterAdmin.Wire

/-- What a request waits for. -/
inductive Stage where
  | writing (frame : Bytes)
  | readingSize
  | readingBody (size : Nat)
  deriving DecidableEq, Repr

/-- A call whose request was given the connection. -/
structure Pending where
  call : Call
  asked : Asked
  stage : Stage
  deriving DecidableEq, Repr

namespace Connection

/-- Reads octets that nobody takes. -/
def skim (x : Connection) (n : Nat) : Connection :=
  { x with consumed := x.consumed ++ x.unread.take n, unread := x.unread.drop n }

/-- The connection as a caller leaves it who goes away, so many octets into what it waits for. -/
def abandoned (x : Connection) (n : Nat) : Stage → Connection
  | .writing frame => x.put (frame.take n)
  | .readingSize => x.skim (min n 3)
  | .readingBody size => x.skim (min n (size - 1))

end Connection

/-- A client and its callers. -/
structure Session where
  client : Client
  /-- The calls in line for the connection, the first to come first. -/
  waiting : List Call
  /-- The call that has the connection. -/
  pending : Option Pending
  /-- What calls gave, the latest last. -/
  results : List (Call × Except Failure Value)
  /-- The requests whose callers went away, the latest last. -/
  givenUp : List Asked

namespace Client

/-- The client with a new connection in place of any old one, if one is to be had. -/
def renewed (c : Client) : Except Failure Unit × Client :=
  match c.dropped.openAny c.target.servers noServersFailure with
  | (.error f, c) => (.error f, c)
  | (.ok i, c) => (.ok (), { c with current := some i, connected := true })

/-- The client after somebody asked for a new connection and went away over it. What servers did
until then is what they would do in that network. -/
def unrenewed (c : Client) (network : Network) : Client :=
  { (Client.openAny { c.dropped with network } c.target.servers noServersFailure).2 with
    network := c.network }

end Client

namespace Session

/-- A session of a client from its first connection on. -/
def start (target : Target) (settings : NativeConfig) (network : Network) (nonce : Nat → String) :
    Session :=
  ⟨(Client.connect target settings network nonce).2, [], none, [], []⟩

def answer (s : Session) (k : Call) (r : Except Failure Value) : Session :=
  { s with results := s.results ++ [(k, r)] }

/-- A call comes in. Closing takes effect at once, and gets its turn to give up the connection. -/
def arrive (s : Session) (k : Call) : Session :=
  if k = .close then
    { s with
      client := { s.client with closed := true, connected := false }
      waiting := s.waiting ++ [k] }
  else if s.client.closed then s.answer k (.error s.client.closedFailure)
  else { s with waiting := s.waiting ++ [k] }

/-- A call goes away before its turn. -/
def leave (s : Session) (n : Nat) : Session := { s with waiting := s.waiting.eraseIdx n }

/-- Begins a request on the connection that serves. -/
def ask (s : Session) (k : Call) (r : Request) : Session :=
  match s.client.current with
  | none => s.answer k (.error s.client.notConnectedFailure)
  | some i =>
    let (id, c) := s.client.takeId i r
    match r.frame id c.settings.clientId with
    | .error f => { s with client := c.dropped }.answer k (.error f)
    | .ok frame => { s with client := c, pending := some ⟨k, ⟨i, id, r⟩, .writing frame⟩ }

/-- A call has its turn. -/
def serve (s : Session) (k : Call) : Session :=
  match k.request? s.client.settings with
  | some r => s.ask k r
  | none =>
    if k = .close then { s with client := s.client.dropped }.answer k (.ok .nothing)
    else
      let (r, c) := s.client.renewed
      { s with client := c }.answer k (r.map fun _ => .nothing)

/-- The first call in line has its turn, unless another one still has the connection. -/
def take (s : Session) : Session :=
  match s.pending, s.waiting with
  | none, k :: ks => { s with waiting := ks }.serve k
  | _, _ => s

/-- The request of a call fails, and its connection is given up. -/
def fail (s : Session) (p : Pending) (c : Client) (f : Failure) : Session :=
  { s with client := c.dropped, pending := none }.answer p.call (.error f)

/-- The exchange of a request came to this. -/
def finish (s : Session) (p : Pending) : Except ExchangeFault Bytes × Connection → Session
  | (.error e, x) =>
    s.fail p (s.client.setConnection p.asked.connection x)
      (s.client.exchangeFailure p.asked.request.api x.address e)
  | (.ok answer, x) =>
    let c := s.client.setConnection p.asked.connection x
    match Client.readAnswer p.asked.request.api p.asked.id p.call.reader answer with
    | .error f => s.fail p c f
    | .ok v => { s with client := c, pending := none }.answer p.call (.ok v)

/-- A request goes on waiting, for something else. -/
def wait (s : Session) (p : Pending) (x : Connection) (stage : Stage) : Session :=
  { s with
    client := s.client.setConnection p.asked.connection x
    pending := some { p with stage } }

/-- What a request waits for comes about, or never will. -/
def proceed (s : Session) (p : Pending) (x : Connection) : Session :=
  match p.stage with
  | .writing frame =>
    match x.write frame with
    | (.error e, x) => s.finish p (.error (.socket e), x)
    | (.ok (), x) => s.wait p x .readingSize
  | .readingSize =>
    match x.read 4 .ended with
    | (.error e, x) => s.finish p (.error e, x)
    | (.ok head, x) =>
      let size := Connection.sizeOf head
      if size < 0 ∨ s.client.settings.maxResponseBytes < size.toNat then
        s.finish p (.error (.badSize size), x)
      else s.wait p x (.readingBody size.toNat)
  | .readingBody size => s.finish p (x.read size .endedWithin)

/-- The call that has the connection goes on. -/
def goOn (s : Session) : Session :=
  match s.pending with
  | none => s
  | some p =>
    match s.client.connections[p.asked.connection]? with
    | none => s.fail p s.client s.client.notConnectedFailure
    | some x => s.proceed p x

/-- The caller of the call that has the connection goes away. The connection stays. -/
def abandon (s : Session) (n : Nat) : Session :=
  match s.pending with
  | none => s
  | some p =>
    let i := p.asked.connection
    let left (x : Connection) : Client := s.client.setConnection i (x.abandoned n p.stage)
    { s with
      client := ((s.client.connections[i]?).map left).getD s.client
      pending := none
      givenUp := s.givenUp ++ [p.asked] }

/-- The first call in line has its turn and asks for a new connection, and its caller goes away
over it. -/
def falter (s : Session) (network : Network) : Session :=
  match s.pending, s.waiting with
  | none, .reconnect :: ks => { s with client := s.client.unrenewed network, waiting := ks }
  | _, _ => s

/-- What can happen next. -/
inductive Step where
  | arrive (k : Call)
  | leave (n : Nat)
  | take
  | goOn
  | abandon (n : Nat)
  | falter (network : Network)

def step (s : Session) : Step → Session
  | .arrive k => s.arrive k
  | .leave n => s.leave n
  | .take => s.take
  | .goOn => s.goOn
  | .abandon n => s.abandon n
  | .falter network => s.falter network

def run (s : Session) (xs : List Step) : Session := xs.foldl step s

/-- The steps of a call that nobody gets in the way of. -/
def undisturbed (k : Call) : List Step := [.arrive k, .take, .goOn, .goOn, .goOn]

end Session

namespace Client

theorem readAnswer_map {α β : Type} (api : Api) (id : Int32) (g : α → β) (read : Reader α)
    (frame : Bytes) :
    readAnswer api id (g <$> read) frame = (readAnswer api id read frame).map g := by
  simp only [readAnswer]
  split
  · rfl
  · split
    · rfl
    · rename_i body _ _
      simp only [Functor.map, StateT.map, bind, Except.bind, pure, Except.pure]
      cases read body <;> rfl

theorem setConnection_setConnection (c : Client) (i : Nat) (x y : Connection) :
    (c.setConnection i x).setConnection i y = c.setConnection i y := by
  simp only [setConnection, List.set_set]

theorem getElem?_setConnection {c : Client} {i : Nat} {x : Connection}
    (here : c.connections[i]? = some x) (y : Connection) :
    (c.setConnection i y).connections[i]? = some y :=
  List.getElem?_set_self (List.getElem?_eq_some_iff.mp here).1

theorem reconnect_eq (c : Client) :
    c.reconnect = if c.closed then (.error c.closedFailure, c) else c.renewed := rfl

end Client

namespace Session

section

variable {s : Session} {p : Pending} {x : Connection}

/-- Between calls there is nothing to go on with. -/
theorem goOn_of_idle (h : s.pending = none) : s.goOn = s := by
  simp only [goOn, h]

theorem goOn_thrice (h : s.pending = none) : s.goOn.goOn.goOn = s := by
  rw [goOn_of_idle h, goOn_of_idle h, goOn_of_idle h]

theorem pending_finish (r : Except ExchangeFault Bytes × Connection) :
    (s.finish p r).pending = none := by
  obtain ⟨_ | answer, y⟩ := r
  · rfl
  · simp only [finish]
    split <;> rfl

/-- The end of an exchange makes no difference between the stages before it. -/
theorem finish_wait (y : Connection) (stage : Stage)
    (r : Except ExchangeFault Bytes × Connection) :
    (s.wait p y stage).finish { p with stage } r = s.finish p r := by
  obtain ⟨_ | answer, z⟩ := r
  · simp only [finish, fail, wait, Client.setConnection_setConnection]
    rfl
  · simp only [finish, fail, wait, Client.setConnection_setConnection]

/-- A request that waits for something at its connection goes on. -/
theorem goOn_eq (hp : s.pending = some p)
    (here : s.client.connections[p.asked.connection]? = some x) : s.goOn = s.proceed p x := by
  simp only [goOn, hp, here]

theorem pending_wait (y : Connection) (stage : Stage) :
    (s.wait p y stage).pending = some { p with stage } := rfl

/-- A connection that a request went on waiting at. -/
theorem getElem?_wait (here : s.client.connections[p.asked.connection]? = some x) (y : Connection)
    (stage : Stage) : (s.wait p y stage).client.connections[p.asked.connection]? = some y :=
  Client.getElem?_setConnection here y

/-- The length and the rest of an answer, one after the other. -/
theorem goOn_readingSize (hp : s.pending = some p) (hstage : p.stage = .readingSize)
    (here : s.client.connections[p.asked.connection]? = some x) :
    s.goOn.goOn = s.finish p (x.receive s.client.settings.maxResponseBytes) := by
  rw [goOn_eq hp here]
  simp only [proceed, hstage, Connection.receive]
  cases x.read 4 .ended with
  | mk r y =>
    cases r with
    | error e => exact goOn_of_idle (pending_finish _)
    | ok head =>
      by_cases hsize : Connection.sizeOf head < 0 ∨
          s.client.settings.maxResponseBytes < (Connection.sizeOf head).toNat
      · simp only [if_pos hsize]
        exact goOn_of_idle (pending_finish _)
      · simp only [if_neg hsize]
        have hwait := pending_wait (s := s) (p := p) y
          (.readingBody (Connection.sizeOf head).toNat)
        rw [goOn_eq hwait (getElem?_wait here y _)]
        exact finish_wait y _ _

/-- A request that starts to be written comes to an exchange. -/
theorem goOn_writing {frame : Bytes} (hp : s.pending = some p) (hstage : p.stage = .writing frame)
    (here : s.client.connections[p.asked.connection]? = some x) :
    s.goOn.goOn.goOn = s.finish p (x.exchange frame s.client.settings.maxResponseBytes) := by
  rw [goOn_eq hp here]
  simp only [proceed, hstage, Connection.exchange]
  cases x.write frame with
  | mk r y =>
    cases r with
    | error e =>
      rw [goOn_of_idle (pending_finish _)]
      exact goOn_of_idle (pending_finish _)
    | ok =>
      dsimp only
      rw [goOn_readingSize (pending_wait y _) rfl (getElem?_wait here y _)]
      exact finish_wait y _ _

end

/-- A session in which a call gave that, with the client after it. -/
def gave (s : Session) (k : Call) (r : Except Failure Value × Client) : Session :=
  { s with client := r.2, pending := none }.answer k r.1

/-- A request without a connection of that number fails, however long it waits. -/
theorem goOn_missing {s : Session} {p : Pending} (hp : s.pending = some p)
    (hmissing : s.client.connections[p.asked.connection]? = none) :
    s.goOn.goOn.goOn = s.fail p s.client s.client.notConnectedFailure := by
  have hfail : s.goOn = s.fail p s.client s.client.notConnectedFailure := by
    simp only [goOn, hp, hmissing]
  rw [hfail, goOn_of_idle rfl, goOn_of_idle rfl]

/-- A request that nobody gets in the way of comes to the call that sends it. -/
theorem goOn_ask {s : Session} {k : Call} {r : Request} (hidle : s.pending = none)
    (hopen : s.client.closed ≠ true) (hr : k.request? s.client.settings = some r) :
    (s.ask k r).goOn.goOn.goOn = s.gave k (s.client.perform k) := by
  obtain ⟨c, ws, pending, rs, gs⟩ := s
  cases hidle
  obtain ⟨α, read, g, hreader, hperform⟩ := Client.perform_eq_send hr
  rw [hperform, Client.send, if_neg hopen]
  cases hi : c.current with
  | none =>
    simp only [ask, hi]
    exact goOn_thrice rfl
  | some i =>
    simp only [ask, hi, Client.roundTrip]
    cases r.frame (c.takeId i r).1 (c.takeId i r).2.settings.clientId with
    | error f => exact goOn_thrice rfl
    | ok frame =>
      cases hx : (c.takeId i r).2.connections[i]? with
      | none => exact goOn_missing (p := ⟨k, ⟨i, (c.takeId i r).1, r⟩, .writing frame⟩) rfl hx
      | some x =>
        dsimp only
        rw [goOn_writing rfl rfl hx]
        cases x.exchange frame (c.takeId i r).2.settings.maxResponseBytes with
        | mk e y =>
          cases e with
          | error e => rfl
          | ok answer =>
            simp only [finish, hreader, Client.readAnswer_map]
            cases Client.readAnswer r.api (c.takeId i r).1 read answer <;> rfl

/-- A call that nobody gets in the way of comes to the call as a whole. -/
theorem run_undisturbed {s : Session} (hidle : s.pending = none) (hfree : s.waiting = [])
    (k : Call) : s.run (undisturbed k) = s.gave k (s.client.perform k) := by
  have hsteps : s.run (undisturbed k) = ((s.arrive k).take).goOn.goOn.goOn := rfl
  obtain ⟨c, ws, pending, rs, gs⟩ := s
  cases hidle
  cases hfree
  rw [hsteps]
  by_cases hclose : k = .close
  · cases hclose
    exact goOn_thrice rfl
  by_cases hclosed : c.closed = true
  · simp only [arrive, if_neg hclose, if_pos hclosed]
    rw [Client.perform_of_closed hclosed hclose]
    exact goOn_thrice rfl
  · simp only [arrive, if_neg hclose, if_neg hclosed, List.nil_append, take, serve]
    cases hr : k.request? c.settings with
    | some r => exact goOn_ask (s := ⟨c, [], none, rs, gs⟩) rfl hclosed hr
    | none =>
      cases k with
      | close => exact absurd rfl hclose
      | reconnect =>
        simp only [Client.perform, Client.reconnect_eq, if_neg hclosed]
        exact goOn_thrice rfl
      | describeAcls | metadata | createTopics | deleteTopics => cases hr

/-- And so do any number of them, one after another. -/
theorem client_run_undisturbed {s : Session} (hidle : s.pending = none) (hfree : s.waiting = [])
    (calls : List Call) :
    (s.run (calls.flatMap undisturbed)).client = s.client.performAll calls := by
  induction calls generalizing s with
  | nil => rfl
  | cons k ks ih =>
    have hfirst : s.run ((k :: ks).flatMap undisturbed) =
        (s.run (undisturbed k)).run (ks.flatMap undisturbed) := by
      rw [List.flatMap_cons]
      exact List.foldl_append
    rw [hfirst, run_undisturbed hidle hfree k]
    exact ih rfl hfree

end Session

end ClusterAdmin.Wire
