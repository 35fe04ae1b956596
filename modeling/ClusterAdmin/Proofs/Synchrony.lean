import ClusterAdmin.Proofs.Calls

namespace ClusterAdmin.Wire

namespace Client

/-- A value was read from the next frame of a connection, which answers the request that went out
just before as the next one on that connection. -/
structure ReadFrom (c : Client) (k : Call) (r : Request) (v : Value) (x x' : Connection)
    (frame answer : Bytes) : Prop where
  framed : r.frame c.nextId c.settings.clientId = .ok frame
  exchanged : x.Exchanged frame answer x'
  within : answer.length ≤ c.settings.maxResponseBytes
  told : ∃ body rest, readInt32 answer = .ok (c.nextId, body) ∧ k.reader body = .ok (v, rest)

/-- All requests on a connection went out whole, and nothing else did. Their answers were read, and
nothing else was. -/
structure InStep (c : Client) (i : Nat) (x : Connection) (es : List Exchange) : Prop where
  asked : c.askedOn i = es.map (·.asked)
  written : List.Forall₂ (fun e frame => e.asked.frame c.settings = .ok frame) es x.written
  consumed : x.consumed = es.flatMap fun e => writeOctets e.answer
  answers : ∀ e ∈ es, e.answer.length ≤ c.settings.maxResponseBytes ∧
    ∃ body, readInt32 e.answer = .ok (e.asked.id, body)

theorem Held.inStep {c : Client} {i : Nat} {es : List Exchange} (h : c.Held i es none) :
    ∃ x, c.connections[i]? = some x ∧ c.InStep i x es := by
  obtain ⟨⟨address, peer, x, hx, course⟩, asked⟩ := h
  exact ⟨x, hx, by simpa [log] using asked, course.kept.1, course.kept.2, course.answers⟩

theorem Standing.held {c : Client} {i : Nat} (h : c.Standing i) :
    ∃ es failed, c.Held i es failed := by
  obtain ⟨s, refused⟩ | ⟨login, work, failed, admitted⟩ := h
  · exact refused.held
  · exact ⟨_, _, admitted.held⟩

/-- The request of a call is out on the connection that serves, which is then as given. -/
structure Awaits (c : Client) (k : Call) (i : Nat) (x y : Connection) : Prop where
  serving : c.current = some i
  here : c.connections[i]? = some x
  out : ∃ r frame, k.request? c.settings = some r ∧
    r.frame c.nextId c.settings.clientId = .ok frame ∧ x.write frame = (.ok (), y)

section

variable {c : Client} {k : Call} {i : Nat} {x y : Connection}

/-- A length that is refused is the last thing that is read. -/
theorem Sound.perform_of_badSize (h : Sound c) (awaits : c.Awaits k i x y) {size : Int}
    (come : 4 ≤ y.unread.length) (announced : Connection.sizeOf (y.unread.take 4) = size)
    (bad : size < 0 ∨ c.settings.maxResponseBytes < size.toNat) :
    ∃ c' x', c.perform k = (.error (Failure.invalid
        s!"Response size {size} outside allowed range (max {c.settings.maxResponseBytes})"), c') ∧
      c'.connections[i]? = some x' ∧ x'.consumed = x.consumed ++ y.unread.take 4 := by
  obtain ⟨serving, here, r, frame, hr, framed, out⟩ := awaits
  obtain ⟨α, read, g, -, hperform⟩ := perform_eq_send hr
  obtain ⟨x', hexchange, hconsumed⟩ := Connection.exchange_of_badSize out come announced bad
  obtain ⟨hi, -⟩ := List.getElem?_eq_some_iff.mp here
  have hsend : c.send r read = (.error (c.exchangeFailure r.api x'.address (.badSize size)),
      (c.after i [⟨i, c.nextId, r⟩] x').dropped) := by
    simp only [send, if_neg (h.closed_ne serving), serving, c.roundTrip_eq here r read framed,
      hexchange]
  refine ⟨_, x', by rw [hperform, hsend]; rfl, ?_, hconsumed⟩
  exact List.getElem?_set_self hi

/-- A whole frame within the limit that answers the request gives the call its value. -/
theorem Sound.perform_of_frame (h : Sound c) (awaits : c.Awaits k i x y)
    {head answer rest body tail : Bytes} {v : Value} (come : y.unread = head ++ (answer ++ rest))
    (four : head.length = 4) (announced : Connection.sizeOf head = answer.length)
    (within : answer.length ≤ c.settings.maxResponseBytes)
    (answers : readInt32 answer = .ok (c.nextId, body)) (told : k.reader body = .ok (v, tail)) :
    (c.perform k).1 = .ok v := by
  obtain ⟨serving, here, r, frame, hr, framed, out⟩ := awaits
  obtain ⟨α, read, g, hread, hperform⟩ := perform_eq_send hr
  obtain ⟨x', hexchange⟩ := Connection.exchange_of_frame out come four announced within
  rw [hread] at told
  obtain ⟨a, hbody, rfl⟩ := map_eq_ok told
  have hanswer : readAnswer r.api c.nextId read answer = .ok a := by
    simp only [readAnswer, answers, hbody, ne_eq, not_true_eq_false, if_false]
  rw [hperform]
  simp only [send, if_neg (h.closed_ne serving), serving, c.roundTrip_eq here r read framed,
    hexchange, hanswer]
  rfl

end

section

variable {c : Client} {k : Call} {r : Request}

/-- A value is read from the next frame of the connection that serves, and that one serves on. -/
theorem Sound.perform_eq_ok (h : Sound c) (hr : k.request? c.settings = some r) {v : Value}
    {c' : Client} (hp : c.perform k = (.ok v, c')) :
    ∃ i x x' frame answer, c.current = some i ∧ c'.current = some i ∧
      c.connections[i]? = some x ∧ c'.connections[i]? = some x' ∧
      c.ReadFrom k r v x x' frame answer := by
  obtain ⟨-, f, hp'⟩ | ⟨i, x, hi, here, ⟨v', answer, x', hp', passes, tells⟩ | ⟨f, x', hp', -⟩⟩ :=
    h.perform_cases hr
  · cases hp.symm.trans hp'
  · cases hp.symm.trans hp'
    obtain ⟨hlt, -⟩ := List.getElem?_eq_some_iff.mp here
    obtain ⟨⟨frame, hframe, exchanged⟩, within, -⟩ := passes
    exact ⟨i, x, x', frame, answer, hi, hi, here, List.getElem?_set_self hlt,
      hframe, exchanged, within, tells⟩
  · cases hp.symm.trans hp'

end

/-- After a call that failed no connection serves. -/
theorem Sound.current_of_error {c c' : Client} (h : Sound c) {k : Call} {f : Failure}
    (hp : c.perform k = (.error f, c')) : c'.current = none := by
  cases hr : k.request? c.settings with
  | some r =>
    obtain ⟨hnone, f, hp'⟩ | ⟨i, x, hi, here, ⟨v, answer, x', hp', -⟩ | ⟨f, x', hp', -⟩⟩ :=
      h.perform_cases hr
    · cases hp.symm.trans hp'
      exact hnone
    · cases hp.symm.trans hp'
    · cases hp.symm.trans hp'
      rfl
  | none =>
    cases k with
    | reconnect =>
      simp only [perform, mapResult] at hp
      obtain ⟨hclosed, f, hp'⟩ | ⟨f, c'', opens, hp'⟩ | ⟨i, c'', -, -, hp'⟩ := h.reconnect_cases
      all_goals
        rw [hp'] at hp
        cases hp
      · exact h.closed hclosed
      · exact opens.idle
    | close => cases hp
    | describeAcls | metadata | createTopics | deleteTopics => cases hr

/-- Then the client is not connected, and none of its connections is touched any more. -/
theorem Sound.perform_eq_error {c c' : Client} (h : Sound c) {k : Call} {f : Failure}
    (hp : c.perform k = (.error f, c')) :
    c'.current = none ∧ c'.isConnected = false ∧ ∀ later (i : Nat) (x : Connection),
      c'.connections[i]? = some x → (c'.performAll later).connections[i]? = some x := by
  have hnone := h.current_of_error hp
  have hsound : Sound c' := by
    have hfollows := h.follows k
    rw [hp] at hfollows
    exact hfollows.sound
  refine ⟨hnone, ?_, fun later i x hx => ?_⟩
  · have hconnected := hsound.connected
    rw [hnone, Option.isSome_none] at hconnected
    rw [isConnected, hconnected, Bool.and_false]
  · exact ((hsound.follows_performAll later).spares i x hx (by simp [hnone])).1

/-- Calls of a client in any order, with whatever at the other end of its connections. A request
that gives a value was answered by the next frame on the connection that serves, with the request's
own identifier, and every such frame gives one. A length that is negative or above the limit is
refused. On every connection nothing goes out but the frames of its requests, the last of which may
be cut, and of what comes after a length no more is read than that announces. After a call that
failed none of the connections made so far serves, and none is touched by later calls. On the
connection that serves all requests went out whole and all their answers were read, and nothing
else. And fewer requests than there are identifiers have different ones. -/
theorem streams_in_step (target : Target) (settings : NativeConfig) (network : Network)
    (nonce : Nat → String) (calls : List Call) :
    let c := used target settings network nonce calls
    (∀ k r v c', k.request? c.settings = some r → c.perform k = (.ok v, c') →
      ∃ i x x' frame answer, c.current = some i ∧ c'.current = some i ∧
        c.connections[i]? = some x ∧ c'.connections[i]? = some x' ∧
        c.ReadFrom k r v x x' frame answer) ∧
    (∀ k i x y head answer rest body v tail, c.Awaits k i x y →
      y.unread = head ++ (answer ++ rest) → head.length = 4 →
      Connection.sizeOf head = answer.length → answer.length ≤ c.settings.maxResponseBytes →
      readInt32 answer = .ok (c.nextId, body) → k.reader body = .ok (v, tail) →
      (c.perform k).1 = .ok v) ∧
    (∀ k i x y size, c.Awaits k i x y →
      4 ≤ y.unread.length → Connection.sizeOf (y.unread.take 4) = size →
      size < 0 ∨ c.settings.maxResponseBytes < size.toNat →
      ∃ c' x', c.perform k = (.error (Failure.invalid
          s!"Response size {size} outside allowed range (max {c.settings.maxResponseBytes})"), c') ∧
        c'.connections[i]? = some x' ∧ x'.consumed = x.consumed ++ y.unread.take 4) ∧
    (∀ i x, c.connections[i]? = some x → ∃ es failed octets, c.askedOn i = log es failed ∧
      GoesOut c.settings (c.askedOn i) x.written ∧
      x.consumed = (es.flatMap fun e => writeOctets e.answer) ++ octets ∧
      Connection.Measured c.settings.maxResponseBytes octets) ∧
    (∀ k f c', c.perform k = (.error f, c') →
      c'.current = none ∧ c'.isConnected = false ∧ ∀ later (i : Nat) (x : Connection),
        c'.connections[i]? = some x → (c'.performAll later).connections[i]? = some x) ∧
    (∀ i, c.current = some i → ∃ x es, c.connections[i]? = some x ∧ c.InStep i x es) ∧
    (c.asked.length < UInt32.size → (c.asked.map (·.id)).Nodup) := by
  intro c
  have h : Sound c := (follows_used target settings network nonce calls).sound
  refine ⟨?answered, ?answers, ?refused, ?measured, ?failed, ?serving, h.numbered.nodup⟩
  case answered => exact fun k r v c' hr hp => h.perform_eq_ok hr hp
  case answers =>
    intro k i x y head answer rest body v tail awaits come four announced within answers told
    exact h.perform_of_frame awaits come four announced within answers told
  case refused =>
    intro k i x y size awaits come announced bad
    exact h.perform_of_badSize awaits come announced bad
  case measured =>
    intro i x hx
    obtain ⟨hi, -⟩ := List.getElem?_eq_some_iff.mp hx
    obtain ⟨es, failed, ⟨address, peer, y, hy, course⟩, asked⟩ := (h.standing i hi).held
    cases hx.symm.trans hy
    obtain ⟨hwritten, octets, hconsumed, hmeasured⟩ := course.bounds
    exact ⟨es, failed, octets, asked, asked ▸ hwritten, hconsumed, hmeasured⟩
  case failed => exact fun k f c' hp => h.perform_eq_error hp
  case serving =>
    intro i hi
    obtain ⟨login, work, admitted⟩ := h.serving i hi
    obtain ⟨x, hx, hstep⟩ := admitted.held.inStep
    exact ⟨x, _, hx, hstep⟩

/-- A broker that answers everything as if it were the first request is believed once. After its
second answer no connection serves, and this one is not touched any more. -/
theorem streams_in_step_stale :
    let answer : Bytes := List.replicate 12 0
    let broker : Peer := ⟨fun _ _ => none,
      fun written => ⟨if written = [] then [] else writeOctets answer, .pending⟩⟩
    let c := used ⟨⟨"eu", "a"⟩, ["b:9092"], none, none⟩ {} (fun _ _ => .ok broker) (fun _ => "")
    let k := Call.deleteTopics []
    (∃ x x' frame answer, (c []).connections[0]? = some x ∧ (c [k]).connections[0]? = some x' ∧
      (c []).ReadFrom k (.deleteTopics [] 30000) (.topics []) x x' frame answer) ∧
    ((c [k]).perform k).1 = .error (Failure.transient
      "Correlation id mismatch for DeleteTopics: expected 1, got 0") ∧
    (c [k, k]).isConnected = false ∧ ∀ later (i : Nat) (x : Connection),
      (c [k, k]).connections[i]? = some x →
        ((c [k, k]).performAll later).connections[i]? = some x := by
  intro answer broker c k
  have hfirst : ((c []).perform k).1 = .ok (.topics []) := by decide +kernel
  have hsecond : ((c [k]).perform k).1 = .error (Failure.transient
      "Correlation id mismatch for DeleteTopics: expected 1, got 0") := by decide +kernel
  have hserving : (c []).current = some 0 := by decide +kernel
  have hrequest (calls : List Call) :
      k.request? (c calls).settings = some (.deleteTopics [] 30000) := by
    rw [(follows_used _ _ _ _ calls).alike.settings]
    rfl
  obtain ⟨i, x, x', frame, answer, hi, -, hx, hx', read⟩ :=
    (streams_in_step _ _ _ _ []).1 k _ _ (c [k]) (hrequest []) (Prod.ext hfirst rfl)
  cases hserving.symm.trans hi
  obtain ⟨-, hdropped, hspared⟩ :=
    (streams_in_step _ _ _ _ [k]).2.2.2.2.1 k _ (c [k, k]) (Prod.ext hsecond rfl)
  exact ⟨⟨x, x', frame, answer, hx, hx', read⟩, hsecond, hdropped, hspared⟩

end Client

end ClusterAdmin.Wire
