import ClusterAdmin.Proofs.Calls

namespace ClusterAdmin.Wire

namespace Client

/-- What was sent on a connection where a login was to be made: first the requests of the login, and
then others. -/
structure Sent (c : Client) (i : Nat) (s : SaslConfig) (x : Connection) (login work : List Asked) :
    Prop where
  asked : c.askedOn i = login ++ work
  first : LoginRequests s (login.map (·.request))
  admin : ∀ a ∈ work, a.request.isAdmin = true
  written : GoesOut c.settings (login ++ work) x.written

theorem Admitted.sent {c : Client} {i : Nat} {s : SaslConfig} {x : Connection}
    {login work : List Exchange} {failed : Option Asked} (h : c.Admitted i login work failed)
    (sasl : c.target.sasl = some s) (here : c.connections[i]? = some x) :
    c.Sent i s x (log login none) (log work failed) ∧ LoggedIn s (c.nonce i) login ∧
      (login.flatMap fun e => writeOctets e.answer) <+: x.consumed := by
  obtain ⟨⟨⟨address, peer, y, hy, course⟩, asked⟩, admits, admin⟩ := h
  cases here.symm.trans hy
  rw [sasl] at admits
  obtain ⟨hwritten, octets, hconsumed, -⟩ := course.bounds
  rw [log_append] at asked hwritten
  refine ⟨⟨asked, admits.requests, admin, hwritten⟩, admits, ?_⟩
  rw [hconsumed, List.flatMap_append, List.append_assoc]
  exact List.prefix_append _ _

theorem Refused.sent {c : Client} {i : Nat} {s s' : SaslConfig} {x : Connection}
    (h : c.Refused i s') (sasl : c.target.sasl = some s) (here : c.connections[i]? = some x) :
    c.Sent i s x (c.askedOn i) [] := by
  obtain ⟨sasl', ⟨es, failed, ⟨address, peer, y, hy, course⟩, asked⟩, requests⟩ := h
  cases here.symm.trans hy
  cases sasl.symm.trans sasl'
  refine ⟨(List.append_nil _).symm, requests, by simp, ?_⟩
  rw [List.append_nil, asked]
  exact course.bounds.1

/-- All requests that a call makes on a connection but the one that serves are those of logins. -/
theorem Sound.perform_asked {c : Client} (h : Sound c) (k : Call) :
    ∃ made, (c.perform k).2.asked = c.asked ++ made ∧
      ∀ a ∈ made, a.request.isAdmin = true → c.current = some a.connection := by
  cases hr : k.request? c.settings with
  | some r =>
    obtain ⟨-, f, hp⟩ | ⟨i, x, hi, -, ⟨v, answer, x', hp, -⟩ | ⟨f, x', hp, -⟩⟩ :=
      h.perform_cases hr
    · exact ⟨[], by rw [hp, List.append_nil], by simp⟩
    all_goals
      refine ⟨[⟨i, c.nextId, r⟩], by rw [hp]; rfl, fun a ha _ => ?_⟩
      cases List.mem_singleton.mp ha
      exact hi
  | none =>
    cases k with
    | reconnect =>
      simp only [perform, mapResult]
      obtain ⟨-, f, hp⟩ | ⟨f, c', opens, hp⟩ | ⟨i, c', -, opens, hp⟩ := h.reconnect_cases
      all_goals rw [hp]
      · exact ⟨[], (List.append_nil _).symm, by simp⟩
      all_goals
        obtain ⟨made, hasked, hmade⟩ := opens.asked
        exact ⟨made, hasked, fun a ha hadmin => by cases (hmade a ha).symm.trans hadmin⟩
    | close => exact ⟨[], (List.append_nil _).symm, by simp⟩
    | describeAcls | metadata | createTopics | deleteTopics => cases hr

/-- Calls of a client that logs in, in any order, with whatever at the other end of its connections.
On each connection the requests of the login come first and then come others, and nothing goes out
but their frames, the last of which may be cut. Where there are others, and on the connection that
serves, the server agreed to the mechanism and took every message of the login, and for SCRAM it
showed its signature; the answers in which it did so were read from that connection. No call makes a
request that is not of a login on any connection but the one that served before the call. And the
client is connected only while one serves. -/
theorem admin_after_login (target : Target) (settings : NativeConfig) (network : Network)
    (nonce : Nat → String) (calls : List Call) {s : SaslConfig} (sasl : target.sasl = some s) :
    let c := used target settings network nonce calls
    (∀ i x, c.connections[i]? = some x → ∃ login work, c.Sent i s x login work ∧
      (work ≠ [] ∨ c.current = some i → ∃ es, log es none = login ∧ LoggedIn s (nonce i) es ∧
        (es.flatMap fun e => writeOctets e.answer) <+: x.consumed)) ∧
    (∀ k, ∃ made, (c.perform k).2.asked = c.asked ++ made ∧
      ∀ a ∈ made, a.request.isAdmin = true → c.current = some a.connection) ∧
    (c.isConnected = true → ∃ i x, c.current = some i ∧ c.connections[i]? = some x) := by
  intro c
  obtain ⟨h, alike, -⟩ := follows_used target settings network nonce calls
  have hsasl : c.target.sasl = some s := by rw [alike.target]; exact sasl
  have hnonce : c.nonce = nonce := alike.nonce
  refine ⟨fun i x hx => ?_, h.perform_asked, fun hconnected => ?_⟩
  · obtain ⟨hi, -⟩ := List.getElem?_eq_some_iff.mp hx
    have hadmitted {login work failed} (hadmitted : c.Admitted i login work failed) :
        ∃ login work, c.Sent i s x login work ∧ (work ≠ [] ∨ c.current = some i →
          ∃ es, log es none = login ∧ LoggedIn s (nonce i) es ∧
            (es.flatMap fun e => writeOctets e.answer) <+: x.consumed) := by
      obtain ⟨hsent, hlogin, hread⟩ := hadmitted.sent hsasl hx
      exact ⟨_, _, hsent, fun _ => ⟨_, rfl, hnonce ▸ hlogin, hread⟩⟩
    obtain ⟨s', refused⟩ | ⟨login, work, failed, admitted⟩ := h.standing i hi
    · by_cases hserving : c.current = some i
      · obtain ⟨login, work, admitted⟩ := h.serving i hserving
        exact hadmitted admitted
      · refine ⟨_, _, refused.sent hsasl hx, fun hor => ?_⟩
        rcases hor with hwork | hserves
        · exact absurd rfl hwork
        · exact absurd hserves hserving
    · exact hadmitted admitted
  · rw [isConnected, h.connected, Bool.and_eq_true] at hconnected
    obtain ⟨i, hi⟩ := Option.isSome_iff_exists.mp hconnected.2
    obtain ⟨x, hx⟩ := h.here hi
    exact ⟨i, x, hi, hx⟩

/-- A broker lets a client in and deletes no topics for it. The one request after the login goes out
on the same connection. -/
theorem admin_after_login_deleting :
    let broker : Peer := ⟨fun _ _ => none, fun
      | [_] => ⟨writeOctets (writeInt32 0 ++ List.replicate 6 0), .pending⟩
      | [_, _] => ⟨writeOctets (writeInt32 1 ++ [0, 0, 255, 255] ++ List.replicate 12 0), .pending⟩
      | [_, _, _] => ⟨writeOctets (writeInt32 2 ++ List.replicate 8 0), .pending⟩
      | _ => ⟨[], .pending⟩⟩
    let login : SaslConfig := ⟨.plain, "user", "pencil"⟩
    let c := used ⟨⟨"eu", "a"⟩, ["b:9092"], some login, none⟩ {} (fun _ _ => .ok broker)
      (fun _ => "") [.deleteTopics []]
    (c.askedOn 0).map (·.request.api) = [.saslHandshake, .saslAuthenticate, .deleteTopics] ∧
      c.isConnected = true ∧ ∃ i x es work, c.connections[i]? = some x ∧
        c.Sent i login x (log es none) work ∧ LoggedIn login "" es := by
  intro broker login c
  have hasked : (c.askedOn 0).map (·.request.api) =
      [.saslHandshake, .saslAuthenticate, .deleteTopics] := by decide +kernel
  have hconnected : c.isConnected = true := by decide +kernel
  obtain ⟨hsent, -, hserves⟩ := @admin_after_login ⟨⟨"eu", "a"⟩, ["b:9092"], some login, none⟩ {}
    (fun _ _ => .ok broker) (fun _ => "") [.deleteTopics []] login rfl
  obtain ⟨i, x, hi, hx⟩ := hserves hconnected
  obtain ⟨_, work, hsent, hlogin⟩ := hsent i x hx
  obtain ⟨es, rfl, loggedIn, -⟩ := hlogin (.inr hi)
  exact ⟨hasked, hconnected, i, x, es, work, hx, hsent, loggedIn⟩

end Client

end ClusterAdmin.Wire
