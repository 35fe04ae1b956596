import ClusterAdmin.Proofs.Calls

namespace ClusterAdmin.Wire.Client

/-- A call on a closed client fails, but for closing it again, and leaves it as it is. -/
theorem perform_of_closed {c : Client} (hclosed : c.closed = true) {k : Call} (hk : k ≠ .close) :
    c.perform k = (.error c.closedFailure, c) := by
  cases k with
  | close => exact absurd rfl hk
  | reconnect =>
    simp only [perform, reconnect, if_pos hclosed]
    rfl
  | describeAcls | metadata | createTopics | deleteTopics =>
    simp only [perform, describeAcls, metadata, createTopics, deleteTopics, send, if_pos hclosed]
    rfl

theorem perform_close (c : Client) (k : Call) :
    c.close.perform k =
      if k = .close then (.ok .nothing, c.close) else (.error c.closedFailure, c.close) := by
  by_cases hk : k = .close
  · rw [if_pos hk, hk]
    rfl
  · rw [if_neg hk]
    exact perform_of_closed rfl hk

theorem performAll_close (c : Client) (calls : List Call) : c.close.performAll calls = c.close := by
  induction calls with
  | nil => rfl
  | cons k ks ih =>
    have hk : (c.close.perform k).2 = c.close := by
      rw [perform_close]
      split <;> rfl
    rw [performAll, List.foldl_cons, hk]
    exact ih

/-- What is called after a client was closed makes no difference to it. -/
theorem used_close (target : Target) (settings : NativeConfig) (network : Network)
    (nonce : Nat → String) (before later : List Call) :
    used target settings network nonce (before ++ .close :: later) =
      (used target settings network nonce before).close := by
  simp only [used, performAll, List.foldl_append, List.foldl_cons]
  exact performAll_close _ later

/-- Once a client was closed, every call but another closing fails transiently, whatever the network
would do for it. No connection is made, nothing is asked on those there are, and none serves. -/
theorem closed_for_good (target : Target) (settings : NativeConfig) (network : Network)
    (nonce : Nat → String) (before later : List Call) :
    let c := used target settings network nonce before
    let c' := used target settings network nonce (before ++ .close :: later)
    (∀ k network', k ≠ .close →
      Client.perform { c' with network := network' } k =
        (.error c'.closedFailure, { c' with network := network' })) ∧
    c'.closedFailure.category = .transient ∧ c'.closedFailure.retryable = true ∧
    c'.connections = c.connections ∧ c'.asked = c.asked ∧
    c'.current = none ∧ c'.isConnected = false := by
  intro c c'
  have hclosed : c' = c.close := used_close target settings network nonce before later
  rw [hclosed]
  refine ⟨fun k network' hk => ?_, rfl, rfl, rfl, rfl, rfl, rfl⟩
  exact (perform_close { c with network := network' } k).trans (if_neg hk)

/-- A client that served is closed. It does not connect again, although the server still would. -/
theorem closed_for_good_serving :
    let broker : Peer := ⟨fun _ _ => none,
      fun written => ⟨if written = [] then [] else writeOctets (List.replicate 12 0), .pending⟩⟩
    let c := used ⟨⟨"eu", "a"⟩, ["b:9092"], none, none⟩ {} (fun _ _ => .ok broker) (fun _ => "")
    let k := Call.deleteTopics []
    (c [k]).isConnected = true ∧ ((c []).perform k).1 = .ok (.topics []) ∧
    ((c [k, .close, k]).perform .reconnect).1 = .error (Failure.transient
      "Admin client for eu/a has been closed") ∧
    ((c [k, .close, k]).perform .reconnect).2.isConnected = false ∧
    (c [k, .close, k]).connections = (c [k]).connections := by
  intro broker c k
  obtain ⟨hfails, -, -, hconnections, -, -, hdown⟩ := closed_for_good
    ⟨⟨"eu", "a"⟩, ["b:9092"], none, none⟩ {} (fun _ _ => .ok broker) (fun _ => "") [k] [k]
  have hreconnect := hfails .reconnect (fun _ _ => .ok broker) (by decide)
  refine ⟨by decide +kernel, by decide +kernel, ?_, ?_, hconnections⟩
  · refine (congrArg Prod.fst hreconnect).trans ?_
    rw [used_close]
    decide +kernel
  · exact (congrArg (fun r => r.2.isConnected) hreconnect).trans hdown

end ClusterAdmin.Wire.Client
