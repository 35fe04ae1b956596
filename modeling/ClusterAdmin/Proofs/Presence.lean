import ClusterAdmin.Proofs.Endpoints
import ClusterAdmin.Proofs.Runs

namespace ClusterAdmin

namespace Rest

theorem categoryOfStatus_eq_notFound {status : Nat} :
    categoryOfStatus status = .notFound ↔ status = 404 := by
  unfold categoryOfStatus
  grind

theorem bodyOf_eq_ok {u : Url} {reply : HttpReply} {body : String} :
    bodyOf u reply = .ok body ↔
      ∃ status, reply = .answered status body ∧ isSuccess status = true := by
  unfold bodyOf
  grind

/-- Of the replies that fail, those with one status are of the kind of what is not found. -/
theorem bodyOf_notFound {u : Url} {reply : HttpReply} :
    (∃ f, bodyOf u reply = .error f ∧ f.category = .notFound) ↔
      ∃ body, reply = .answered 404 body := by
  cases reply with
  | answered status body =>
    simp only [bodyOf, HttpReply.answered.injEq, exists_and_left, exists_eq', and_true]
    split
    · rename_i success
      simp only [reduceCtorEq, false_and, exists_false, false_iff]
      rintro rfl
      cases success
    · simp [statusFailure, Failure.new, categoryOfStatus_eq_notFound]
  | unanswered | unreachable =>
    simp [bodyOf, sendFailure, httpFailure, Failure.new, Failure.causedBy]

theorem decode_error {α : Type} {d : Json.Decoder α} {body : String} {f : Failure}
    (h : decode d body = .error f) : f.category = .unknown := by
  rw [decode] at h
  split at h <;> cases h
  rfl

/-- A request that cannot be made is a failure of the kind of what is not found only by the wording
of a URL. -/
theorem HttpRequest.make_notFound {m : Method} {address : String} {own : Option String}
    {body : Option Json} {f : Failure} (h : make m address own body = .error f)
    (hf : f.category = .notFound) : ∃ u, f = buildFailure (some u) := by
  have hnone : f ≠ buildFailure none := by
    rintro rfl
    exact absurd hf (by decide +kernel)
  unfold make at h
  split at h
  · exact absurd (Except.error.inj h).symm hnone
  · rename_i whole _
    simp only at h
    generalize (if (whole.authority.bind Authority.login?).isSome then whole.anonymous else whole) =
      u at h
    split at h
    · exact ⟨whole, (Except.error.inj h).symm⟩
    split at h
    · exact absurd (Except.error.inj h).symm hnone
    split at h
    · exact ⟨u, (Except.error.inj h).symm⟩
    · cases h

end Rest

open Rest

/-- A proxy is found to know no clusters by its status or by a list that is empty. -/
theorem Dispatch.discovered_notFound {d : Dispatch} {base : String} {f : Failure}
    (h : d.discovered base = .error f) (hf : f.category = .notFound) :
    ∃ status body, d.reply = .answered status body ∧
      (status = 404 ∨ isSuccess status = true ∧ decode (listOf clusterId) body = .ok []) := by
  rw [discovered] at h
  cases hbody : bodyOf d.request.url d.reply with
  | error g =>
    rw [hbody] at h
    cases h
    obtain ⟨body, hreply⟩ := bodyOf_notFound.mp ⟨f, hbody, hf⟩
    exact ⟨404, body, hreply, .inl rfl⟩
  | ok body =>
    obtain ⟨status, hreply, success⟩ := bodyOf_eq_ok.mp hbody
    refine ⟨status, body, hreply, .inr ⟨success, ?_⟩⟩
    simp only [hbody, Except.bind] at h
    cases hids : decode (listOf clusterId) body with
    | error g =>
      rw [hids] at h
      cases h
      cases (decode_error hids).symm.trans hf
    | ok ids =>
      rw [hids] at h
      cases ids with
      | nil => rfl
      | cons id ids => cases h

namespace Services

theorem baseUrl_error {c : Cluster} {f : Failure} (h : baseUrl c = .error f) :
    f.category = .invalid := by
  simp only [baseUrl] at h
  split at h <;> cases h
  rfl

variable {s : Services} {c : Cluster} {flavor : Flavor} {name : String} {ds : List Dispatch}
  {f f' : Failure}

theorem Misses.unique (h : s.Misses c flavor ds f) (h' : s.Misses c flavor ds f') : f = f' := by
  cases h with
  | endpoint _ missing =>
    cases h' with
    | endpoint _ missing' => exact Except.error.inj (missing.symm.trans missing')
    | prevented _ endpoint' | undiscovered _ _ endpoint' => cases missing.symm.trans endpoint'
  | prevented unasked endpoint _ prevented =>
    cases h' with
    | endpoint _ missing' => cases endpoint.symm.trans missing'
    | prevented _ endpoint' _ prevented' =>
      cases endpoint.symm.trans endpoint'
      exact prevented.unique prevented'
    | undiscovered asked' => cases unasked.symm.trans asked'
  | undiscovered asked _ endpoint _ failed =>
    cases h' with
    | endpoint _ missing' => cases endpoint.symm.trans missing'
    | prevented unasked' => cases asked.symm.trans unasked'
    | undiscovered asked' _ endpoint' _ failed' =>
      cases asked.symm.trans asked'
      cases endpoint.symm.trans endpoint'
      exact Except.error.inj (failed.symm.trans failed')

/-- Why the request for a topic is not sent, in the state that the requests before it led to. -/
inductive Hindered (s : Services) (c : Cluster) (flavor : Flavor) (name : String)
    (ds : List Dispatch) (f : Failure) : Prop
  /-- The cluster's place at its proxy is not found. -/
  | missed (h : s.Misses c flavor ds f)
  | prevented {base id : String} (asked : ∀ d ∈ ds, d.errand = .clusters)
    (endpoint : baseUrl c = .ok base) (knows : s.Knows c flavor id)
    (prevented : s.Prevents c .get ((Errand.lookFor name).address base flavor id) none f)

namespace Hindered

theorem clusters (h : s.Hindered c flavor name ds f) : ∀ d ∈ ds, d.errand = .clusters := by
  cases h with
  | prevented asked => exact asked
  | missed h =>
    cases h with
    | endpoint unasked | prevented unasked => simp [unasked]
    | undiscovered asked clusters => simpa [asked] using clusters

theorem unique (h : s.Hindered c flavor name ds f) (h' : s.Hindered c flavor name ds f') :
    f = f' := by
  cases h with
  | missed h =>
    cases h' with
    | missed h' => exact h.unique h'
    | prevented _ endpoint' knows' => exact absurd knows' (h.not_knows endpoint')
  | prevented _ endpoint knows prevented =>
    cases h' with
    | missed h' => exact absurd knows (h'.not_knows endpoint)
    | prevented _ endpoint' knows' prevented' =>
      cases endpoint.symm.trans endpoint'
      cases knows.unique knows'
      exact prevented.unique prevented'

end Hindered

section

variable {r : Except Failure String}

end

theorem Prevents.source {m : Method} {url : String} {body : Option Json}
    (h : s.Prevents c m url body f) (hf : f.category = .notFound) :
    s.authorization c = .error f ∨ ∃ u, f = buildFailure (some u) := by
  cases h with
  | unauthorized refused => exact .inl refused
  | unmakeable _ refused => exact .inr (HttpRequest.make_notFound refused hf)

theorem Hindered.source (h : s.Hindered c flavor name ds f) (hf : f.category = .notFound) :
    s.authorization c = .error f ∨ (∃ u, f = buildFailure (some u)) ∨
      ∃ d, ds = [d] ∧ d.errand = .clusters ∧ ∃ status body, d.reply = .answered status body ∧
        (status = 404 ∨ isSuccess status = true ∧ decode (listOf clusterId) body = .ok []) := by
  cases h with
  | prevented _ _ _ prevented => exact (prevented.source hf).imp_right .inl
  | missed h =>
    cases h with
    | endpoint _ missing => cases (baseUrl_error missing).symm.trans hf
    | prevented _ _ _ prevented => exact (prevented.source hf).imp_right .inl
    | undiscovered asked clusters _ _ failed =>
      exact .inr (.inr ⟨_, asked, clusters, Dispatch.discovered_notFound failed hf⟩)

/-- A proxy that names no clusters is not asked for the topic, which is said not to be there. -/
example :
    let s := { Services.idle with web := ⟨fun _ _ => .answered 200 "\x7b\"data\":[]\x7d", []⟩ }
    let c := Cluster.proxiedAt "conn-1" "dev" "http://proxy"
    (s.proxyExists c .localProxy "orders").1.toOption = some false ∧
      (s.proxyExists c .localProxy "orders").2.web.sent.map (·.url.text) =
        ["http://proxy/v3/clusters"] := by
  decide +kernel

end Services

end ClusterAdmin
