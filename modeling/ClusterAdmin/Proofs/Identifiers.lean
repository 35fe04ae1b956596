import ClusterAdmin.Proofs.Endpoints
import ClusterAdmin.Proofs.Remembering

namespace ClusterAdmin

open Rest

/-- A request for the clusters that the proxy at an endpoint has. -/
def AsksForClusters (base : String) (flavor : Flavor) (q : HttpRequest) : Prop :=
  ∃ own, HttpRequest.make .get (base ++ flavor.pathPrefix ++ "/clusters") own none = .ok q

namespace Services

/-- Among these requests, sent one after another from a state on, is one for the clusters that the
proxy at an endpoint has, and the reply named this one. -/
def Discovers (s : Services) (base : String) (flavor : Flavor) (sent : List HttpRequest)
    (id : String) : Prop :=
  ∃ before q after, sent = before ++ q :: after ∧ AsksForClusters base flavor q ∧
    id ∈ clustersNamed q (s.web.reply (s.web.sent ++ before) q)

end Services

/-- In a moment, topics of a cluster were administered through a proxy at its own endpoint, which
named this one among the clusters that it has. -/
structure Moment.Discovers (m : Moment) (flavor : Flavor) (c : Cluster) (base id : String) :
    Prop where
  call : ∃ call, m.action = .topics (.rest flavor) c call
  endpoint : Services.baseUrl c = .ok base
  named : ∃ sent, m.after.web.sent = m.before.web.sent ++ sent ∧
    m.before.Discovers base flavor sent id

namespace Services

namespace Errands

variable {c : Cluster} {flavor : Flavor} {ds : List Dispatch} {s s' : Services}

/-- What is learnt on the way was asked of a local proxy, at the cluster's own endpoint. -/
theorem discovers (h : Errands c flavor ds s s') {before after : List Dispatch} {d : Dispatch}
    {id : String} (hd : ds = before ++ d :: after) (hid : d.learnt? = some id) :
    flavor = .localProxy ∧ ∃ base, baseUrl c = .ok base ∧
      s.Discovers base flavor (ds.map (·.request)) id := by
  obtain ⟨mid, hbefore, hsends⟩ := h.sends hd
  have hclusters : d.errand = .clusters := by
    by_contra hne
    cases he : d.errand <;> simp_all [Dispatch.learnt?]
  obtain ⟨base, _, own, endpoint, -, hmake, -⟩ := hsends.made
  refine ⟨hsends.localProxy hclusters, base, endpoint, before.map (·.request), d.request,
    after.map (·.request), by simp [hd], ⟨own, ?_⟩, ?_⟩
  · simpa [hclusters, Errand.method, Errand.address, Errand.body] using hmake
  · rw [Dispatch.learnt?, hclusters, hsends.reply, hbefore.beside.reply, hbefore.sent] at hid
    exact List.mem_of_head? hid

end Errands

end Services

open Services

end ClusterAdmin
