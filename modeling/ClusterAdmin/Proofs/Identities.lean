import ClusterAdmin.Principal
import ClusterAdmin.Proofs.Authorizations

namespace ClusterAdmin

open Rest

namespace SaslConfig

/-- What a proxy is shown is what a broker is logged in to with. -/
theorem ofLogin_eq_some {l : Login} {name password : String} :
    (∃ m, ofLogin l = .ok (some ⟨m, name, password⟩)) ↔ l.Shows name password := by
  constructor
  · rintro ⟨m, h⟩
    cases l <;> cases h <;> constructor
  · rintro ⟨⟩ <;> exact ⟨_, rfl⟩

end SaslConfig

namespace Principal

@[simp] theorem ofName_empty (missing : String) : ofName "" missing = .underivable missing := rfl

theorem ofName_of_ne {name : String} (h : name ≠ "") (missing : String) :
    ofName name missing = .user ("User:" ++ name) := by
  simp [ofName, h]

/-- The principal of a login with a name and a password is that of the name. -/
theorem ofLogin_of_shows {l : Login} {name password : String} (h : l.Shows name password) :
    ∃ missing, ofLogin l = ofName name missing := by
  cases h <;> exact ⟨_, rfl⟩

/-- No principal is known of a login without a SASL layer. -/
theorem ofLogin_of_unlayered {l : Login} (h : SaslConfig.ofLogin l = .ok none) :
    ∃ reason, ofLogin l = .underivable reason := by
  cases l with
  | none | mtls => exact ⟨_, rfl⟩
  | basic | apiKey | scram | oauth | kerberos => cases h

end Principal

namespace Services

/-- A direct cluster is authorized by the name and the password of its stored login, if those are
what the login comes to. -/
theorem authorization_direct {s : Services} {c : Cluster} {record : ConnectionRecord}
    (direct : c.connectionType = .selfHostedDirect)
    (stored : s.pool.store.find c.connectionId = .ok (some record)) :
    s.authorization c = .ok ((nameAndPassword? record.credential.resolved).map basic) := by
  simp only [authorization, direct, stored]
  rfl

theorem authorizations_direct {s : Services} {c : Cluster} {record : ConnectionRecord}
    (direct : c.connectionType = .selfHostedDirect)
    (stored : s.pool.store.find c.connectionId = .ok (some record)) (flavor : Flavor)
    (call : TopicCall) :
    ∃ sent, (s.act (.topics (.rest flavor) c call)).web.sent = s.web.sent ++ sent ∧
      ∀ r ∈ sent, r.authorizations = endpointHeaders c ++
        ((nameAndPassword? record.credential.resolved).map basic).toList := by
  obtain ⟨ds, errands⟩ := s.errands_proxied flavor c call
  refine ⟨ds.map (·.request), errands.sent, fun r hr => ?_⟩
  obtain ⟨own, hown, hheaders⟩ := errands.authorizations hr
  cases hown.symm.trans (authorization_direct direct stored)
  exact hheaders

end Services

open Services

/-- A credential stands for one identity. What a proxy is shown for a direct cluster whose record
holds it is a name and a password just if a broker is logged in to by SASL, and then the same two;
the principal is that of this name. Without a SASL layer there is no principal. -/
theorem identity_shared (v : Json) :
    (∀ (s : Services) (c : Cluster) (record : ConnectionRecord),
      c.connectionType = .selfHostedDirect →
      s.pool.store.find c.connectionId = .ok (some record) → record.credential = .ofJson v →
      ∃ own : Option (String × String),
        (∀ name password, own = some (name, password) ↔
          ∃ m, SaslConfig.ofCredential (.ofJson v) = .ok (some ⟨m, name, password⟩)) ∧
        s.authorization c = .ok (own.map basic) ∧
        ∀ flavor call, ∃ sent,
          (s.act (.topics (.rest flavor) c call)).web.sent = s.web.sent ++ sent ∧
          ∀ r ∈ sent, r.authorizations = endpointHeaders c ++ (own.map basic).toList) ∧
    (∀ cfg, SaslConfig.ofCredential (.ofJson v) = .ok (some cfg) →
      (cfg.username ≠ "" →
        Principal.ofCredential (.ofJson v) = .user ("User:" ++ cfg.username)) ∧
      (cfg.username = "" →
        ∃ reason, Principal.ofCredential (.ofJson v) = .underivable reason)) ∧
    (SaslConfig.ofCredential (.ofJson v) = .ok none →
      ∃ reason, Principal.ofCredential (.ofJson v) = .underivable reason) := by
  refine ⟨fun s c record direct stored holds => ?_, fun cfg layered => ?_,
    Principal.ofLogin_of_unlayered⟩
  · refine ⟨nameAndPassword? record.credential.resolved, fun name password => ?_,
      authorization_direct direct stored, authorizations_direct direct stored⟩
    rw [holds, nameAndPassword?_eq_some]
    exact SaslConfig.ofLogin_eq_some.symm
  · obtain ⟨missing, hname⟩ :=
      Principal.ofLogin_of_shows (SaslConfig.ofLogin_eq_some.mp ⟨cfg.mechanism, layered⟩)
    constructor
    · intro named
      exact hname.trans (Principal.ofName_of_ne named missing)
    · intro unnamed
      exact ⟨missing, by rw [Principal.ofCredential, hname, unnamed, Principal.ofName_empty]⟩

/-- A SCRAM login that was stored under names of long ago. -/
def agedScram : Json :=
  .object [("type", .text "SCRAM"), ("username", .text ""), ("scramUsername", .text "ada"),
    ("scram_password", .text "secret")]

/-- Ada logs in to brokers, and is shown to the proxy and looked up, under one name. -/
theorem identity_shared_aged :
    SaslConfig.ofCredential (.ofJson agedScram) = .ok (some ⟨.scramSha256, "ada", "secret"⟩) ∧
    Principal.ofCredential (.ofJson agedScram) = .user "User:ada" ∧
    ∃ sent : List HttpRequest, sent ≠ [] ∧
      ∀ r ∈ sent, r.authorizations = ["Basic YWRhOnNlY3JldA=="] := by
  let c : Cluster :=
    ⟨"conn-1", "dev", .selfHostedDirect, [], some "http://proxy", .nativeSockets⟩
  let record : ConnectionRecord := ⟨"conn-1", "Dev", .ofJson agedScram, none, true, none⟩
  let s := Services.idle.act (.setStore (.ofList [record]))
  obtain ⟨shared, named, -⟩ := identity_shared agedScram
  have layered : SaslConfig.ofCredential (.ofJson agedScram) =
      .ok (some ⟨.scramSha256, "ada", "secret"⟩) := by decide +kernel
  refine ⟨layered, (named _ layered).1 (by decide), ?_⟩
  obtain ⟨own, hown, -, hsent⟩ := shared s c record rfl (by decide +kernel) rfl
  obtain ⟨sent, hweb, hheaders⟩ := hsent .cloud (.lookFor "orders")
  have hada : own = some ("ada", "secret") := (hown _ _).mpr ⟨_, layered⟩
  refine ⟨sent, ?_, fun r hr => ?_⟩
  · rintro rfl
    exact absurd (congrArg List.length hweb) (by decide +kernel)
  · rw [hheaders r hr, hada]
    decide +kernel

end ClusterAdmin
