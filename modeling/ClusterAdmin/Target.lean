import ClusterAdmin.Connection
import ClusterAdmin.Sasl

namespace ClusterAdmin

/-- The files that hold a client's certificate and its key. -/
structure ClientCertificate where
  certificatePath : String
  /-- Where the key is, if not in the certificate's file. -/
  keyPath : Option String
  deriving DecidableEq, Repr

structure TlsSettings where
  verify : Bool
  /-- The certificates to trust, if not the built-in ones. -/
  truststore : Option String
  certificate : Option ClientCertificate
  deriving DecidableEq, Repr

/-- Where a handle connects to and how. -/
structure Target where
  key : ClusterKey
  servers : List String
  sasl : Option SaslConfig
  tls : Option TlsSettings
  deriving DecidableEq, Repr

namespace Target

/-- The certificate that a login calls for. Keystores other than PEM files are refused. -/
def certificateOf : Login → Except Failure (Option ClientCertificate)
  | .mtls l =>
    match l.keystoreType with
    | some kind =>
      if Text.asciiLower kind = "pem" then .ok (some ⟨l.keystorePath, l.keyPath⟩)
      else .error (Failure.invalid
        s!"{kind} keystores are not supported for native connections; convert the keystore to PEM")
    | none => .ok (some ⟨l.keystorePath, l.keyPath⟩)
  | _ => .ok none

/-- The truststore of a login if it names one, else the stored connection's. -/
def truststoreOf (login : Login) (r : ConnectionRecord) : Option String :=
  match login with
  | .mtls l => l.truststorePath.or r.truststorePath
  | _ => r.truststorePath

/-- The login and the transport's security that a stored connection calls for. With no word on TLS,
credentials are never sent without it. -/
def security (r : ConnectionRecord) : Except Failure (Option SaslConfig × Option TlsSettings) := do
  let login := r.credential.resolved
  let sasl ← SaslConfig.ofLogin login
  let certificate ← certificateOf login
  let secured := r.tls.getD (sasl.isSome || certificate.isSome)
  return (sasl,
    if secured then some ⟨r.verifyServerCertificate, truststoreOf login r, certificate⟩ else none)

/-- How a target is made out: at once, or from what a look-up of a stored connection gives. -/
inductive Plan where
  | settled (target : Except Failure Target)
  | lookUp (connectionId : String)
      (next : Except Failure (Option ConnectionRecord) → Except Failure Target)

/-- The stored connections that are looked up. -/
def Plan.reads : Plan → List String
  | settled _ => []
  | lookUp id _ => [id]

def Plan.run (store : ConnectionStore) : Plan → Except Failure Target
  | settled target => target
  | lookUp id next => next (store.find id)

/-- The target of a direct cluster, from what its stored connection was found to be. -/
def ofStored (c : Cluster) : Except Failure (Option ConnectionRecord) → Except Failure Target
  | .error f => .error (f.inContext "load connection" c.connectionId)
  | .ok none => .ok ⟨c.key, c.bootstrapServers, none, none⟩
  | .ok (some r) => do
    let (sasl, tls) ← security r
    return ⟨c.key, c.bootstrapServers, sasl, tls⟩

/-- How the target of a cluster is made out. Only a direct one has a stored connection, which is
looked up. -/
def plan (c : Cluster) : Plan :=
  if c.bootstrapServers.isEmpty then
    .settled (.error (Failure.invalid s!"Cluster {c.key.text} has no bootstrap servers"))
  else if c.connectionType ≠ .selfHostedDirect then
    .settled (.ok ⟨c.key, c.bootstrapServers, none, none⟩)
  else .lookUp c.connectionId (ofStored c)

def ofCluster (store : ConnectionStore) (c : Cluster) : Except Failure Target := (plan c).run store

/-- Nothing is looked up but a direct cluster's own connection. -/
theorem reads_plan {c : Cluster} {id : String} (h : id ∈ (plan c).reads) :
    c.connectionType = .selfHostedDirect ∧ id = c.connectionId := by
  simp only [plan] at h
  split at h
  · cases h
  · split at h
    · cases h
    · rename_i hdirect
      exact ⟨Decidable.not_not.mp hdirect, List.mem_singleton.mp h⟩

/-- What the target of a cluster is if there is one: the cluster's own, without a login and without
TLS unless it is direct and what is stored of it says so. -/
theorem ofCluster_ok {store : ConnectionStore} {c : Cluster} {t : Target}
    (h : ofCluster store c = .ok t) : c.bootstrapServers ≠ [] ∧
      ((t = ⟨c.key, c.bootstrapServers, none, none⟩ ∧
          (c.connectionType ≠ .selfHostedDirect ∨ store.find c.connectionId = .ok none)) ∨
        ∃ r sasl tls, c.connectionType = .selfHostedDirect ∧
          store.find c.connectionId = .ok (some r) ∧ security r = .ok (sasl, tls) ∧
          t = ⟨c.key, c.bootstrapServers, sasl, tls⟩) := by
  simp only [ofCluster, plan] at h
  split at h
  · cases h
  rename_i hservers
  refine ⟨fun hnone => hservers (by rw [hnone]; rfl), ?_⟩
  split at h
  · rename_i hbeside
    cases h
    exact .inl ⟨rfl, .inl hbeside⟩
  rename_i hdirect
  simp only [Plan.run] at h
  cases hfind : store.find c.connectionId with
  | error f =>
    rw [hfind] at h
    cases h
  | ok stored =>
    rw [hfind] at h
    cases stored with
    | none =>
      cases h
      exact .inl ⟨rfl, .inr rfl⟩
    | some r =>
      cases hsecurity : security r with
      | error f => simp [ofStored, hsecurity, bind, Except.bind] at h
      | ok x =>
        simp only [ofStored, hsecurity, bind, Except.bind, pure, Except.pure,
          Except.ok.injEq] at h
        exact .inr ⟨r, x.1, x.2, Decidable.not_not.mp hdirect, rfl, hsecurity, h.symm⟩

/-- A target is for the cluster that it was made out for. -/
theorem key_ofCluster {store : ConnectionStore} {c : Cluster} {t : Target}
    (h : ofCluster store c = .ok t) : t.key = c.key := by
  obtain ⟨-, ⟨rfl, -⟩ | ⟨r, sasl, tls, -, -, -, rfl⟩⟩ := ofCluster_ok h
  · rfl
  · rfl

end Target

end ClusterAdmin
