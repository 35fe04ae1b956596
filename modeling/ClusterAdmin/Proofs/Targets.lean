import ClusterAdmin.Proofs.Acquisition

namespace ClusterAdmin

/-- A login that a native connection cannot use. -/
inductive Login.Unsupported : Login → Prop
  | kerberos (l : KerberosLogin) : Unsupported (.kerberos l)
  | oauth (l : OAuthLogin) : Unsupported (.oauth l)
  | keystore {l : MtlsLogin} {kind : String} (stored : l.keystoreType = some kind)
    (other : Text.asciiLower kind ≠ "pem") : Unsupported (.mtls l)

namespace Target

/-- A target is secured as a stored connection says. -/
structure Honours (t : Target) (r : ConnectionRecord) : Prop where
  sasl : SaslConfig.ofCredential r.credential = .ok t.sasl
  /-- Secrets and certificates go without TLS only where that is chosen. -/
  clear : t.sasl ≠ none → t.tls = none → r.tls = some false
  bare : ∀ l, r.credential.resolved = .mtls l → t.tls.bind (·.certificate) = none →
    r.tls = some false
  chosen : ∀ b, r.tls = some b → t.tls.isSome = b
  verify : ∀ x, t.tls = some x → x.verify = r.verifyServerCertificate
  ownTruststore : ∀ x l path, t.tls = some x → r.credential.resolved = .mtls l →
    l.truststorePath = some path → x.truststore = some path
  truststore : ∀ x, t.tls = some x →
    (∀ l, r.credential.resolved = .mtls l → l.truststorePath = none) →
    x.truststore = r.truststorePath
  certificate : ∀ x k, t.tls = some x → (x.certificate = some k ↔
    ∃ l, r.credential.resolved = .mtls l ∧ k = ⟨l.keystorePath, l.keyPath⟩)

/-- A target is a cluster's, secured as its stored connection says if it is direct and has one. -/
structure Guarded (t : Target) (store : ConnectionStore) (c : Cluster) : Prop where
  key : t.key = c.key
  servers : t.servers = c.bootstrapServers
  secured : (∃ r, c.connectionType = .selfHostedDirect ∧
      store.find c.connectionId = .ok (some r) ∧ t.Honours r) ∨
    (c.connectionType ≠ .selfHostedDirect ∨ store.find c.connectionId = .ok none) ∧
      t.sasl = none ∧ t.tls = none

section

variable {store : ConnectionStore} {c : Cluster} {r : ConnectionRecord} {t : Target}

theorem certificateOf_ok {login : Login} {k? : Option ClientCertificate}
    (h : certificateOf login = .ok k?) (k : ClientCertificate) :
    k? = some k ↔ ∃ l, login = .mtls l ∧ k = ⟨l.keystorePath, l.keyPath⟩ := by
  cases login with
  | mtls l =>
    have hk : k? = some ⟨l.keystorePath, l.keyPath⟩ := by
      simp only [certificateOf] at h
      split at h
      · split at h <;> cases h
        rfl
      · cases h
        rfl
    simp [hk, eq_comm]
  | none | basic | apiKey | scram | oauth | kerberos =>
    cases h
    simp

theorem security_eq_ok {sasl : Option SaslConfig} {tls : Option TlsSettings}
    (h : security r = .ok (sasl, tls)) : SaslConfig.ofCredential r.credential = .ok sasl ∧
      ∃ k?, certificateOf r.credential.resolved = .ok k? ∧
        tls = if r.tls.getD (sasl.isSome || k?.isSome) then
          some ⟨r.verifyServerCertificate, truststoreOf r.credential.resolved r, k?⟩ else none := by
  simp only [security, bind, Except.bind, pure, Except.pure] at h
  split at h
  · cases h
  rename_i sasl' hsasl
  split at h
  · cases h
  rename_i k? hcertificate
  simp only [Except.ok.injEq, Prod.mk.injEq] at h
  obtain ⟨rfl, htls⟩ := h
  exact ⟨hsasl, k?, hcertificate, htls.symm⟩

/-- Security that can be worked out is what the stored connection says. -/
theorem security_ok {sasl : Option SaslConfig} {tls : Option TlsSettings}
    (h : security r = .ok (sasl, tls)) (key : ClusterKey) (servers : List String) :
    Honours ⟨key, servers, sasl, tls⟩ r := by
  obtain ⟨hsasl, k?, hcertificate, htls⟩ := security_eq_ok h
  have hmtls : ∀ l, r.credential.resolved = .mtls l → k? = some ⟨l.keystorePath, l.keyPath⟩ :=
    fun l hl => (certificateOf_ok hcertificate _).mpr ⟨l, hl, rfl⟩
  have hsome : ∀ x, tls = some x →
      x = ⟨r.verifyServerCertificate, truststoreOf r.credential.resolved r, k?⟩ := by
    intro x hx
    rw [htls] at hx
    split at hx <;> cases hx
    rfl
  have hnone : tls = none → (sasl.isSome || k?.isSome) = true → r.tls = some false := by
    intro hx hwanted
    rw [hx, hwanted] at htls
    cases hr : r.tls with
    | none => simp [hr] at htls
    | some b =>
      cases b with
      | false => rfl
      | true => simp [hr] at htls
  refine ⟨hsasl, ?_, ?_, ?_, ?_, ?_, ?_, ?_⟩
  · intro hsome' hclear
    exact hnone hclear (by simp [Option.isSome_iff_ne_none.mpr hsome'])
  · intro l hl hbare
    cases hx : tls with
    | none => exact hnone hx (by simp [hmtls l hl])
    | some x =>
      simp only [hx, Option.bind_some, hsome x hx, hmtls l hl] at hbare
      cases hbare
  · intro b hb
    rw [htls, hb, Option.getD_some]
    cases b <;> rfl
  · intro x hx
    rw [hsome x hx]
  · intro x l path hx hl hpath
    rw [hsome x hx, hl]
    simp [truststoreOf, hpath]
  · intro x hx hown
    rw [hsome x hx]
    change truststoreOf r.credential.resolved r = _
    cases hl : r.credential.resolved with
    | mtls l => simp [truststoreOf, hown l hl]
    | none | basic | apiKey | scram | oauth | kerberos => rfl
  · intro x k hx
    rw [hsome x hx]
    exact certificateOf_ok hcertificate k

theorem guarded_of_ofCluster (h : ofCluster store c = .ok t) : t.Guarded store c := by
  obtain ⟨-, ⟨rfl, hbare⟩ | ⟨r, sasl, tls, hdirect, hfind, hsecurity, rfl⟩⟩ := ofCluster_ok h
  · exact ⟨rfl, rfl, .inr ⟨hbare, rfl, rfl⟩⟩
  · exact ⟨rfl, rfl, .inl ⟨r, hdirect, hfind, security_ok hsecurity _ _⟩⟩

/-- A cluster that is not direct has its target without a look at what is stored. -/
theorem ofCluster_beside (beside : c.connectionType ≠ .selfHostedDirect)
    (store store' : ConnectionStore) : ofCluster store c = ofCluster store' c := by
  simp only [ofCluster, plan, beside, ne_eq, not_false_eq_true, ↓reduceIte]
  split <;> rfl

theorem security_unsupported (h : r.credential.resolved.Unsupported) :
    ∃ f, security r = .error f ∧ f.category = .invalid := by
  simp only [security]
  generalize r.credential.resolved = login at h
  cases h with
  | kerberos l => exact ⟨_, rfl, rfl⟩
  | oauth l => exact ⟨_, rfl, rfl⟩
  | keystore stored other =>
    refine ⟨_, by
      simp [SaslConfig.ofLogin, certificateOf, stored, other, bind, Except.bind]
      rfl, rfl⟩

/-- What makes a cluster one that nothing can connect to natively. -/
def Unfit (store : ConnectionStore) (c : Cluster) : Prop :=
  c.bootstrapServers = [] ∨ ∃ r, c.connectionType = .selfHostedDirect ∧
    store.find c.connectionId = .ok (some r) ∧ r.credential.resolved.Unsupported

theorem ofCluster_unfit (h : Unfit store c) :
    ∃ f, ofCluster store c = .error f ∧ f.category = .invalid := by
  by_cases hservers : c.bootstrapServers = []
  · exact ⟨_, by simp only [ofCluster, plan, hservers, List.isEmpty_nil, if_true]; rfl, rfl⟩
  · obtain ⟨r, hdirect, hfind, hlogin⟩ := h.resolve_left hservers
    obtain ⟨f, hf, hcategory⟩ := security_unsupported hlogin
    refine ⟨f, ?_, hcategory⟩
    simp [ofCluster, plan, Plan.run, ofStored, hservers, hdirect, hfind, hf, bind, Except.bind]

end

end Target

namespace Pool

section

variable {p : Pool} {c : Cluster}

/-- A call for a handle has to open one: none is kept that can be used or reconnected. -/
def MustOpen (p : Pool) (c : Cluster) : Prop :=
  ∀ e, p.held c.key = some e →
    p.isUsable e = false ∧ ∃ f, (p.fleet.reconnect e.handle).1 = .error f

theorem category_of_refusal {f : Failure} (h : p.refusal? c = some f) : f.category = .invalid := by
  simp only [PoolCore.refusal?] at h
  split at h
  · cases h
    rfl
  · split at h <;> cases h
    rfl

theorem openInto_of_error {f : Failure} (h : Target.ofCluster p.store c = .error f) :
    p.openInto c = (.error f, p) := by
  simp only [openInto, h]

/-- A call that has to open a handle for a cluster that is unfit for it ends in such a failure. -/
theorem getHandle_unfit (must : p.MustOpen c) (unfit : Target.Unfit p.store c) :
    ∃ f, (p.getHandle c).1 = .error f ∧ f.category = .invalid := by
  obtain ⟨f, hf, hcategory⟩ := Target.ofCluster_unfit unfit
  cases p.getHandle_way c with
  | refused refusal answer => exact ⟨_, by rw [answer], category_of_refusal refusal⟩
  | opened _ _ answer =>
    exact ⟨f, by rw [answer, openInto_of_error (p := p.setSlot c.key none) hf], hcategory⟩
  | reused _ held usable _ =>
    rw [(must _ held).1] at usable
    cases usable
  | restored _ held _ success _ =>
    obtain ⟨-, f', hf'⟩ := must _ held
    rw [success] at hf'
    cases hf'
  | @replaced e _ fleet _ _ _ _ answer =>
    exact ⟨f, by rw [answer, openInto_of_error (p := ({ p with fleet } : Pool).discard c.key e) hf],
      hcategory⟩

/-- A call that is turned away ends in such a failure too, and nothing is asked. -/
theorem getHandle_cloud (cloud : c.connectionType = .cloudManaged) :
    ∃ f, p.getHandle c = (.error f, p) ∧ f.category = .invalid := by
  cases hr : p.refusal? c with
  | some f => exact ⟨f, by simp [getHandle, hr], category_of_refusal hr⟩
  | none => exact absurd cloud (accepts_iff.mpr hr).2

theorem openInto_store (beside : c.connectionType ≠ .selfHostedDirect) (p : Pool)
    (store : ConnectionStore) : ({ p with store } : Pool).openInto c =
      ((p.openInto c).1, { (p.openInto c).2 with store }) := by
  simp only [openInto, Target.ofCluster_beside beside store p.store]
  split
  · rfl
  · split <;> rfl

/-- A call for a handle of a cluster that is not direct comes to the same whatever is stored, also
if nothing that is stored can be read. -/
theorem getHandle_store (beside : c.connectionType ≠ .selfHostedDirect) (p : Pool)
    (store : ConnectionStore) : ({ p with store } : Pool).getHandle c =
      ((p.getHandle c).1, { (p.getHandle c).2 with store }) := by
  have hrefusal : ({ p with store } : Pool).refusal? c = p.refusal? c := rfl
  have hheld : ({ p with store } : Pool).held c.key = p.held c.key := rfl
  simp only [getHandle, hrefusal, hheld]
  split
  · rfl
  · split
    · exact openInto_store beside (p.setSlot c.key none) store
    · rename_i e _
      have husable : ({ p with store } : Pool).isUsable e = p.isUsable e := rfl
      simp only [husable]
      split
      · rfl
      · split
        · rfl
        · rename_i fleet _
          exact openInto_store beside (({ p with fleet } : Pool).discard c.key e) store

end

namespace Overlap

section

variable {o o' : Overlap} {i : Nat} {c : Cluster}

/-- What is asked in a step of a call, and for which cluster a connection is. -/
def Sends (of : Option Cluster) (o o' : Overlap) : Prop :=
  ∃ asked, o'.fleet.log = o.fleet.log ++ asked ∧
    ∀ t, .connect t ∈ asked → ∃ c, of = some c ∧ Target.ofCluster o.store c = .ok t

theorem Sends.none {of : Option Cluster} (log : o'.fleet.log = o.fleet.log) : Sends of o o' :=
  ⟨[], by rw [log, List.append_nil], nofun⟩

theorem Sends.one {of : Option Cluster} (r : Request) (log : o'.fleet.log = o.fleet.log ++ [r])
    (apart : ∀ t, r ≠ .connect t) : Sends of o o' :=
  ⟨[r], log, fun t ht => absurd (List.mem_singleton.mp ht).symm (apart t)⟩

theorem fleet_claim (o : Overlap) (i : Nat) (c : Cluster) : (o.claim i c).fleet = o.fleet := by
  simp only [claim]
  split <;> rfl

theorem sends_stepGet {stage : GetStage} (h : o.stepGet i c stage = some o') :
    Sends (some c) o o' := by
  cases stage with
  | asked =>
    simp only [stepGet] at h
    split at h <;> cases h
    · exact .none rfl
    · exact .none (by rw [fleet_claim])
  | waiting s =>
    simp only [stepGet] at h
    split at h <;> cases h
    simp only [serve]
    split
    · exact .none (by rw [fleet_claim]; rfl)
    · split
      · exact .none rfl
      · split
        · exact .none rfl
        · split
          · exact .none rfl
          · exact .one (.reconnect _) rfl (by simp)
  | reconnecting s =>
    simp only [stepGet] at h
    split at h
    · cases h
    rename_i e _
    have hlog : (o.fleet.reaccept e.handle).2.log = o.fleet.log := by
      simp only [Fleet.reaccept]
      split <;> rfl
    split at h <;> cases h
    all_goals
      rename_i hr
      rw [hr] at hlog
    · exact .none hlog
    · exact .one (.close e.handle) (congrArg (· ++ [_]) hlog) (by simp)
  | closing s =>
    cases h
    exact .none rfl
  | reading s =>
    simp only [stepGet] at h
    split at h <;> cases h
    · exact .none rfl
    · rename_i t ht
      refine ⟨[.connect t], rfl, fun t' ht' => ⟨c, rfl, ?_⟩⟩
      cases List.mem_singleton.mp ht'
      exact ht
  | connecting s t =>
    have hlog : (o.fleet.accept t).2.log = o.fleet.log := by
      simp only [Fleet.accept]
      split <;> rfl
    simp only [stepGet] at h
    split at h <;> cases h
    all_goals
      rename_i hr
      rw [hr] at hlog
      exact .none hlog
  | done => cases h

theorem sends_stepMark {of : Option Cluster} {stage : MarkStage}
    (h : o.stepMark i c stage = some o') : Sends of o o' := by
  cases stage with
  | asked =>
    simp only [stepMark] at h
    split at h <;> cases h
    · exact .none rfl
    · exact .none rfl
  | waiting s =>
    simp only [stepMark] at h
    split at h <;> cases h
    split
    · exact .none rfl
    · exact .none rfl
  | done => cases h

theorem sends_stepEvict {of : Option Cluster} {ks : List ClusterKey} {stage : EvictStage}
    (h : o.stepEvict i ks stage = some o') : Sends of o o' := by
  have hdrop : ∀ (core : PoolCore) (k : ClusterKey) (s : Nat),
      (((o.setCore core).forget k s).release s).fleet = core.fleet := by
    intro core k s
    change ((o.setCore core).forget k s).fleet = _
    rw [toPoolCore_forget]
    rfl
  cases ks with
  | nil => cases stage <;> cases h
  | cons k ks =>
    cases stage with
    | next =>
      simp only [stepEvict] at h
      split at h <;> cases h
      · exact .none rfl
      · exact .none rfl
    | waiting s =>
      simp only [stepEvict] at h
      split at h
      · split at h <;> cases h
        · rename_i e _
          exact .one (.close e.handle) rfl (by simp)
        · exact .none (congrArg Fleet.log (hdrop o.toPoolCore k s))
      · cases h
    | closing s =>
      cases h
      exact .none (congrArg Fleet.log (hdrop o.countEvicted k s))

theorem sends_stepReap {of : Option Cluster} {stage : ReapStage}
    (h : o.stepReap i stage = some o') : Sends of o o' := by
  cases stage with
  | asked =>
    cases h
    exact .none rfl
  | looking left closed =>
    cases left with
    | nil => cases h
    | cons x left =>
      obtain ⟨k, s⟩ := x
      simp only [stepReap] at h
      split at h
      · cases h
        exact .none rfl
      · split at h <;> cases h
        · rename_i e _
          exact .one (.close e.handle) rfl (by simp)
        · exact .none (by
            change (o.forget k s).fleet.log = _
            rw [toPoolCore_forget])
  | closing k s left closed =>
    cases h
    exact .none (by
      change ((o.setCore o.countEvicted).forget k s).fleet.log = _
      rw [toPoolCore_forget]
      rfl)

/-- The cluster for which a call gets a handle. -/
def Call.of? : Call → Option Cluster
  | .get c _ => some c
  | _ => none

theorem sends_step (h : o.step i = some o') : Sends ((o.calls[i]?).bind Call.of?) o o' := by
  simp only [step] at h
  split at h
  · cases h
  all_goals
    rename_i hc
    rw [hc]
  · exact sends_stepGet h
  · exact sends_stepMark h
  · exact sends_stepEvict h
  · cases h
    exact .none rfl
  · split at h <;> cases h
    · exact .none rfl
    · exact .none rfl
  · exact sends_stepReap h

end

end Overlap

/-- However a call for a handle goes, what it connects to is secured as the cluster's stored
connection says: a login goes without TLS only where that is chosen there, TLS is checked as it
says, and a client certificate goes with a login of its kind only. Nothing is looked up in the store
but a direct cluster's own connection, and what is stored does not matter to a cluster that is not
direct. If a handle has to be opened and the cluster has no servers or a login that cannot be used,
and always if it is hosted, the call is invalid and nothing is connected. In overlapping calls, too,
nothing else is connected. -/
theorem connections_guarded (p : Pool) (c : Cluster) :
    (∃ asked, (p.getHandle c).2.fleet.log = p.fleet.log ++ asked ∧
      (∀ t, .connect t ∈ asked → t.Guarded p.store c) ∧
      (c.connectionType = .cloudManaged ∨ p.MustOpen c ∧ Target.Unfit p.store c →
        (∃ f, (p.getHandle c).1 = .error f ∧ f.category = .invalid) ∧
          ∀ t, .connect t ∉ asked)) ∧
    (∀ id ∈ (Target.plan c).reads,
      c.connectionType = .selfHostedDirect ∧ id = c.connectionId) ∧
    (c.connectionType ≠ .selfHostedDirect → ∀ store, ({ p with store } : Pool).getHandle c =
      ((p.getHandle c).1, { (p.getHandle c).2 with store })) ∧
    ∀ (o o' : Overlap) (i : Nat), o.step i = some o' →
      ∃ asked, o'.fleet.log = o.fleet.log ++ asked ∧
        ∀ t, .connect t ∈ asked → ∃ c stage, o.calls[i]? = some (.get c stage) ∧
          t.Guarded o.store c := by
  refine ⟨?_, fun id hid => Target.reads_plan hid,
    fun beside store => getHandle_store beside p store, ?_⟩
  · obtain ⟨asked, h⟩ := asks_getHandle p c
    refine ⟨asked, h.log, fun t ht => Target.guarded_of_ofCluster (h.connects t ht), ?_⟩
    rintro (cloud | ⟨must, unfit⟩)
    · obtain ⟨f, hf, hcategory⟩ := getHandle_cloud (p := p) cloud
      have hlog := h.log
      rw [hf] at hlog
      obtain rfl := List.self_eq_append_right.mp hlog
      exact ⟨⟨f, by rw [hf], hcategory⟩, nofun⟩
    · refine ⟨getHandle_unfit must unfit, fun t ht => ?_⟩
      obtain ⟨f, hf, -⟩ := Target.ofCluster_unfit unfit
      cases hf.symm.trans (h.connects t ht)
  · intro o o' i step
    obtain ⟨asked, hlog, hconnects⟩ := Overlap.sends_step step
    refine ⟨asked, hlog, fun t ht => ?_⟩
    obtain ⟨c, hc, htarget⟩ := hconnects t ht
    obtain ⟨d, hd, hof⟩ := Option.bind_eq_some_iff.mp hc
    cases d with
    | get c' stage =>
      cases hof
      exact ⟨c, stage, hd, Target.guarded_of_ofCluster htarget⟩
    | mark | evict | invalidateConnection | dispose | reap => cases hof

/-- With no word on TLS a password goes with it, and a keystore that cannot be read is refused. -/
theorem connections_guarded_silent :
    let c := Cluster.behind "conn" "main" "localhost:9092"
    let r : ConnectionRecord := ⟨"conn", "", .ofUser "alice", none, true, none⟩
    let jks : Credential := .login (.mtls ⟨"client.jks", none, some "JKS", none, none⟩)
    let pool := fun r => Pool.start {} (.ofList [r]) .empty
    (∃ t : Target, .connect t ∈ ((pool r).getHandle c).2.fleet.log ∧ t.sasl ≠ none ∧
      t.tls ≠ none) ∧
    ∃ f, ((pool { r with credential := jks }).getHandle c).1 = .error f ∧ f.category = .invalid := by
  intro c r jks pool
  constructor
  · let t : Target := ⟨c.key, c.bootstrapServers, some ⟨.plain, "alice", "secret"⟩,
      some ⟨true, none, none⟩⟩
    have hsent : ((pool r).getHandle c).2.fleet.log = [.connect t] := by rfl
    obtain ⟨⟨asked, hlog, hguarded, -⟩, -, -, -⟩ := connections_guarded (pool r) c
    have hasked : asked = [.connect t] := hlog.symm.trans hsent
    have hlogin : t.sasl ≠ none := nofun
    refine ⟨t, by rw [hsent]; exact List.mem_singleton_self _, hlogin, fun hclear => ?_⟩
    rcases (hguarded t (by simp [hasked])).secured with ⟨r', -, hfind, honours⟩ | ⟨-, hnone, -⟩
    · obtain rfl : r = r' := by
        have hstored : (pool r).store.find c.connectionId = .ok (some r) := by rfl
        simpa [hstored] using hfind
      cases honours.clear hlogin hclear
    · exact hlogin hnone
  · obtain ⟨⟨asked, -, -, hunfit⟩, -, -, -⟩ :=
      connections_guarded (pool { r with credential := jks }) c
    refine (hunfit (.inr ⟨nofun, .inr ⟨_, rfl, rfl, ?_⟩⟩)).1
    exact .keystore rfl (by decide +kernel)

end Pool

end ClusterAdmin
