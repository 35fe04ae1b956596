import ClusterAdmin.Proofs.Errands
import ClusterAdmin.Proofs.Moves

namespace ClusterAdmin

/-- A call for topic administration. -/
inductive TopicCall where
  | list (includeInternal : Bool)
  | describe (name : String)
  | lookFor (name : String)
  | create (request : TopicRequest)
  | delete (name : String)

/-- The errands about topics that a call is run on. -/
def TopicCall.Runs : TopicCall → Errand → Prop
  | list _, e => e = .topics
  | describe name, e => e.Describes name
  | lookFor name, e => e = .lookFor name
  | create request, e => e = .create request
  | delete name, e => e = .delete name

/-- A call on the services, or a change around them. -/
inductive Action where
  | getHandle (c : Cluster)
  | topicAccess (c : Cluster) (topic : String) (credential : Credential)
  | topicAccesses (c : Cluster) (topics : List String) (credential : Credential)
  /-- One query of a batch by itself, so that things may change between two of them. -/
  | query (c : Cluster) (principal topic : String)
  | topics (b : Backend) (c : Cluster) (call : TopicCall)
  | markDisconnected (c : Cluster)
  | invalidateConnection (id : String)
  | invalidateCluster (c : Cluster)
  | reapIdle
  | disposePool
  | clearAccess
  | clearAccessOfCluster (c : Cluster)
  | clearAccessOfConnection (id : String)
  | forgetConnection (id : String)
  | resetProxies
  | dispose
  /-- Time passes and the reaper runs when it is due. -/
  | advance (ms : Nat)
  /-- Time passes and nothing else happens. -/
  | wait (ms : Nat)
  | dropHandle (h : Nat)
  | setReconnectFault (h : Nat) (fault : Option Failure)
  /-- Brokers will answer, and connections end, as they do in another fleet. -/
  | prepare (answers : Fleet)
  | setStore (store : ConnectionStore)
  | setOutside (session : CloudSession) (web : Rest.Web)

/-- The same handles and the same log before other prepared answers. -/
def Fleet.prepare (f answers : Fleet) : Fleet :=
  { answers with handles := f.handles, log := f.log }

theorem Fleet.alike_prepare (f answers : Fleet) : f.Alike (f.prepare answers) := ⟨rfl, rfl, rfl⟩

namespace Services

/-- What an action comes to. -/
def act (s : Services) : Action → Services
  | .getHandle c => { s with pool := (s.pool.getHandle c).2 }
  | .topicAccess c topic credential => (s.topicAccess c topic credential).2
  | .topicAccesses c topics credential => (s.topicAccesses c topics credential).2
  | .query c principal topic => (s.query c principal topic).2
  | .topics b c (.list includeInternal) => (s.listTopics b c includeInternal).2
  | .topics b c (.describe name) => (s.describeTopic b c name).2
  | .topics b c (.lookFor name) => (s.topicExists b c name).2
  | .topics b c (.create request) => (s.createTopic b c request).2
  | .topics b c (.delete name) => (s.deleteTopic b c name).2
  | .markDisconnected c => { s with pool := s.pool.markDisconnected c }
  | .invalidateConnection id => { s with pool := s.pool.invalidateConnection id }
  | .invalidateCluster c => { s with pool := s.pool.invalidateCluster c }
  | .reapIdle => s.reapIdle
  | .disposePool => { s with pool := s.pool.dispose }
  | .clearAccess => { s with access := s.access.clear }
  | .clearAccessOfCluster c => { s with access := s.access.clearCluster c.key }
  | .clearAccessOfConnection id => { s with access := s.access.clearConnection id }
  | .forgetConnection id => s.forgetConnection id
  | .resetProxies => s.resetProxies
  | .dispose => s.dispose
  | .advance ms => s.advance ms
  | .wait ms => s.setNow (s.now + ms)
  | .dropHandle h => { s with pool := { s.pool with fleet := s.pool.fleet.drop h } }
  | .setReconnectFault h fault =>
    { s with pool := { s.pool with fleet := s.pool.fleet.setReconnectFault h fault } }
  | .prepare answers => { s with pool := { s.pool with fleet := s.pool.fleet.prepare answers } }
  | .setStore store => { s with pool := { s.pool with store } }
  | .setOutside session web => { s with session, web }

/-- How many handles an action is given. -/
def grants (s : Services) : Action → Nat
  | .getHandle c | .query c _ _ | .topics .native c _ => s.pool.grants c
  | .topicAccess c topic credential => s.accessGrants c topic credential
  | .topicAccesses c topics credential => s.accessesGrants c topics credential
  | _ => 0

/-- Topic administration through a proxy comes to requests on the cluster's behalf. -/
theorem proxied_topics (s : Services) (flavor : Flavor) (c : Cluster) (call : TopicCall) :
    Proxied call.Runs c flavor s (s.act (.topics (.rest flavor) c call)) := by
  cases call with
  | list includeInternal => exact s.proxied_list includeInternal
  | describe name => exact s.proxied_describe name
  | lookFor name => exact s.proxied_exists name
  | create request => exact s.proxied_create request
  | delete name => exact s.proxied_delete name

theorem errands_proxied (s : Services) (flavor : Flavor) (c : Cluster) (call : TopicCall) :
    ∃ ds, Errands c flavor ds s (s.act (.topics (.rest flavor) c call)) := by
  obtain ⟨ds, hds, -⟩ := s.proxied_topics flavor c call
  exact ⟨ds, hds⟩

/-- Topic administration through a proxy leaves handles and remembered answers alone. -/
theorem beside_proxied (s : Services) (flavor : Flavor) (c : Cluster) (call : TopicCall) :
    Beside s (s.act (.topics (.rest flavor) c call)) := by
  obtain ⟨ds, h⟩ := s.errands_proxied flavor c call
  exact h.beside

theorem nativeList_snd (s : Services) (c : Cluster) (includeInternal : Bool) :
    (s.nativeList c includeInternal).2 =
      (s.onHandle c "list topics" c.clusterId fun f h => f.metadata h none).2 := by
  simp only [nativeList]
  split <;> simp [*]

theorem nativeDescribe_snd (s : Services) (c : Cluster) (name : String) :
    (s.nativeDescribe c name).2 =
      (s.onHandle c "describe topic" name fun f h => f.metadata h (some [name])).2 := by
  simp only [nativeDescribe]
  split <;> simp [*]

theorem nativeExists_snd (s : Services) (c : Cluster) (name : String) :
    (s.nativeExists c name).2 = (s.nativeDescribe c name).2 := by
  simp only [nativeExists]
  split <;> simp [*]

theorem conclude_snd (operation name : String)
    (r : Except Failure (List TopicOutcome) × Services) : (conclude operation name r).2 = r.2 := by
  obtain ⟨r, s⟩ := r
  cases r with
  | error f => rfl
  | ok outcomes =>
    simp only [conclude]
    split <;> rfl

/-- Topic administration on a handle is one request on the cluster's handle, which opens and closes
nothing by itself. -/
theorem native_onHandle (s : Services) (c : Cluster) (call : TopicCall) :
    ∃ (α : Type) (operation resource : String) (request : Fleet → Nat → Except Failure α × Fleet),
      (∀ (f : Fleet) (h : Nat), f.Alike (request f h).2) ∧
      s.act (.topics .native c call) = (s.onHandle c operation resource request).2 := by
  cases call with
  | list includeInternal =>
    exact ⟨_, _, _, _, fun f h => Fleet.alike_metadata f h none, s.nativeList_snd c includeInternal⟩
  | describe name =>
    exact ⟨_, _, _, _, fun f h => Fleet.alike_metadata f h (some [name]),
      s.nativeDescribe_snd c name⟩
  | lookFor name =>
    exact ⟨_, _, _, _, fun f h => Fleet.alike_metadata f h (some [name]),
      (s.nativeExists_snd c name).trans (s.nativeDescribe_snd c name)⟩
  | create request =>
    exact ⟨_, _, _, _, fun f h => Fleet.alike_createTopics f h _ _, conclude_snd _ _ _⟩
  | delete name =>
    exact ⟨_, _, _, _, fun f h => Fleet.alike_deleteTopics f h _, conclude_snd _ _ _⟩

/-- Topic administration on a handle is a call for the handle and a request on it. -/
theorem moves_native (s : Services) (c : Cluster) (call : TopicCall) :
    Pool.Moves (s.pool.grants c) s.pool (s.act (.topics .native c call)).pool := by
  obtain ⟨α, operation, resource, request, alike, he⟩ := s.native_onHandle c call
  rw [he]
  exact s.moves_onHandle c operation resource alike

theorem moves_advance (s : Services) (ms : Nat) : Pool.Moves 0 s.pool (s.advance ms).pool := by
  have h := (Pool.Move.outside s.pool (s.now + ms) s.pool.store (Nat.le_add_right _ ms)).moves
  simp only [advance]
  split
  · exact h.trans (Pool.moves_reapIdle _)
  · exact h

/-- Whatever an action does to the pool is done in moves, which hand out the handles that the action
is given. -/
theorem moves_act (s : Services) (a : Action) : Pool.Moves (s.grants a) s.pool (s.act a).pool := by
  cases a with
  | getHandle c => exact (Pool.Move.getHandle s.pool c).moves
  | topicAccess c topic credential => exact s.moves_topicAccess c topic credential
  | topicAccesses c topics credential => exact s.moves_topicAccesses c topics credential
  | query c principal topic => exact s.moves_query c principal topic
  | topics b c call =>
    cases b with
    | native => exact s.moves_native c call
    | rest flavor =>
      rw [(s.beside_proxied flavor c call).pool]
      exact .none s.pool
  | markDisconnected c => exact (Pool.Move.markDisconnected s.pool c).moves
  | invalidateConnection id => exact Pool.moves_invalidateConnection s.pool id
  | invalidateCluster c => exact (Pool.Move.evict s.pool c.key).moves
  | reapIdle => exact Pool.moves_reapIdle s.pool
  | disposePool => exact Pool.moves_dispose s.pool
  | clearAccess | clearAccessOfCluster | clearAccessOfConnection | resetProxies | setOutside =>
    exact .none s.pool
  | forgetConnection id => exact Pool.moves_invalidateConnection s.pool id
  | dispose => exact Pool.moves_dispose s.pool
  | advance ms => exact s.moves_advance ms
  | wait ms =>
    exact (Pool.Move.outside s.pool (s.now + ms) s.pool.store (Nat.le_add_right _ ms)).moves
  | dropHandle h => exact (Pool.Move.ask (Fleet.alike_drop s.pool.fleet h)).moves
  | setReconnectFault h fault =>
    exact (Pool.Move.ask (Fleet.alike_setReconnectFault s.pool.fleet h fault)).moves
  | prepare answers => exact (Pool.Move.ask (Fleet.alike_prepare s.pool.fleet answers)).moves
  | setStore store => exact (Pool.Move.outside s.pool s.pool.now store (Nat.le_refl _)).moves

end Services

/-- An action and the state in which it was taken. -/
structure Moment where
  before : Services
  action : Action

def Moment.after (m : Moment) : Services := m.before.act m.action

/-- The services have come to a state, after some actions, the latest of which is last. -/
inductive Run : List Moment → Services → Prop
  | start {config : AdminConfig} {store : ConnectionStore} {session : CloudSession}
      {web : Rest.Web} {s : Services}
      (started : Services.start config store session .empty web = .ok s) : Run [] s
  | act {past : List Moment} {s : Services} (run : Run past s) (a : Action) :
      Run (past ++ [⟨s, a⟩]) (s.act a)

/-- Services start with an empty pool and nothing remembered. -/
theorem Services.start_ok {config : AdminConfig} {store : ConnectionStore}
    {session : CloudSession} {fleet : Fleet} {web : Rest.Web} {s : Services}
    (h : Services.start config store session fleet web = .ok s) :
    s.pool = Pool.start config.pool store fleet ∧
      s.access = Acl.AccessCache.empty config.acl.cacheTtlMs := by
  simp only [Services.start, bind, Except.bind] at h
  split at h <;> cases h
  exact ⟨rfl, rfl⟩

theorem Run.accounted {past : List Moment} {s : Services} (run : Run past s) :
    s.pool.Accounted := by
  induction run with
  | start started =>
    rw [(Services.start_ok started).1]
    exact Pool.Accounted.start _ _
  | act run a ih => exact (Services.moves_act _ a).accounted ih

/-- The moments of some actions in a row. -/
def moments (s : Services) : List Action → List Moment
  | [] => []
  | a :: as => ⟨s, a⟩ :: moments (s.act a) as

theorem Run.acts {past : List Moment} {s : Services} (run : Run past s) (as : List Action) :
    Run (past ++ moments s as) (as.foldl Services.act s) := by
  induction as generalizing past s with
  | nil => simpa [moments] using run
  | cons a as ih => simpa [moments] using ih (run.act a)

/-- The credential of a user by name. -/
def Credential.ofUser (name : String) : Credential := .login (.basic ⟨name, "secret"⟩)

/-- Services with the usual settings that have done nothing yet. -/
def Services.idle : Services where
  reaperIntervalMs := 60000
  pool := .start {} .empty .empty
  access := .empty 60000
  session := .signedOut
  web := .offline
  proxyIds := .empty

theorem Run.idle : Run [] Services.idle :=
  @Run.start {} .empty .signedOut .offline _ rfl

end ClusterAdmin
