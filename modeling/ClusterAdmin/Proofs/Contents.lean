import ClusterAdmin.Proofs.Frames
import ClusterAdmin.Proofs.Synchrony

namespace ClusterAdmin.Wire

/-- A code is taken for the value that has it, or for unknown if it is no value's. -/
def Decodes {α : Type} (code : α → Int8) (unknown : α) (c : Int8) (x : α) : Prop :=
  code x = c ∨ (∀ y, code y ≠ c) ∧ x = unknown

theorem decodes_find? {α : Type} {code : α → Int8} {all : List α} (hall : ∀ x, x ∈ all)
    (unknown : α) (c : Int8) :
    Decodes code unknown c ((all.find? fun x => code x == c).getD unknown) := by
  cases hfind : all.find? fun x => code x == c with
  | some x => exact .inl (by simpa using List.find?_some hfind)
  | none => exact .inr ⟨fun y => by simpa using List.find?_eq_none.mp hfind y (hall y), rfl⟩

structure AclEntryAnswer.Tells (e : AclEntryAnswer) (x : AclEntry) : Prop where
  principal : x.principal = e.principal
  host : x.host = e.host
  operation : Decodes AclOperation.code .unknown e.operation x.operation
  permission : Decodes Permission.code .unknown e.permission x.permission

structure AclResourceAnswer.Tells (r : AclResourceAnswer) (x : AclResource) : Prop where
  type : Decodes ResourceType.code .unknown r.type x.type
  name : x.name = r.name
  pattern : Decodes PatternType.code .unknown r.pattern x.pattern
  acls : List.Forall₂ AclEntryAnswer.Tells r.acls x.acls

structure AclsAnswer.Tells (a : AclsAnswer) (x : AclListing) : Prop where
  errorCode : x.errorCode = a.errorCode
  errorMessage : x.errorMessage = a.errorMessage
  resources : List.Forall₂ AclResourceAnswer.Tells a.resources x.resources

structure PartitionAnswer.Tells (p : PartitionAnswer) (x : PartitionMetadata) : Prop where
  id : x.id = p.index
  errorCode : x.errorCode = p.errorCode
  leader : x.leader = p.leader
  replicas : x.replicas = p.replicas
  isr : x.isr = p.isr
  offline : x.offline = p.offline

/-- A topic without a name has the empty one. -/
structure TopicAnswer.Tells (t : TopicAnswer) (x : TopicMetadata) : Prop where
  name : x.name = t.name.getD ""
  errorCode : x.errorCode = t.errorCode
  isInternal : x.isInternal = t.isInternal
  partitions : List.Forall₂ PartitionAnswer.Tells t.partitions x.partitions

structure MetadataAnswer.Tells (m : MetadataAnswer) (x : ClusterMetadata) : Prop where
  clusterId : x.clusterId = m.clusterId
  controllerId : x.controllerId = m.controllerId
  brokers : x.brokers = m.brokers
  topics : List.Forall₂ TopicAnswer.Tells m.topics x.topics

/-- Of a deletion there is never a message. -/
structure DeletionAnswer.TellsOf (d : Option String × Int16) (x : TopicOutcome) : Prop where
  name : x.name = d.1.getD ""
  errorCode : x.errorCode = d.2
  errorMessage : x.errorMessage = none

/-- The answer to a call. -/
inductive Answer where
  | acls (answer : AclsAnswer)
  | metadata (answer : MetadataAnswer)
  | creation (answer : CreationAnswer)
  | deletion (answer : DeletionAnswer)
  deriving DecidableEq, Repr

namespace Answer

def write : Answer → Written
  | acls a => a.write
  | metadata a => a.write
  | creation a => a.write
  | deletion a => a.write

/-- To which calls an answer is one. -/
inductive To : Answer → Call → Prop
  | acls {a : AclsAnswer} {filter : AclFilter} : To (.acls a) (.describeAcls filter)
  | metadata {a : MetadataAnswer} {topics : Option (List String)} :
    To (.metadata a) (.metadata topics)
  | creation {a : CreationAnswer} {topics : List NewTopic} {validateOnly : Bool} :
    To (.creation a) (.createTopics topics validateOnly)
  | deletion {a : DeletionAnswer} {names : List String} : To (.deletion a) (.deleteTopics names)

/-- What the value of a call must be if that is the answer. -/
inductive Tells : Answer → Value → Prop
  | acls {a : AclsAnswer} {x : AclListing} (h : a.Tells x) : Tells (.acls a) (.acls x)
  | metadata {a : MetadataAnswer} {x : ClusterMetadata} (h : a.Tells x) :
    Tells (.metadata a) (.metadata x)
  | creation {a : CreationAnswer} : Tells (.creation a) (.topics a.topics)
  | deletion {a : DeletionAnswer} {xs : List TopicOutcome}
      (h : List.Forall₂ DeletionAnswer.TellsOf a.topics xs) : Tells (.deletion a) (.topics xs)

end Answer

theorem AclEntryAnswer.tells_content (e : AclEntryAnswer) : e.Tells e.content :=
  ⟨rfl, rfl, decodes_find? (fun x => by cases x <;> decide) _ _,
    decodes_find? (fun x => by cases x <;> decide) _ _⟩

theorem AclResourceAnswer.tells_content (r : AclResourceAnswer) : r.Tells r.content :=
  ⟨decodes_find? (fun x => by cases x <;> decide) _ _, rfl,
    decodes_find? (fun x => by cases x <;> decide) _ _,
    List.forall₂_map_right_iff.mpr (List.forall₂_same.mpr fun e _ => e.tells_content)⟩

theorem AclsAnswer.tells_content (a : AclsAnswer) : a.Tells a.content :=
  ⟨rfl, rfl, List.forall₂_map_right_iff.mpr (List.forall₂_same.mpr fun r _ => r.tells_content)⟩

theorem TopicAnswer.tells_content (t : TopicAnswer) : t.Tells t.content :=
  ⟨rfl, rfl, rfl, List.forall₂_map_right_iff.mpr
    (List.forall₂_same.mpr fun _ _ => ⟨rfl, rfl, rfl, rfl, rfl, rfl⟩)⟩

theorem MetadataAnswer.tells_content (m : MetadataAnswer) : m.Tells m.content :=
  ⟨rfl, rfl, rfl,
    List.forall₂_map_right_iff.mpr (List.forall₂_same.mpr fun t _ => t.tells_content)⟩

theorem DeletionAnswer.tells_content (d : DeletionAnswer) :
    List.Forall₂ DeletionAnswer.TellsOf d.topics d.content :=
  List.forall₂_map_right_iff.mpr (List.forall₂_same.mpr fun _ _ => ⟨rfl, rfl, rfl⟩)

/-- What the client makes of an answer. -/
def Answer.content : Answer → Value
  | acls a => .acls a.content
  | metadata a => .metadata a.content
  | creation a => .topics a.content
  | deletion a => .topics a.content

theorem Answer.tells_content (a : Answer) : a.Tells a.content := by
  cases a with
  | acls a => exact .acls a.tells_content
  | metadata a => exact .metadata a.tells_content
  | creation a => exact .creation
  | deletion a => exact .deletion a.tells_content

theorem spells_broker (b : BrokerMetadata) : (writeBroker b).Spells readBroker b := by
  intro octets h
  simp only [writeBroker, written_bind_eq_ok, written_pure_eq_ok, List.append_assoc] at h
  obtain ⟨host, hhost, rack, hrack, rfl⟩ := h
  have hhost := (spells_string _ host hhost).2
  have hrack := (spells_nullable _ rack hrack).2
  exact ⟨by simp [writeInt32, Bytes.ofUInt32], (readsAs_int32 _).bind (hhost.bind
    ((readsAs_int32 _).bind hrack.last))⟩

theorem spells_partition (p : PartitionAnswer) :
    Written.Spells (.ok p.write) PartitionAnswer.read p := by
  intro octets h
  cases h
  refine ⟨by simp [PartitionAnswer.write, writeInt16, Bytes.ofUInt16], ?_⟩
  simp only [PartitionAnswer.write, List.append_assoc]
  exact (readsAs_int16 _).bind ((readsAs_int32 _).bind ((readsAs_int32 _).bind
    ((readsAs_int32 _).bind ((readsAs_int32s _).bind ((readsAs_int32s _).bind
    (readsAs_int32s _).last)))))

theorem spells_topic (t : TopicAnswer) : t.write.Spells TopicAnswer.read t := by
  intro octets h
  simp only [TopicAnswer.write, written_bind_eq_ok, written_pure_eq_ok, List.append_assoc] at h
  obtain ⟨name, hname, partitions, hpartitions, rfl⟩ := h
  have hname := (spells_nullable _ name hname).2
  have hpartitions := (spells_list spells_partition t.partitions partitions hpartitions).2
  exact ⟨by simp [writeInt16, Bytes.ofUInt16], (readsAs_int16 _).bind (hname.bind
    ((readsAs_bool _).bind (hpartitions.bind (readsAs_int32 _).last)))⟩

theorem spells_metadata (m : MetadataAnswer) : m.write.Spells MetadataAnswer.read m := by
  intro octets h
  simp only [MetadataAnswer.write, written_bind_eq_ok, written_pure_eq_ok, List.append_assoc] at h
  obtain ⟨brokers, hbrokers, name, hname, topics, htopics, rfl⟩ := h
  have hbrokers := (spells_list spells_broker m.brokers brokers hbrokers).2
  have hname := (spells_nullable _ name hname).2
  have htopics := (spells_list spells_topic m.topics topics htopics).2
  exact ⟨by simp [writeInt32, Bytes.ofUInt32], (readsAs_int32 _).bind (hbrokers.bind (hname.bind
    ((readsAs_int32 _).bind (htopics.bind (readsAs_int32 _).last))))⟩

theorem spells_aclEntry (e : AclEntryAnswer) : e.write.Spells AclEntryAnswer.read e := by
  intro octets h
  simp only [AclEntryAnswer.write, written_bind_eq_ok, written_pure_eq_ok, List.append_assoc] at h
  obtain ⟨principal, hprincipal, host, hhost, rfl⟩ := h
  obtain ⟨hne, hprincipal⟩ := spells_string _ principal hprincipal
  have hhost := (spells_string _ host hhost).2
  exact ⟨by simp [hne], hprincipal.bind (hhost.bind ((readsAs_int8 _).bind
    (readsAs_int8 _).last))⟩

theorem spells_aclResource (r : AclResourceAnswer) : r.write.Spells AclResourceAnswer.read r := by
  intro octets h
  simp only [AclResourceAnswer.write, written_bind_eq_ok, written_pure_eq_ok,
    List.append_assoc] at h
  obtain ⟨name, hname, acls, hacls, rfl⟩ := h
  have hname := (spells_string _ name hname).2
  have hacls := (spells_list spells_aclEntry r.acls acls hacls).2
  exact ⟨by simp [writeInt8], (readsAs_int8 _).bind (hname.bind ((readsAs_int8 _).bind
    hacls.last))⟩

theorem spells_acls (a : AclsAnswer) : a.write.Spells AclsAnswer.read a := by
  intro octets h
  simp only [AclsAnswer.write, written_bind_eq_ok, written_pure_eq_ok, List.append_assoc] at h
  obtain ⟨message, hmessage, resources, hresources, rfl⟩ := h
  have hmessage := (spells_nullable _ message hmessage).2
  have hresources := (spells_list spells_aclResource a.resources resources hresources).2
  exact ⟨by simp [writeInt32, Bytes.ofUInt32], (readsAs_int32 _).bind ((readsAs_int16 _).bind
    (hmessage.bind hresources.last))⟩

theorem spells_outcome (o : TopicOutcome) : (writeOutcome o).Spells readOutcome o := by
  intro octets h
  simp only [writeOutcome, written_bind_eq_ok, written_pure_eq_ok, List.append_assoc] at h
  obtain ⟨name, hname, message, hmessage, rfl⟩ := h
  obtain ⟨hne, hname⟩ := spells_string _ name hname
  have hmessage := (spells_nullable _ message hmessage).2
  exact ⟨by simp [hne], hname.bind ((readsAs_int16 _).bind hmessage.last)⟩

theorem spells_creation (c : CreationAnswer) : c.write.Spells CreationAnswer.read c := by
  intro octets h
  simp only [CreationAnswer.write, written_bind_eq_ok, written_pure_eq_ok] at h
  obtain ⟨topics, htopics, rfl⟩ := h
  have htopics := (spells_list spells_outcome c.topics topics htopics).2
  exact ⟨by simp [writeInt32, Bytes.ofUInt32], (readsAs_int32 _).bind htopics.last⟩

theorem spells_deletionOf (d : Option String × Int16) :
    (writeDeletion d).Spells readDeletion d := by
  intro octets h
  simp only [writeDeletion, written_bind_eq_ok, written_pure_eq_ok] at h
  obtain ⟨name, hname, rfl⟩ := h
  obtain ⟨hne, hname⟩ := spells_nullable _ name hname
  exact ⟨by simp [hne], hname.bind (readsAs_int16 _).last⟩

theorem spells_deletion (d : DeletionAnswer) : d.write.Spells DeletionAnswer.read d := by
  intro octets h
  simp only [DeletionAnswer.write, written_bind_eq_ok, written_pure_eq_ok] at h
  obtain ⟨topics, htopics, rfl⟩ := h
  have htopics := (spells_list spells_deletionOf d.topics topics htopics).2
  exact ⟨by simp [writeInt32, Bytes.ofUInt32], (readsAs_int32 _).bind htopics.last⟩

/-- A call reads what the client makes of its answer. -/
theorem Answer.To.reads {a : Answer} {k : Call} (h : a.To k) {body : Bytes}
    (written : a.write = .ok body) : ReadsAs body k.reader a.content := by
  cases h with
  | acls => exact (spells_acls _ body written).2.map _
  | metadata => exact (spells_metadata _ body written).2.map _
  | creation => exact (spells_creation _ body written).2.map _
  | deletion => exact (spells_deletion _ body written).2.map _

def AclEntryAnswer.ofEntry (e : AclEntry) : AclEntryAnswer :=
  ⟨e.principal, e.host, e.operation.code, e.permission.code⟩

def AclResourceAnswer.ofResource (r : AclResource) : AclResourceAnswer :=
  ⟨r.type.code, r.name, r.pattern.code, r.acls.map AclEntryAnswer.ofEntry⟩

def AclsAnswer.ofListing (throttleMs : Int32) (l : AclListing) : AclsAnswer :=
  ⟨throttleMs, l.errorCode, l.errorMessage, l.resources.map AclResourceAnswer.ofResource⟩

@[simp] theorem AclEntryAnswer.content_ofEntry (e : AclEntry) : (ofEntry e).content = e := by
  simp [content, ofEntry]

@[simp] theorem AclResourceAnswer.content_ofResource (r : AclResource) :
    (ofResource r).content = r := by
  simp [content, ofResource, Function.comp_def]

@[simp] theorem AclsAnswer.content_ofListing (throttleMs : Int32) (l : AclListing) :
    (ofListing throttleMs l).content = l := by
  simp [content, ofListing, Function.comp_def]

theorem readAnswer_of_reads {α : Type} {read : Reader α} {body rest : Bytes} {v : α}
    (h : read body = .ok (v, rest)) (api : Api) (id : Int32) :
    Client.readAnswer api id read (writeInt32 id ++ body) = .ok v := by
  have hid := readsAs_int32 id (by simp) body
  simp only [Client.readAnswer, hid, h, ne_eq, not_true_eq_false, if_false]

/-- The answer to a call, however much it says, gives the call all that it tells, whatever comes
after it in its frame or after that. A list of rules is told by the codes of its parts and comes to
the client as it is. -/
theorem Call.answer_faithful {k : Call} {a : Answer} (kind : a.To k) {body : Bytes}
    (written : a.write = .ok body) (small : body.length < 2147483648) (trailing : Bytes) :
    ∃ v, a.Tells v ∧ (∀ throttleMs l, a = .acls (.ofListing throttleMs l) → v = .acls l) ∧
      (∀ settings r, k.request? settings = some r →
        responseHeaderVersion r.api.key r.api.version = 0 ∧
          ∀ id, Client.readAnswer r.api id k.reader (writeInt32 id ++ (body ++ trailing)) = .ok v) ∧
      ∀ target settings network nonce calls,
        let c := Client.used target settings network nonce calls
        ∀ i x y answer rest, c.Awaits k i x y → answer = writeInt32 c.nextId ++ (body ++ trailing) →
          y.unread = writeOctets answer ++ rest → answer.length < 2147483648 →
          answer.length ≤ c.settings.maxResponseBytes → (c.perform k).1 = .ok v := by
  have hread := kind.reads written small trailing
  refine ⟨a.content, a.tells_content, ?listing, ?decoded, ?performed⟩
  case listing =>
    rintro throttleMs l rfl
    simp [Answer.content]
  case decoded =>
    intro settings r hr
    refine ⟨?_, readAnswer_of_reads hread r.api⟩
    cases kind <;> cases hr <;> rfl
  case performed =>
    rintro target settings network nonce calls c i x y _ rest awaits rfl come hsmall within
    have hsound : c.Sound := (Client.follows_used target settings network nonce calls).sound
    rw [writeOctets, List.append_assoc] at come
    refine hsound.perform_of_frame awaits come rfl ?_ within (readsAs_int32 _ (by simp) _) hread
    rw [sizeOf_writeInt32, Int32.toInt_ofNat_of_lt hsmall]

/-- A broker tells one rule about an operation that has no name here, and one octet too many. -/
theorem Call.answer_faithful_unknown :
    let a := Answer.acls ⟨0, 0, none, [⟨2, "t", 3, [⟨"User:a", "*", 99, 3⟩]⟩]⟩
    let l : AclListing := ⟨0, none, [⟨.topic, "t", .literal, [⟨"User:a", "*", .unknown, .allow⟩]⟩]⟩
    let body : Bytes := [0, 0, 0, 0, 0, 0, 255, 255, 0, 0, 0, 1, 2, 0, 1, 116, 3, 0, 0, 0, 1, 0, 6,
      85, 115, 101, 114, 58, 97, 0, 1, 42, 99, 3]
    let broker : Peer := ⟨fun _ _ => none, fun written =>
      ⟨if written = [] then [] else writeOctets (writeInt32 0 ++ (body ++ [7])), .pending⟩⟩
    let c := Client.used ⟨⟨"eu", "a"⟩, ["b:9092"], none, none⟩ {} (fun _ _ => .ok broker)
      (fun _ => "") []
    a.write = .ok body ∧ a.Tells (.acls l) ∧
      (c.perform (.describeAcls (.forTopic "t"))).1 = .ok (.acls l) := by
  intro a l body broker c
  have hwritten : a.write = .ok body := by decide +kernel
  have hdecoded : Client.readAnswer .describeAcls 0 (Call.describeAcls (.forTopic "t")).reader
      (writeInt32 0 ++ (body ++ [7])) = .ok (.acls l) := by decide +kernel
  have haddress : Address.fault? "b:9092" = none := by decide +kernel
  let x := Connection.make "b:9092" broker
  have hserving : c.current = some 0 ∧ c.connections[0]? = some x ∧ c.nextId = 0 ∧
      c.settings = {} := by
    simp only [c, Client.used, Client.connect, Client.reconnect, Client.make, Client.dropped,
      Client.openAny, Client.openBroker, Client.dial, haddress]
    exact ⟨rfl, rfl, rfl, rfl⟩
  obtain ⟨hcurrent, hhere, hid, hsettings⟩ := hserving
  obtain ⟨frame, hframe⟩ : ∃ frame,
      (Request.describeAcls (.forTopic "t")).frame 0 "streamline-admin" = .ok frame := by
    cases h : (Request.describeAcls (.forTopic "t")).frame 0 "streamline-admin" with
    | ok frame => exact ⟨frame, rfl⟩
    | error f =>
      exact absurd (Request.frame_eq_error_iff.mp ⟨f, h⟩) (by decide +kernel)
  have hawaits : c.Awaits (.describeAcls (.forTopic "t")) 0 x (x.put frame) :=
    ⟨hcurrent, hhere, _, frame, rfl, by rw [hid, hsettings]; exact hframe, rfl⟩
  obtain ⟨v, htells, -, hread, hperform⟩ := answer_faithful .acls hwritten (by decide) [7]
  cases ((hread {} _ rfl).2 0).symm.trans hdecoded
  refine ⟨hwritten, htells, hperform _ _ _ _ _ 0 x _ _ [] hawaits rfl ?_ (by decide) ?_⟩
  · rw [hid, List.append_nil]
    rfl
  · rw [hid, hsettings]
    decide

end ClusterAdmin.Wire
