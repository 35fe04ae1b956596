import ClusterAdmin.Proofs.Calls
import ClusterAdmin.Proofs.Fields

namespace ClusterAdmin.Wire

namespace Request

/-- All texts of a request but the client's name. -/
def texts : Request → List String
  | metadata topics => topics.getD []
  | describeAcls f => f.name.toList ++ f.principal.toList ++ f.host.toList
  | createTopics topics _ _ =>
    topics.flatMap fun t => t.name :: t.configs.flatMap fun c => [c.1, c.2]
  | deleteTopics names _ => names
  | saslHandshake mechanism => [mechanism]
  | saslAuthenticate _ => []

theorem spells_config (c : String × String) :
    (writeConfig c).Spells readConfig (c.1, some c.2) := by
  intro b hb
  simp only [writeConfig, written_bind_eq_ok, written_pure_eq_ok] at hb
  obtain ⟨name, hname, value, hvalue, rfl⟩ := hb
  obtain ⟨hne, hreads⟩ := spells_string c.1 name hname
  have hvalue := (spells_nullable (some c.2) value hvalue).2
  exact ⟨by simp [hne], hreads.bind hvalue.last⟩

theorem spells_newTopic (t : NewTopic) :
    (writeNewTopic t).Spells readCreation (creation t) := by
  intro b hb
  simp only [writeNewTopic, written_bind_eq_ok, written_pure_eq_ok, List.append_assoc] at hb
  obtain ⟨name, hname, configs, hconfigs, rfl⟩ := hb
  obtain ⟨hne, hname⟩ := spells_string t.name name hname
  have hassignments : ReadsAs (writeInt32 0) (readArray readAssignment) [] := fun _ _ => rfl
  have hconfigs := (spells_array (fun c _ => spells_config c) configs hconfigs).2
  exact ⟨by simp [hne], hname.bind ((readsAs_int32 _).bind ((readsAs_int16 _).bind
    (hassignments.bind hconfigs.last)))⟩

theorem spells_body (r : Request) : r.writeBody.Spells (readBody r.api) r.body := by
  intro b hb
  cases r with
  | metadata topics =>
    have hnames : ∃ names, b = names ++ (writeBool false ++ (writeBool false ++ writeBool false)) ∧
        ReadsAs names (readNullableArray readString) topics := by
      cases topics with
      | none =>
        cases hb
        exact ⟨writeInt32 (-1), rfl, fun _ _ => rfl⟩
      | some ns =>
        simp only [writeBody, written_bind_eq_ok, written_pure_eq_ok, List.append_assoc] at hb
        obtain ⟨names, hnames, rfl⟩ := hb
        have h := (spells_nullableArray (fun n _ => spells_string n) names hnames).2
        rw [List.map_id'] at h
        exact ⟨names, rfl, h⟩
    obtain ⟨names, rfl, hnames⟩ := hnames
    exact ⟨by simp [writeBool], hnames.bind ((readsAs_bool _).bind ((readsAs_bool _).bind
      (readsAs_bool _).last))⟩
  | describeAcls f =>
    simp only [writeBody, writeFilter, written_bind_eq_ok, written_pure_eq_ok,
      List.append_assoc] at hb
    obtain ⟨name, hname, principal, hprincipal, host, hhost, rfl⟩ := hb
    have hname := (spells_nullable _ name hname).2
    have hprincipal := (spells_nullable _ principal hprincipal).2
    have hhost := (spells_nullable _ host hhost).2
    exact ⟨by simp [writeInt8], (readsAs_int8 _).bind (hname.bind ((readsAs_int8 _).bind
      (hprincipal.bind (hhost.bind ((readsAs_int8 _).bind (readsAs_int8 _).last)))))⟩
  | createTopics topics timeoutMs validateOnly =>
    simp only [writeBody, written_bind_eq_ok, written_pure_eq_ok, List.append_assoc] at hb
    obtain ⟨each, heach, rfl⟩ := hb
    obtain ⟨hne, heach⟩ := spells_array (fun t _ => spells_newTopic t) each heach
    exact ⟨by simp [hne], heach.bind ((readsAs_int32 _).bind (readsAs_bool _).last)⟩
  | deleteTopics names timeoutMs =>
    simp only [writeBody, written_bind_eq_ok, written_pure_eq_ok] at hb
    obtain ⟨each, heach, rfl⟩ := hb
    obtain ⟨hne, heach⟩ := spells_list spells_string names each heach
    exact ⟨by simp [hne], heach.bind (readsAs_int32 _).last⟩
  | saslHandshake mechanism =>
    obtain ⟨hne, hmechanism⟩ := spells_string mechanism b hb
    exact ⟨hne, hmechanism.last⟩
  | saslAuthenticate payload =>
    cases hb
    exact ⟨by simp [writeOctets, writeInt32, Bytes.ofUInt32], (readsAs_long payload).last⟩

theorem spells_header (r : Request) (id : Int32) (client : String) :
    (r.writeHeader id client).Spells readHeader ⟨r.api.key, r.api.version, id, some client⟩ := by
  intro b hb
  simp only [writeHeader, written_bind_eq_ok, written_pure_eq_ok, List.append_assoc] at hb
  obtain ⟨name, hname, rfl⟩ := hb
  have hname := (spells_nullable (some client) name hname).2
  exact ⟨by simp [writeInt16, Bytes.ofUInt16], (readsAs_int16 _).bind ((readsAs_int16 _).bind
    ((readsAs_int32 _).bind hname.last))⟩

theorem needs_filter (f : AclFilter) :
    (writeFilter f).Needs (f.name.toList ++ f.principal.toList ++ f.host.toList) := by
  rw [List.append_assoc]
  exact (needs_nullable f.name).bind fun _ => (needs_nullable f.principal).bind fun _ =>
    (needs_nullable f.host).last

theorem needs_config (c : String × String) : (writeConfig c).Needs [c.1, c.2] :=
  (needs_string c.1).bind fun _ => (needs_string c.2).last

theorem needs_newTopic (t : NewTopic) :
    (writeNewTopic t).Needs (t.name :: t.configs.flatMap fun c => [c.1, c.2]) :=
  (needs_string t.name).bind fun _ => (needs_array needs_config).last

theorem needs_body (r : Request) : r.writeBody.Needs r.texts := by
  cases r with
  | metadata topics =>
    cases topics with
    | none => exact needs_pure _
    | some ns => exact (needs_strings ns).last
  | describeAcls f => exact needs_filter f
  | createTopics topics timeoutMs validateOnly => exact (needs_array needs_newTopic).last
  | deleteTopics names timeoutMs => exact (needs_strings names).last
  | saslHandshake mechanism => exact needs_string mechanism
  | saslAuthenticate payload => exact needs_pure _

theorem needs_header (r : Request) (id : Int32) (client : String) :
    (r.writeHeader id client).Needs [client] := (needs_string client).last

section

variable {r : Request} {id : Int32} {client : String}

theorem frame_eq_ok {frame : Bytes} : r.frame id client = .ok frame ↔
    ∃ header body, r.writeHeader id client = .ok header ∧ r.writeBody = .ok body ∧
      frame = writeOctets (header ++ body) := by
  simp only [Request.frame]
  cases hheader : r.writeHeader id client with
  | error e => exact ⟨nofun, nofun⟩
  | ok header =>
    cases hbody : r.writeBody with
    | error e => exact ⟨nofun, nofun⟩
    | ok body =>
      constructor
      · rintro ⟨⟩
        exact ⟨header, body, rfl, rfl, rfl⟩
      · rintro ⟨_, _, ⟨⟩, ⟨⟩, rfl⟩
        rfl

theorem category_of_frame {f : Failure} (h : r.frame id client = .error f) :
    f.category = .invalid := by
  simp only [Request.frame] at h
  split at h
  · cases h
    rfl
  · split at h
    · cases h
      rfl
    · cases h

/-- There is a frame unless a text is too long. -/
theorem frame_eq_error_iff :
    (∃ f, r.frame id client = .error f) ↔ ∃ s ∈ client :: r.texts, 32767 < s.utf8ByteSize := by
  have hfits : (∃ frame, r.frame id client = .ok frame) ↔
      ∀ s ∈ [client] ++ r.texts, s.utf8ByteSize ≤ 32767 := by
    rw [List.forall_mem_append]
    constructor
    · rintro ⟨frame, h⟩
      obtain ⟨header, body, hheader, hbody, -⟩ := frame_eq_ok.mp h
      exact ⟨(r.needs_header id client).mp ⟨header, hheader⟩, r.needs_body.mp ⟨body, hbody⟩⟩
    · rintro ⟨hclient, htexts⟩
      obtain ⟨header, hheader⟩ := (r.needs_header id client).mpr hclient
      obtain ⟨body, hbody⟩ := r.needs_body.mpr htexts
      exact ⟨_, frame_eq_ok.mpr ⟨header, body, hheader, hbody, rfl⟩⟩
  have hfails : (∃ f, r.frame id client = .error f) ↔
      ¬∃ frame, r.frame id client = .ok frame := by
    cases r.frame id client <;> simp
  rw [hfails, hfits]
  simp only [not_forall, Nat.not_le, exists_prop, List.singleton_append]

end

theorem writeInt32_ofNat {n : Nat} (h : n < 2147483648) :
    ∃ w x y z, writeInt32 (Int32.ofNat n) = [w, x, y, z] ∧
      n = 16777216 * w.toNat + 65536 * x.toNat + 256 * y.toNat + z.toNat := by
  refine ⟨_, _, _, _, rfl, ?_⟩
  have hword : (Int32.ofNat n).toUInt32.toNat = n := by
    rw [Int32.toUInt32_ofNat', UInt32.toNat_ofNat_of_lt' (Nat.lt_trans h (by decide))]
  simp only [hword, UInt8.toNat_ofNat']
  omega

section

variable {r : Request} {id : Int32} {client : String}

theorem read_of_frame {frame : Bytes} (h : r.frame id client = .ok frame) :
    ∃ octets, frame = writeInt32 (Int32.ofNat octets.length) ++ octets ∧
      (octets.length < 2147483648 → ∃ body,
        readHeader octets = .ok (⟨r.api.key, r.api.version, id, some client⟩, body) ∧
        readBody r.api body = .ok (r.body, [])) := by
  obtain ⟨header, body, hheader, hbody, rfl⟩ := frame_eq_ok.mp h
  refine ⟨header ++ body, rfl, fun hsmall => ⟨body, ?_, ?_⟩⟩
  all_goals rw [List.length_append] at hsmall
  · exact (r.spells_header id client header hheader).2 (by omega) body
  · have hread := (r.spells_body body hbody).2 (by omega) []
    rwa [List.append_nil] at hread

end

theorem creation_injective {t t' : NewTopic} (h : creation t = creation t') : t = t' := by
  obtain ⟨name, partitions, replicationFactor, configs⟩ := t
  obtain ⟨name', partitions', replicationFactor', configs'⟩ := t'
  simp only [creation, Creation.mk.injEq, true_and] at h
  obtain ⟨rfl, rfl, rfl, hconfigs⟩ := h
  have hc : configs = configs' := by
    refine (List.map_inj_right fun c c' h => ?_).mp hconfigs
    simpa [Prod.ext_iff] using h
  rw [hc]

theorem body_injective {r r' : Request} (h : r.body = r'.body) : r = r' := by
  cases r <;> cases r' <;> simp only [body, reduceCtorEq] at h
  case metadata | deleteTopics | saslHandshake | saslAuthenticate =>
    cases h
    rfl
  case describeAcls f f' =>
    simp only [Body.describeAcls.injEq, ResourceType.code_inj, PatternType.code_inj,
      AclOperation.code_inj, Permission.code_inj] at h
    obtain ⟨htype, hname, hpattern, hprincipal, hhost, hoperation, hpermission⟩ := h
    cases f
    cases f'
    simp_all
  case createTopics =>
    simp only [Body.createTopics.injEq] at h
    obtain ⟨htopics, rfl, rfl⟩ := h
    rw [(List.map_inj_right fun _ _ => creation_injective).mp htopics]

/-- The frame of a request tells the request, its identifier and the client's name. -/
theorem frame_injective {r r' : Request} {id id' : Int32} {client client' : String} {frame : Bytes}
    (hsmall : frame.length < 2147483652) (h : r.frame id client = .ok frame)
    (h' : r'.frame id' client' = .ok frame) : r = r' ∧ id = id' ∧ client = client' := by
  obtain ⟨octets, rfl, hread⟩ := read_of_frame h
  obtain ⟨octets', hsame, hread'⟩ := read_of_frame h'
  obtain ⟨-, rfl⟩ := List.append_inj hsame rfl
  rw [List.length_append, length_writeInt32] at hsmall
  obtain ⟨body, hheader, hbody⟩ := hread (by omega)
  obtain ⟨body', hheader', hbody'⟩ := hread' (by omega)
  simp only [hheader, Except.ok.injEq, Prod.mk.injEq, Header.mk.injEq, Option.some.injEq]
    at hheader'
  obtain ⟨⟨hkey, -, rfl, rfl⟩, rfl⟩ := hheader'
  have hapi : r.api = r'.api := by simpa using congrArg Api.ofKey? hkey
  rw [hapi, hbody'] at hbody
  simp only [Except.ok.injEq, Prod.mk.injEq, and_true] at hbody
  exact ⟨body_injective hbody.symm, rfl, rfl⟩

end Request

/-- A request is sent by one call. -/
theorem Call.request?_inj {settings settings' : NativeConfig} {k k' : Call} {r : Request}
    (h : k.request? settings = some r) (h' : k'.request? settings' = some r) : k = k' := by
  cases k <;> cases h <;> cases k' <;> simp_all [Call.request?]

/-- A request has a frame unless the client's name or one of its texts is longer than 32767 octets;
then it is invalid. In its frame comes first the number of the other octets, with the high octet
first. A broker that reads these finds the header, which names the kind of the request, its version,
its identifier and the client, then a body that says what the request says, and nothing more. So
different requests, and requests of different calls, never have one frame. -/
theorem Request.frame_faithful (r : Request) (id : Int32) (client : String) :
    ((∃ f, r.frame id client = .error f) ↔ ∃ s ∈ client :: r.texts, 32767 < s.utf8ByteSize) ∧
    (∀ f, r.frame id client = .error f → f.category = .invalid) ∧
    (∀ frame, r.frame id client = .ok frame → frame.length < 2147483652 →
      ∃ w x y z octets body, frame = w :: x :: y :: z :: octets ∧
        octets.length = 16777216 * w.toNat + 65536 * x.toNat + 256 * y.toNat + z.toNat ∧
        readHeader octets = .ok (⟨r.api.key, r.api.version, id, some client⟩, body) ∧
        requestHeaderVersion r.api.key r.api.version = 1 ∧ Api.ofKey? r.api.key = some r.api ∧
        readBody r.api body = .ok (r.body, [])) ∧
    (∀ frame r' id' client', frame.length < 2147483652 → r.frame id client = .ok frame →
      r'.frame id' client' = .ok frame → r = r' ∧ id = id' ∧ client = client' ∧
        ∀ k k' settings settings', Call.request? settings k = some r →
          Call.request? settings' k' = some r' → k = k') := by
  refine ⟨frame_eq_error_iff, fun _ => category_of_frame, ?read, ?injective⟩
  case read =>
    intro frame h hsmall
    obtain ⟨octets, rfl, hread⟩ := read_of_frame h
    rw [List.length_append, length_writeInt32] at hsmall
    have hoctets : octets.length < 2147483648 := by omega
    obtain ⟨w, x, y, z, hhead, hlength⟩ := writeInt32_ofNat hoctets
    obtain ⟨body, hheader, hbody⟩ := hread hoctets
    refine ⟨w, x, y, z, octets, body, by rw [hhead]; rfl, hlength, hheader, ?_, by simp, hbody⟩
    cases r <;> rfl
  case injective =>
    intro frame r' id' client' hsmall h h'
    obtain ⟨rfl, hid, hclient⟩ := frame_injective hsmall h h'
    exact ⟨rfl, hid, hclient, fun k k' settings settings' => Call.request?_inj⟩

/-- A topic whose numbers are left to the broker, and the 43 octets that ask for it. -/
theorem Request.frame_faithful_defaults :
    let r := createTopics [⟨"t", -1, -1, [("k", "v")]⟩] 30000 true
    let octets : Bytes := [0, 19, 0, 4, 0, 0, 0, 7, 0, 1, 99, 0, 0, 0, 1, 0, 1, 116, 255, 255, 255,
      255, 255, 255, 0, 0, 0, 0, 0, 0, 0, 1, 0, 1, 107, 0, 1, 118, 0, 0, 117, 48, 1]
    r.frame 7 "c" = .ok (0 :: 0 :: 0 :: 43 :: octets) ∧ ∃ body,
      readHeader octets = .ok (⟨19, 4, 7, some "c"⟩, body) ∧
      readBody .createTopics body =
        .ok (.createTopics [⟨"t", -1, -1, [], [("k", some "v")]⟩] 30000 true, []) := by
  intro r octets
  have hframe : r.frame 7 "c" = .ok (0 :: 0 :: 0 :: 43 :: octets) := by decide +kernel
  obtain ⟨w, x, y, z, octets', body, hsame, -, hheader, -, -, hbody⟩ :=
    (frame_faithful r 7 "c").2.2.1 _ hframe (by decide)
  cases hsame
  exact ⟨hframe, body, hheader, hbody⟩

end ClusterAdmin.Wire
