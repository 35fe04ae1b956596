import ClusterAdmin.Proofs.Streams
import ClusterAdmin.Wire.Client
import Mathlib.Data.List.Forall2
import Mathlib.Data.List.Nodup

namespace ClusterAdmin.Wire

/-- The frame in which a request that was made goes out. -/
def Asked.frame (a : Asked) (settings : NativeConfig) : Except Failure Bytes :=
  a.request.frame a.id settings.clientId

/-- Requests whose identifiers are those from the given one on, without gaps. -/
def Numbered (first : Int32) (asked : List Asked) : Prop :=
  asked.map (·.id) = (List.range asked.length).map fun k => first + Int32.ofNat k

theorem Numbered.append {first : Int32} {as bs : List Asked} (h : Numbered first as)
    (h' : Numbered (first + Int32.ofNat as.length) bs) : Numbered first (as ++ bs) := by
  have hshift : (fun k => first + Int32.ofNat as.length + Int32.ofNat k) =
      (fun k => first + Int32.ofNat k) ∘ (as.length + ·) := by
    funext k
    simp only [Function.comp, Int32.ofNat_add, Int32.add_assoc]
  rw [Numbered, List.map_append, h, h', List.length_append, List.range_add, List.map_append,
    List.map_map, hshift]

/-- Identifiers repeat only after all of them were given out. -/
theorem Numbered.nodup {first : Int32} {as : List Asked} (h : Numbered first as)
    (few : as.length < UInt32.size) : (as.map (·.id)).Nodup := by
  rw [h]
  refine List.Nodup.map_on (fun a ha b hb hab => ?_) List.nodup_range
  rw [List.mem_range] at ha hb
  have hsize : UInt32.size = 4294967296 := rfl
  have hofNat : Int32.ofNat a = Int32.ofNat b := by simpa using hab
  have hvec := congrArg (BitVec.toNat ∘ Int32.toBitVec) hofNat
  simp only [Function.comp_apply, Int32.toBitVec_ofNat', BitVec.toNat_ofNat, Nat.reducePow] at hvec
  omega

/-- The octets that go out for requests one after another: the frame of each, but that of the last
may be cut or missing. -/
inductive GoesOut (settings : NativeConfig) : List Asked → List Bytes → Prop
  | whole {as : List Asked} {frames : List Bytes}
      (framed : List.Forall₂ (fun a frame => a.frame settings = .ok frame) as frames) :
    GoesOut settings as frames
  | missing {as : List Asked} {a : Asked} {frames : List Bytes}
      (framed : List.Forall₂ (fun a frame => a.frame settings = .ok frame) as frames) :
    GoesOut settings (as ++ [a]) frames
  | cut {as : List Asked} {a : Asked} {frames : List Bytes} {frame : Bytes}
      (framed : List.Forall₂ (fun a frame => a.frame settings = .ok frame) as frames)
      (last : a.frame settings = .ok frame) (n : Nat) :
    GoesOut settings (as ++ [a]) (frames ++ [frame.take n])

/-- A request and the octets that answered it. -/
structure Exchange where
  asked : Asked
  answer : Bytes
  deriving DecidableEq, Repr

namespace Exchange

/-- The answer is to this very request, and is read as that value. -/
def Tells {α : Type} (e : Exchange) (read : Reader α) (a : α) : Prop :=
  ∃ body rest, readInt32 e.answer = .ok (e.asked.id, body) ∧ read body = .ok (a, rest)

/-- The request went out as a frame, and what came in as the next one is its answer. -/
structure Passes (e : Exchange) (settings : NativeConfig) (x x' : Connection) : Prop where
  exchanged : ∃ frame, e.asked.frame settings = .ok frame ∧ x.Exchanged frame e.answer x'
  within : e.answer.length ≤ settings.maxResponseBytes
  answers : ∃ body, readInt32 e.answer = .ok (e.asked.id, body)

end Exchange

/-- A request has no frame, or the exchange stopped somewhere, or its answer was of no use. -/
inductive Asked.Fails (a : Asked) (settings : NativeConfig) (x : Connection) : Connection → Prop
  | unwritten {f : Failure} (frameless : a.frame settings = .error f) : a.Fails settings x x
  | stopped {frame : Bytes} {x' : Connection} (framed : a.frame settings = .ok frame)
      (touched : x.Touched frame settings.maxResponseBytes x') : a.Fails settings x x'

/-- Requests that were answered, and perhaps one more that failed. -/
def log (es : List Exchange) (failed : Option Asked) : List Asked :=
  es.map (·.asked) ++ failed.toList

theorem log_append (es es' : List Exchange) (failed : Option Asked) :
    log (es ++ es') failed = log es none ++ log es' failed := by simp [log]

theorem log_answered (es : List Exchange) (e : Exchange) :
    log (es ++ [e]) none = log es none ++ [e.asked] := log_append es [e] none

theorem log_failed (es : List Exchange) (a : Asked) : log es (some a) = log es none ++ [a] := by
  simp [log]

/-- What requests make of a connection, if all are answered, or all but the last. -/
inductive Course (settings : NativeConfig) (x : Connection) :
    List Exchange → Option Asked → Connection → Prop
  | silence : Course settings x [] none x
  | answered {es : List Exchange} {x' x'' : Connection} {e : Exchange}
      (before : Course settings x es none x') (passes : e.Passes settings x' x'') :
    Course settings x (es ++ [e]) none x''
  | failed {es : List Exchange} {x' x'' : Connection} {a : Asked}
      (before : Course settings x es none x') (fails : a.Fails settings x' x'') :
    Course settings x es (some a) x''

theorem Course.trans {settings : NativeConfig} {x x' x'' : Connection} {es es' : List Exchange}
    {failed : Option Asked} (h : Course settings x es none x')
    (h' : Course settings x' es' failed x'') : Course settings x (es ++ es') failed x'' := by
  induction h' with
  | silence => rwa [List.append_nil]
  | answered _ passes ih =>
    rw [← List.append_assoc]
    exact .answered ih passes
  | failed _ fails ih => exact .failed ih fails

/-- Every request but one that failed had an answer that is its own and within the limit. -/
theorem Course.answers {settings : NativeConfig} {x x' : Connection} {es : List Exchange}
    {failed : Option Asked} (h : Course settings x es failed x') (e : Exchange) (he : e ∈ es) :
    e.answer.length ≤ settings.maxResponseBytes ∧
      ∃ body, readInt32 e.answer = .ok (e.asked.id, body) := by
  induction h with
  | silence => cases he
  | answered _ passes ih =>
    rcases List.mem_append.mp he with he | he
    · exact ih he
    · cases List.mem_singleton.mp he
      exact ⟨passes.within, passes.answers⟩
  | failed _ _ ih => exact ih he

/-- Requests that are answered leave a connection to whom it was to. -/
theorem Course.address {settings : NativeConfig} {x x' : Connection} {es : List Exchange}
    (h : Course settings x es none x') : x'.address = x.address := by
  generalize hfailed : (none : Option Asked) = failed at h
  induction h with
  | silence => rfl
  | answered _ passes ih =>
    obtain ⟨_, -, exchanged⟩ := passes.exchanged
    exact exchanged.address.trans (ih hfailed)
  | failed => cases hfailed

/-- On a new connection whose requests were all answered, their frames went out and nothing else,
and the answers were read and nothing else. -/
theorem Course.kept {settings : NativeConfig} {address : String} {peer : Peer}
    {es : List Exchange} {x : Connection}
    (h : Course settings (.make address peer) es none x) :
    List.Forall₂ (fun e frame => e.asked.frame settings = .ok frame) es x.written ∧
      x.consumed = es.flatMap fun e => writeOctets e.answer := by
  generalize hfailed : (none : Option Asked) = failed at h
  induction h with
  | silence => exact ⟨.nil, rfl⟩
  | answered _ passes ih =>
    obtain ⟨hwritten, hconsumed⟩ := ih rfl
    obtain ⟨frame, hframe, exchanged⟩ := passes.exchanged
    rw [exchanged.written, exchanged.consumed, hconsumed, List.flatMap_append]
    exact ⟨List.rel_append hwritten (.cons hframe .nil), by simp⟩
  | failed => cases hfailed

/-- Nothing but the frames of its requests goes out on a new connection, and nothing but the answers
is read and no more of another one than should be. -/
theorem Course.bounds {settings : NativeConfig} {address : String} {peer : Peer}
    {es : List Exchange} {failed : Option Asked} {x : Connection}
    (h : Course settings (.make address peer) es failed x) :
    GoesOut settings (log es failed) x.written ∧
      ∃ octets, x.consumed = (es.flatMap fun e => writeOctets e.answer) ++ octets ∧
        Connection.Measured settings.maxResponseBytes octets := by
  have hframed {es : List Exchange} {x : Connection}
      (h : Course settings (.make address peer) es none x) :
      List.Forall₂ (fun a frame => a.frame settings = .ok frame) (log es none) x.written := by
    rw [log, Option.toList_none, List.append_nil, List.forall₂_map_left_iff]
    exact h.kept.1
  have hread {es : List Exchange} {x : Connection}
      (h : Course settings (.make address peer) es none x) :
      ∃ octets, x.consumed = (es.flatMap fun e => writeOctets e.answer) ++ octets ∧
        Connection.Measured settings.maxResponseBytes octets :=
    ⟨[], by rw [List.append_nil, h.kept.2], .inl (Nat.zero_le _)⟩
  cases h with
  | silence => exact ⟨.whole (hframed .silence), hread .silence⟩
  | answered before passes =>
    have h := Course.answered before passes
    exact ⟨.whole (hframed h), hread h⟩
  | failed before fails =>
    rw [log_failed]
    cases fails with
    | unwritten frameless => exact ⟨.missing (hframed before), hread before⟩
    | stopped framed touched =>
      obtain ⟨⟨n, hwritten⟩, octets, hconsumed, hmeasured⟩ := touched
      refine ⟨?_, octets, by rw [hconsumed, before.kept.2], hmeasured⟩
      rw [hwritten]
      exact .cut (hframed before) framed n

namespace Client

theorem readAnswer_eq_ok {α : Type} {api : Api} {id : Int32} {read : Reader α} {answer : Bytes}
    {a : α} (h : readAnswer api id read answer = .ok a) :
    ∃ body rest, readInt32 answer = .ok (id, body) ∧ read body = .ok (a, rest) := by
  simp only [readAnswer] at h
  split at h
  · cases h
  · rename_i got body hhead
    split at h
    · cases h
    · rename_i hid
      split at h
      · cases h
      · rename_i a' rest hbody
        cases h
        exact ⟨body, rest, by rw [hhead, Decidable.not_not.mp hid], hbody⟩

/-- The client after requests that left their connection so. -/
def after (c : Client) (i : Nat) (asked : List Asked) (x : Connection) : Client :=
  { c with
    connections := c.connections.set i x
    nextId := c.nextId + Int32.ofNat asked.length
    asked := c.asked ++ asked }

theorem after_after (c : Client) (i : Nat) (as bs : List Asked) (x y : Connection) :
    (c.after i as x).after i bs y = c.after i (as ++ bs) y := by
  simp [after, Int32.ofNat_add, Int32.add_assoc, List.append_assoc]

section

variable {α : Type} (c : Client) {i : Nat} {x : Connection} (here : c.connections[i]? = some x)
  (r : Request) (read : Reader α)

include here

theorem takeId_eq : c.takeId i r = (c.nextId, c.after i [⟨i, c.nextId, r⟩] x) := by
  obtain ⟨hi, rfl⟩ := List.getElem?_eq_some_iff.mp here
  simp only [takeId, after, List.set_getElem_self]
  rfl

/-- A request that has a frame is an exchange, and its answer is read. -/
theorem roundTrip_eq {frame : Bytes} (framed : r.frame c.nextId c.settings.clientId = .ok frame) :
    c.roundTrip i r read =
      (match (x.exchange frame c.settings.maxResponseBytes).1 with
        | .error e => .error (c.exchangeFailure r.api
            (x.exchange frame c.settings.maxResponseBytes).2.address e)
        | .ok answer => readAnswer r.api c.nextId read answer,
        c.after i [⟨i, c.nextId, r⟩] (x.exchange frame c.settings.maxResponseBytes).2) := by
  have hhere : (c.takeId i r).2.connections[i]? = some x := here
  have hframed : r.frame (c.takeId i r).1 (c.takeId i r).2.settings.clientId = .ok frame := framed
  have hlimit : (c.takeId i r).2.settings.maxResponseBytes = c.settings.maxResponseBytes := rfl
  simp only [roundTrip, hhere, hframed, hlimit]
  obtain ⟨_ | _, x'⟩ := x.exchange frame c.settings.maxResponseBytes <;> rfl

/-- A request on a connection is answered as it should be, or it fails. -/
theorem roundTrip_cases :
    (∃ v answer x', c.roundTrip i r read = (.ok v, c.after i [⟨i, c.nextId, r⟩] x') ∧
      Exchange.Passes ⟨⟨i, c.nextId, r⟩, answer⟩ c.settings x x' ∧
      Exchange.Tells ⟨⟨i, c.nextId, r⟩, answer⟩ read v) ∨
    ∃ f x', c.roundTrip i r read = (.error f, c.after i [⟨i, c.nextId, r⟩] x') ∧
      Asked.Fails ⟨i, c.nextId, r⟩ c.settings x x' := by
  cases hframe : r.frame c.nextId c.settings.clientId with
  | error f =>
    refine .inr ⟨f, x, ?_, .unwritten hframe⟩
    have hframed : r.frame (c.takeId i r).1 (c.takeId i r).2.settings.clientId = .error f := hframe
    simp only [roundTrip, hframed]
    rw [c.takeId_eq here]
  | ok frame =>
    rw [c.roundTrip_eq here r read hframe]
    obtain ⟨answer, x', hx, hwithin, exchanged, touched⟩ | ⟨fault, x', hx, touched⟩ :=
      x.exchange_cases frame c.settings.maxResponseBytes
    · rw [hx]
      cases hanswer : readAnswer r.api c.nextId read answer with
      | error f => exact .inr ⟨f, x', by simp only [hanswer], .stopped hframe touched⟩
      | ok v =>
        obtain ⟨body, rest, hid, hbody⟩ := readAnswer_eq_ok hanswer
        exact .inl ⟨v, answer, x', by simp only [hanswer],
          ⟨⟨frame, hframe, exchanged⟩, hwithin, body, hid⟩, body, rest, hid, hbody⟩
    · rw [hx]
      exact .inr ⟨_, x', rfl, .stopped hframe touched⟩

end

/-- From one client to another by requests on a connection, of which all were answered, or all but
the last. -/
structure Talk (i : Nat) (c : Client) (es : List Exchange) (failed : Option Asked) (c' : Client) :
    Prop where
  course : ∃ x x', c.connections[i]? = some x ∧ Course c.settings x es failed x' ∧
    c' = c.after i (log es failed) x'
  numbered : Numbered c.nextId (log es failed)
  there : ∀ a ∈ log es failed, a.connection = i

theorem Talk.silence {c : Client} {i : Nat} {x : Connection} (here : c.connections[i]? = some x) :
    Talk i c [] none c where
  course := by
    refine ⟨x, x, here, .silence, ?_⟩
    obtain ⟨hi, rfl⟩ := List.getElem?_eq_some_iff.mp here
    simp [after, log]
  numbered := rfl
  there := by simp [log]

section

variable {i : Nat} {c : Client} {r : Request} {x x' : Connection}
  (here : c.connections[i]? = some x)

include here

theorem Talk.answered {answer : Bytes}
    (passes : Exchange.Passes ⟨⟨i, c.nextId, r⟩, answer⟩ c.settings x x') :
    Talk i c [⟨⟨i, c.nextId, r⟩, answer⟩] none (c.after i [⟨i, c.nextId, r⟩] x') :=
  ⟨⟨x, x', here, .answered .silence passes, rfl⟩, by simp [Numbered, log], by simp [log]⟩

theorem Talk.failed (fails : Asked.Fails ⟨i, c.nextId, r⟩ c.settings x x') :
    Talk i c [] (some ⟨i, c.nextId, r⟩) (c.after i [⟨i, c.nextId, r⟩] x') :=
  ⟨⟨x, x', here, .failed .silence fails, rfl⟩, by simp [Numbered, log], by simp [log]⟩

end

/-- A request after others on the connection is answered as it should be, or it fails. -/
theorem Talk.roundTrip {α : Type} {i : Nat} {c c' : Client} {es : List Exchange}
    (h : Talk i c es none c') (r : Request) (read : Reader α) :
    (∃ v e c'', c'.roundTrip i r read = (.ok v, c'') ∧ Talk i c (es ++ [e]) none c'' ∧
      e.asked.request = r ∧ e.Tells read v) ∨
    ∃ f a c'', c'.roundTrip i r read = (.error f, c'') ∧ Talk i c es (some a) c'' ∧
      a.request = r := by
  obtain ⟨⟨x, x', here, course, rfl⟩, numbered, there⟩ := h
  have hhere : (c.after i (log es none) x').connections[i]? = some x' := by
    obtain ⟨hi, -⟩ := List.getElem?_eq_some_iff.mp here
    simp [after, hi]
  have hnumbered : Numbered c.nextId
      (log es none ++ [⟨i, (c.after i (log es none) x').nextId, r⟩]) :=
    numbered.append (by simp [Numbered, after])
  have hthere : ∀ a ∈ log es none ++ [⟨i, (c.after i (log es none) x').nextId, r⟩],
      a.connection = i := by
    simpa [or_imp, forall_and] using there
  obtain ⟨v, answer, x'', hr, passes, tells⟩ | ⟨f, x'', hr, fails⟩ :=
    (c.after i (log es none) x').roundTrip_cases hhere r read
  · rw [after_after] at hr
    refine .inl ⟨v, _, _, hr, ⟨⟨x, x'', here, .answered course passes, ?_⟩, ?_, ?_⟩, rfl, tells⟩
    all_goals rw [log_answered]
    exacts [hnumbered, hthere]
  · rw [after_after] at hr
    refine .inr ⟨f, _, _, hr, ⟨⟨x, x'', here, .failed course fails, ?_⟩, ?_, ?_⟩, rfl⟩
    all_goals rw [log_failed]
    exacts [hnumbered, hthere]

end Client

end ClusterAdmin.Wire
