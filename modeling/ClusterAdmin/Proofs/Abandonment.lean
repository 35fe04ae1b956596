import ClusterAdmin.Proofs.Sessions
import ClusterAdmin.Proofs.Synchrony

namespace ClusterAdmin.Wire

namespace Connection

/-- Less of a frame than its length, or less than the length and what it announces, or a length that
announces nothing. -/
def Partial (limit : Nat) (octets : Bytes) : Prop :=
  octets.length < 4 ∨ 0 ≤ sizeOf (octets.take 4) ∧ (sizeOf (octets.take 4)).toNat ≤ limit ∧
    octets.length ≤ 4 + ((sizeOf (octets.take 4)).toNat - 1)

/-- The only frame that is no more than that is the empty one. -/
theorem Partial.eq_nil {limit : Nat} {answer : Bytes} (h : Partial limit (writeOctets answer)) :
    answer = [] := by
  have hlength : (writeOctets answer).length = 4 + answer.length := by
    simp [writeOctets, writeInt32]
  have htake : (writeOctets answer).take 4 = writeInt32 (Int32.ofNat answer.length) :=
    List.take_left' rfl
  obtain hfew | ⟨-, -, hpart⟩ := h
  · omega
  · rw [htake, sizeOf_writeInt32, hlength] at hpart
    by_contra hne
    have hpos : 0 < answer.length := List.length_pos_iff.mpr hne
    have hsize := Int32.toInt_lt (Int32.ofNat answer.length)
    rw [Int32.toInt_ofNat_of_lt (by omega)] at hpart
    omega

/-- One more frame or part of it was written, and so much was read. -/
structure Adds (x : Connection) (sent read : Bytes) (x' : Connection) : Prop where
  written : x'.written = x.written ++ [sent]
  consumed : x'.consumed = x.consumed ++ read

theorem adds_put (x : Connection) (sent : Bytes) : x.Adds sent [] (x.put sent) :=
  ⟨x.written_put sent, by rw [consumed_put, List.append_nil]⟩

section

variable {x x' : Connection} {sent octets : Bytes}

theorem Adds.skim (h : x.Adds sent octets x') (n : Nat) :
    x.Adds sent (octets ++ x'.unread.take n) (x'.skim n) :=
  ⟨h.written, by rw [Connection.skim, h.consumed, List.append_assoc]⟩

theorem Adds.read {n : Nat} {atEnd : ExchangeFault} {more : Bytes} {x'' : Connection}
    (h : x.Adds sent octets x') (hr : x'.read n atEnd = (.ok more, x'')) :
    x.Adds sent (octets ++ more) x'' ∧ more.length = n := by
  have hwritten := x'.written_read n atEnd
  obtain ⟨more', y, hr', hlength, hconsumed⟩ | ⟨fault, more', y, hr', -⟩ :=
    x'.read_cases n atEnd
  all_goals
    rw [hr] at hr' hwritten
    cases hr'
  exact ⟨⟨hwritten.trans h.written, by rw [hconsumed, h.consumed, List.append_assoc]⟩, hlength⟩

end

end Connection

/-- What became of a request: so much of it was sent, and so much was read after that. -/
structure Tale where
  asked : Asked
  sent : Bytes
  read : Bytes
  /-- Its caller went away before it was answered. -/
  left : Bool

namespace Tale

variable {settings : NativeConfig} {t : Tale}

/-- All of the request was sent, and a frame was read that answers it, no more and no less. -/
def Whole (settings : NativeConfig) (t : Tale) : Prop :=
  t.asked.frame settings = .ok t.sent ∧ ∃ answer body, t.read = writeOctets answer ∧
    answer.length ≤ settings.maxResponseBytes ∧ readInt32 answer = .ok (t.asked.id, body)

/-- Some of the request may have been sent, and not all of an answer was read. -/
structure Short (settings : NativeConfig) (t : Tale) : Prop where
  begun : ∃ frame, t.asked.frame settings = .ok frame ∧ t.sent <+: frame
  part : Connection.Partial settings.maxResponseBytes t.read

/-- Requests that were given up were cut short, and the others were not. -/
def Told (settings : NativeConfig) (t : Tale) : Prop :=
  if t.left then t.Short settings else t.Whole settings

theorem Short.not_whole (h : t.Short settings) : ¬t.Whole settings := by
  rintro ⟨-, answer, body, hread, -, hid⟩
  have hnil : answer = [] := Connection.Partial.eq_nil (hread ▸ h.part)
  rw [hnil] at hid
  cases hid

theorem Told.whole_iff (h : t.Told settings) : t.Whole settings ↔ t.left = false := by
  cases hleft : t.left with
  | true =>
    rw [Told, if_pos hleft] at h
    exact iff_of_false h.not_whole (by decide)
  | false =>
    rw [Told, hleft] at h
    exact iff_of_true h rfl

end Tale

/-- All that went over a connection came from those requests, one after another. -/
structure Covers (asked : List Asked) (x : Connection) (tales : List Tale) : Prop where
  asked : tales.map (·.asked) = asked
  written : x.written = tales.map (·.sent)
  consumed : x.consumed = tales.flatMap (·.read)

/-- And some of them were given up, which were cut short. The others came through. -/
structure Recounts (settings : NativeConfig) (asked gone : List Asked) (x : Connection)
    (tales : List Tale) : Prop extends Covers asked x tales where
  gone : (tales.filter (·.left)).map (·.asked) = gone
  told : ∀ t ∈ tales, t.Told settings

section

variable {settings : NativeConfig} {asked gone : List Asked} {x x' : Connection}
  {tales : List Tale}

theorem Recounts.append (h : Recounts settings asked gone x tales) {t : Tale} {gone' : List Asked}
    (adds : x.Adds t.sent t.read x') (told : t.Told settings)
    (left : gone' = gone ++ if t.left then [t.asked] else []) :
    Recounts settings (asked ++ [t.asked]) gone' x' (tales ++ [t]) where
  asked := by simp [h.asked]
  written := by simp [adds.written, h.written]
  consumed := by simp [adds.consumed, h.consumed]
  gone := by
    rw [left, List.filter_append, List.map_append, h.gone, List.filter_singleton]
    cases t.left <;> rfl
  told u hu := by
    rcases List.mem_append.mp hu with hu | hu
    · exact h.told u hu
    · cases List.mem_singleton.mp hu
      exact told

/-- A request was answered by the next frame. -/
theorem Recounts.answered (h : Recounts settings asked gone x tales) {a : Asked}
    {frame answer body : Bytes} (framed : a.frame settings = .ok frame)
    (adds : x.Adds frame (writeOctets answer) x')
    (within : answer.length ≤ settings.maxResponseBytes)
    (id : readInt32 answer = .ok (a.id, body)) :
    Recounts settings (asked ++ [a]) gone x'
      (tales ++ [⟨a, frame, writeOctets answer, false⟩]) :=
  h.append (t := ⟨a, frame, writeOctets answer, false⟩) adds
    ⟨framed, answer, body, rfl, within, id⟩ (by simp)

/-- A request was given up. -/
theorem Recounts.abandoned (h : Recounts settings asked gone x tales) {t : Tale}
    (left : t.left = true) (short : t.Short settings) (adds : x.Adds t.sent t.read x') :
    Recounts settings (asked ++ [t.asked]) (gone ++ [t.asked]) x' (tales ++ [t]) :=
  h.append adds (by rwa [Tale.Told, if_pos left]) (by rw [if_pos left])

/-- All requests came through exactly if none was given up. -/
theorem Recounts.whole_iff (h : Recounts settings asked gone x tales) :
    (∀ t ∈ tales, t.Whole settings) ↔ gone = [] := by
  rw [← h.gone, List.map_eq_nil_iff, List.filter_eq_nil_iff]
  refine forall₂_congr fun t ht => ?_
  rw [(h.told t ht).whole_iff, Bool.not_eq_true]

end

/-- What exchanges on a new connection come to if all of them were answered. -/
theorem Course.recounts {settings : NativeConfig} {address : String} {peer : Peer}
    {es : List Exchange} {x : Connection} (h : Course settings (.make address peer) es none x) :
    ∃ tales, Recounts settings (es.map (·.asked)) [] x tales := by
  generalize hfailed : (none : Option Asked) = failed at h
  induction h with
  | silence => exact ⟨[], ⟨rfl, rfl, rfl⟩, rfl, by simp⟩
  | answered _ passes ih =>
    obtain ⟨tales, recounts⟩ := ih rfl
    obtain ⟨⟨frame, framed, exchanged⟩, within, body, id⟩ := passes
    rw [List.map_append]
    exact ⟨_, recounts.answered framed ⟨exchanged.written, exchanged.consumed⟩ within id⟩
  | failed => cases hfailed

/-- How far a request has come that has the connection, which was as given before. -/
inductive Underway (settings : NativeConfig) (a : Asked) (x : Connection) :
    Stage → Connection → Prop
  | writing {frame : Bytes} (framed : a.frame settings = .ok frame) :
    Underway settings a x (.writing frame) x
  | readingSize {frame : Bytes} {x' : Connection} (framed : a.frame settings = .ok frame)
      (adds : x.Adds frame [] x') : Underway settings a x .readingSize x'
  | readingBody {frame head : Bytes} {x' : Connection} (framed : a.frame settings = .ok frame)
      (adds : x.Adds frame head x') (four : head.length = 4)
      (announced : 0 ≤ Connection.sizeOf head)
      (within : (Connection.sizeOf head).toNat ≤ settings.maxResponseBytes) :
    Underway settings a x (.readingBody (Connection.sizeOf head).toNat) x'

namespace Underway

variable {settings : NativeConfig} {a : Asked} {x x' x'' : Connection}

/-- Whenever its caller goes away, a request is cut short. -/
theorem abandoned {stage : Stage} (h : Underway settings a x stage x') (n : Nat) :
    ∃ t : Tale, t.asked = a ∧ t.left = true ∧ t.Short settings ∧
      x.Adds t.sent t.read (x'.abandoned n stage) := by
  cases h with
  | @writing frame framed =>
    exact ⟨⟨a, frame.take n, [], true⟩, rfl, rfl,
      ⟨⟨frame, framed, List.take_prefix n frame⟩, .inl (Nat.zero_lt_succ 3)⟩, x.adds_put _⟩
  | @readingSize frame x' framed adds =>
    refine ⟨⟨a, frame, x'.unread.take (min n 3), true⟩, rfl, rfl,
      ⟨⟨frame, framed, List.prefix_rfl⟩, .inl ?_⟩, adds.skim (min n 3)⟩
    have hfew := List.length_take_le (min n 3) x'.unread
    show (x'.unread.take (min n 3)).length < 4
    omega
  | @readingBody frame head x' framed adds four announced within =>
    have htake (more : Bytes) : (head ++ more).take 4 = head := List.take_left' four
    let size := (Connection.sizeOf head).toNat
    refine ⟨⟨a, frame, head ++ x'.unread.take (min n (size - 1)), true⟩, rfl, rfl,
      ⟨⟨frame, framed, List.prefix_rfl⟩, .inr ?_⟩, adds.skim (min n (size - 1))⟩
    have hfew := List.length_take_le (min n (size - 1)) x'.unread
    simp only [htake, List.length_append, four]
    refine ⟨announced, within, ?_⟩
    omega

theorem write {frame : Bytes} (h : Underway settings a x (.writing frame) x')
    (hw : x'.write frame = (.ok (), x'')) : Underway settings a x .readingSize x'' := by
  cases h with
  | writing framed =>
    rw [Connection.eq_put_of_write hw]
    exact .readingSize framed (x.adds_put frame)

theorem announce {head : Bytes} (h : Underway settings a x .readingSize x')
    (hr : x'.read 4 .ended = (.ok head, x''))
    (hsize : ¬(Connection.sizeOf head < 0 ∨
      settings.maxResponseBytes < (Connection.sizeOf head).toNat)) :
    Underway settings a x (.readingBody (Connection.sizeOf head).toNat) x'' := by
  cases h with
  | readingSize framed adds =>
    obtain ⟨hadds, four⟩ := adds.read hr
    obtain ⟨announced, within⟩ := not_or.mp hsize
    exact .readingBody framed hadds four (Int.not_lt.mp announced) (Nat.not_lt.mp within)

/-- An answer that was read is the next frame, and within the limit. -/
theorem answered {size : Nat} {answer : Bytes} (h : Underway settings a x (.readingBody size) x')
    (hr : x'.read size .endedWithin = (.ok answer, x'')) :
    ∃ frame, a.frame settings = .ok frame ∧ x.Adds frame (writeOctets answer) x'' ∧
      answer.length ≤ settings.maxResponseBytes := by
  cases h with
  | @readingBody frame head x' framed adds four announced within =>
    obtain ⟨hadds, hlength⟩ := adds.read hr
    have hframe : writeOctets answer = head ++ answer := by
      rw [writeOctets, hlength, writeInt32_sizeOf four announced]
    exact ⟨frame, framed, hframe ▸ hadds, hlength ▸ within⟩

end Underway

namespace Client

theorem Ordered.takeId {c : Client} (h : Ordered c) {i : Nat} (hi : i < c.connections.length)
    (r : Request) : Ordered (c.takeId i r).2 where
  numbered := h.numbered.append (by simp [Numbered, h.next])
  next := by
    simp only [Client.takeId, List.length_append, List.length_singleton, Int32.ofNat_add, h.next]
    rfl
  made a ha := by
    rcases List.mem_append.mp ha with ha | ha
    · exact h.made a ha
    · cases List.mem_singleton.mp ha
      exact hi

theorem length_setConnection (c : Client) (i : Nat) (x : Connection) :
    (c.setConnection i x).connections.length = c.connections.length :=
  List.length_set

theorem Ordered.setConnection {c : Client} (h : Ordered c) (i : Nat) (x : Connection) :
    Ordered (c.setConnection i x) where
  numbered := h.numbered
  next := h.next
  made a ha := by
    rw [length_setConnection]
    exact h.made a ha

theorem askedOn_takeId (c : Client) (i : Nat) (r : Request) :
    (c.takeId i r).2.askedOn i = c.askedOn i ++ [⟨i, c.nextId, r⟩] :=
  askedOn_append c (by simp)

/-- What trying servers comes to, however connections stand that were there before: a new one on
which all was answered, or none. -/
structure Reaches (c : Client) (r : Except Failure Nat) (c' : Client) : Prop where
  ordered : Ordered c'
  settings : c'.settings = c.settings
  current : c'.current = c.current
  longer : c.connections.length ≤ c'.connections.length
  opened : ∀ i, r = .ok i → c.connections.length ≤ i ∧ ∃ es, c'.Held i es none

theorem Ordered.reaches_nothing {c : Client} (h : Ordered c) (f : Failure) :
    Reaches c (.error f) c :=
  ⟨h, rfl, rfl, Nat.le_refl _, nofun⟩

theorem Reaches.trans {c c' c'' : Client} {r r' : Except Failure Nat} (h : Reaches c r c')
    (h' : Reaches c' r' c'') : Reaches c r' c'' where
  ordered := h'.ordered
  settings := h'.settings.trans h.settings
  current := h'.current.trans h.current
  longer := Nat.le_trans h.longer h'.longer
  opened i hr := ⟨Nat.le_trans h.longer (h'.opened i hr).1, (h'.opened i hr).2⟩

theorem Reaches.dialed {c c' : Client} {address : String} {r : Except Failure Nat}
    (h : Reaches (c.dialing address) r c') : Reaches c r c' :=
  ⟨h.ordered, h.settings, h.current, h.longer, h.opened⟩

/-- Requests on a new connection. -/
theorem Ordered.reaches {c c' : Client} (h : Ordered c) {address : String} {peer : Peer}
    {es : List Exchange} {failed : Option Asked} {r : Except Failure Nat}
    (talk : Talk c.connections.length (c.joined address peer) es failed c')
    (opened : ∀ i, r = .ok i → i = c.connections.length ∧ failed = none) : Reaches c r c' := by
  have hordered := (h.joined address peer).talk talk
  have hheld := talk.held (h.held_joined address peer)
  obtain ⟨⟨x, x', -, -, rfl⟩, -, -⟩ := talk
  refine ⟨hordered, rfl, rfl, ?_, fun i hi => ?_⟩
  · simp [after, Client.joined]
  · obtain ⟨rfl, rfl⟩ := opened i hi
    exact ⟨Nat.le_refl _, _, hheld⟩

theorem Ordered.openBroker {c : Client} (h : Ordered c) (address : String) :
    Reaches c (c.openBroker address).1 (c.openBroker address).2 := by
  have hdialing : Ordered (c.dialing address) := ⟨h.numbered, h.next, h.made⟩
  refine Reaches.dialed (?_ : Reaches (c.dialing address) _ _)
  have approach := c.openBroker_cases address
  generalize c.openBroker address = tried at approach ⊢
  obtain ⟨r, c'⟩ := tried
  dsimp only at approach ⊢
  cases approach with
  | unreached dialed => exact hdialing.reaches_nothing _
  | admitted dialed talk admits =>
    exact hdialing.reaches talk fun i hi => ⟨by cases hi; rfl, rfl⟩
  | refused dialed sasl failed tries login =>
    obtain ⟨es, failed, talk, -⟩ := tries
    exact hdialing.reaches talk fun i hi => by cases hi

theorem Ordered.openAny {c : Client} (h : Ordered c) (addresses : List String) (last : Failure) :
    Reaches c (c.openAny addresses last).1 (c.openAny addresses last).2 := by
  induction addresses generalizing c last with
  | nil => exact h.reaches_nothing last
  | cons address rest ih =>
    have hreaches := h.openBroker address
    simp only [Client.openAny]
    cases hr : c.openBroker address with
    | mk r c' =>
      rw [hr] at hreaches
      cases r with
      | ok i => exact hreaches
      | error f =>
        by_cases hauth : f.isAuth = true
        · simp only [if_pos hauth]
          exact hreaches
        · simp only [if_neg hauth]
          exact hreaches.trans (ih hreaches.ordered f)

end Client

namespace Session

/-- The requests on a connection whose callers went away. -/
def givenUpOn (s : Session) (i : Nat) : List Asked := s.givenUp.filter (·.connection = i)

/-- No request is underway on a connection, and this is what became of all that were made on it. -/
structure Rests (settings : NativeConfig) (s : Session) (i : Nat) (x : Connection)
    (tales : List Tale) : Prop where
  here : s.client.connections[i]? = some x
  recounts : Recounts settings (s.client.askedOn i) (s.givenUpOn i) x tales

/-- A request is underway on its connection, and this is what became of those before it. -/
structure Waits (settings : NativeConfig) (s : Session) (p : Pending) (x x' : Connection)
    (earlier : List Asked) (tales : List Tale) : Prop where
  here : s.client.connections[p.asked.connection]? = some x'
  asked : s.client.askedOn p.asked.connection = earlier ++ [p.asked]
  recounts : Recounts settings earlier (s.givenUpOn p.asked.connection) x tales
  underway : Underway settings p.asked x p.stage x'

/-- How a session stands after any steps. -/
structure Orderly (settings : NativeConfig) (s : Session) : Prop where
  configured : s.client.settings = settings
  ordered : s.client.Ordered
  gone : ∀ a ∈ s.givenUp, a.connection < s.client.connections.length
  rests : s.pending = none → ∀ i, s.client.current = some i →
    ∃ x tales, s.Rests settings i x tales
  waits : ∀ p, s.pending = some p → s.client.current = some p.asked.connection ∧
    ∃ x x' earlier tales, s.Waits settings p x x' earlier tales

section

variable {settings : NativeConfig} {s : Session}

/-- Nothing else of a session matters to it. -/
theorem Orderly.congr {s' : Session} (h : Orderly settings s)
    (client : s'.client =
      { s.client with connected := s'.client.connected, closed := s'.client.closed })
    (pending : s'.pending = s.pending) (givenUp : s'.givenUp = s.givenUp) :
    Orderly settings s' := by
  obtain ⟨c, ws, pending, rs, gs⟩ := s'
  dsimp only at *
  rw [client]
  cases pending
  cases givenUp
  refine ⟨h.configured, ⟨h.ordered.numbered, h.ordered.next, h.ordered.made⟩, h.gone, ?_, ?_⟩
  · intro idle i hi
    obtain ⟨x, tales, rests⟩ := h.rests idle i hi
    exact ⟨x, tales, rests.here, rests.recounts⟩
  · intro p hp
    obtain ⟨hi, x, x', earlier, tales, waits⟩ := h.waits p hp
    exact ⟨hi, x, x', earlier, tales, waits.here, waits.asked, waits.recounts, waits.underway⟩

theorem Orderly.answer (h : Orderly settings s) (k : Call) (r : Except Failure Value) :
    Orderly settings (s.answer k r) :=
  h.congr rfl rfl rfl

/-- Without a connection there is nothing to keep in order. -/
theorem orderly_of_none (configured : s.client.settings = settings) (ordered : s.client.Ordered)
    (gone : ∀ a ∈ s.givenUp, a.connection < s.client.connections.length)
    (idle : s.pending = none) (down : s.client.current = none) : Orderly settings s where
  configured := configured
  ordered := ordered
  gone := gone
  rests _ i hi := by cases down.symm.trans hi
  waits p hp := by cases idle.symm.trans hp

theorem orderly_dropped {c : Client} (ordered : c.Ordered) (configured : c.settings = settings)
    (gone : ∀ a ∈ s.givenUp, a.connection < c.connections.length) (idle : s.pending = none) :
    Orderly settings { s with client := c.dropped } :=
  orderly_of_none configured ⟨ordered.numbered, ordered.next, ordered.made⟩ gone idle rfl

theorem Orderly.arrive (h : Orderly settings s) (k : Call) : Orderly settings (s.arrive k) := by
  simp only [Session.arrive]
  split
  · exact h.congr rfl rfl rfl
  · split
    · exact h.answer k _
    · exact h.congr rfl rfl rfl

/-- On a new connection there are the whole exchanges of a login, or nothing. -/
theorem orderly_renewed (configured : s.client.settings = settings) (ordered : s.client.Ordered)
    (gone : ∀ a ∈ s.givenUp, a.connection < s.client.connections.length)
    (idle : s.pending = none) : Orderly settings { s with client := s.client.renewed.2 } := by
  have hdropped : s.client.dropped.Ordered := ⟨ordered.numbered, ordered.next, ordered.made⟩
  have hreaches := hdropped.openAny s.client.target.servers Client.noServersFailure
  simp only [Client.renewed]
  cases hr : s.client.dropped.openAny s.client.target.servers Client.noServersFailure with
  | mk r c =>
    rw [hr] at hreaches
    have hconfigured : c.settings = settings := hreaches.settings.trans configured
    have hgone (a : Asked) (ha : a ∈ s.givenUp) : a.connection < c.connections.length :=
      Nat.lt_of_lt_of_le (gone a ha) hreaches.longer
    cases r with
    | error f => exact orderly_of_none hconfigured hreaches.ordered hgone idle hreaches.current
    | ok i =>
      obtain ⟨hnew, es, ⟨address, peer, x, hx, course⟩, asked⟩ := hreaches.opened i rfl
      obtain ⟨tales, recounts⟩ := course.recounts
      have hfresh : s.givenUpOn i = [] := by
        refine List.filter_eq_nil_iff.mpr fun a ha => ?_
        have hbefore : a.connection < i := Nat.lt_of_lt_of_le (gone a ha) hnew
        simpa using Nat.ne_of_lt hbefore
      refine ⟨hconfigured, ⟨hreaches.ordered.numbered, hreaches.ordered.next,
        hreaches.ordered.made⟩, hgone, ?_, fun p hp => by cases idle.symm.trans hp⟩
      rintro - j ⟨⟩
      refine ⟨x, tales, hx, ?_⟩
      have hasked : c.askedOn i = es.map (·.asked) := by simpa [log] using asked
      rw [hconfigured] at recounts
      exact hasked.symm ▸ hfresh.symm ▸ recounts

/-- A request starts to be written where nothing else is underway. -/
theorem Orderly.ask (h : Orderly settings s) (idle : s.pending = none) (k : Call) (r : Request) :
    Orderly settings (s.ask k r) := by
  simp only [Session.ask]
  cases hi : s.client.current with
  | none => exact h.answer k _
  | some i =>
    obtain ⟨x, tales, rests⟩ := h.rests idle i hi
    have hordered := h.ordered.takeId (List.getElem?_eq_some_iff.mp rests.here).1 r
    dsimp only
    cases hframe : r.frame (s.client.takeId i r).1 (s.client.takeId i r).2.settings.clientId with
    | error f => exact (orderly_dropped hordered h.configured h.gone idle).answer k _
    | ok frame =>
      refine ⟨h.configured, hordered, h.gone, (fun hp => by cases hp), ?_⟩
      rintro p ⟨⟩
      have hframed : Asked.frame ⟨i, s.client.nextId, r⟩ settings = .ok frame :=
        h.configured ▸ hframe
      exact ⟨hi, x, x, s.client.askedOn i, tales, rests.here, s.client.askedOn_takeId i r,
        rests.recounts, .writing hframed⟩

theorem Orderly.serve (h : Orderly settings s) (idle : s.pending = none) (k : Call) :
    Orderly settings (s.serve k) := by
  simp only [Session.serve]
  split
  · exact h.ask idle k _
  · split
    · exact (orderly_dropped h.ordered h.configured h.gone idle).answer k _
    · exact (orderly_renewed h.configured h.ordered h.gone idle).answer k _

theorem Orderly.take (h : Orderly settings s) : Orderly settings s.take := by
  simp only [Session.take]
  split
  · rename_i k ks idle _
    have hfirst : Orderly settings { s with waiting := ks } := h.congr rfl rfl rfl
    exact hfirst.serve idle k
  · exact h

section

variable {p : Pending} {x x' y : Connection} {earlier : List Asked} {tales : List Tale}

theorem Orderly.gone_setConnection (h : Orderly settings s) (i : Nat) (y : Connection) :
    ∀ a ∈ s.givenUp, a.connection < (s.client.setConnection i y).connections.length := by
  rw [Client.length_setConnection]
  exact h.gone

theorem Orderly.fail (h : Orderly settings s) (p : Pending) (y : Connection) (f : Failure) :
    Orderly settings (s.fail p (s.client.setConnection p.asked.connection y) f) := by
  have hdropped := orderly_dropped (s := { s with pending := none })
    (h.ordered.setConnection p.asked.connection y) h.configured (h.gone_setConnection _ y) rfl
  exact hdropped.answer p.call (.error f)

theorem Orderly.wait (h : Orderly settings s) (hp : s.pending = some p)
    (waits : s.Waits settings p x x' earlier tales) {stage : Stage}
    (underway : Underway settings p.asked x stage y) : Orderly settings (s.wait p y stage) := by
  refine ⟨h.configured, h.ordered.setConnection _ y, h.gone_setConnection _ y,
    (fun idle => by cases idle), ?_⟩
  rintro q ⟨⟩
  exact ⟨(h.waits p hp).1, x, y, earlier, tales, Client.getElem?_setConnection waits.here y,
    waits.asked, waits.recounts, underway⟩

/-- An exchange that went wrong costs the connection. One that did not is whole, if its answer is to
the request that was made. -/
theorem Orderly.finish (h : Orderly settings s) (hp : s.pending = some p)
    (waits : s.Waits settings p x x' earlier tales) {r : Except ExchangeFault Bytes × Connection}
    (answered : ∀ answer y, r = (.ok answer, y) → ∃ frame, p.asked.frame settings = .ok frame ∧
      x.Adds frame (writeOctets answer) y ∧ answer.length ≤ settings.maxResponseBytes) :
    Orderly settings (s.finish p r) := by
  obtain ⟨_ | answer, y⟩ := r
  · exact h.fail p y _
  · simp only [Session.finish]
    cases hanswer : Client.readAnswer p.asked.request.api p.asked.id p.call.reader answer with
    | error f => exact h.fail p y f
    | ok v =>
      obtain ⟨frame, framed, adds, within⟩ := answered answer y rfl
      obtain ⟨body, rest, hid, -⟩ := Client.readAnswer_eq_ok hanswer
      have hrecounts := waits.recounts.answered framed adds within hid
      refine ⟨h.configured, h.ordered.setConnection _ y, h.gone_setConnection _ y, ?_,
        fun q hq => by cases hq⟩
      rintro - i hi
      cases (h.waits p hp).1.symm.trans hi
      rw [← waits.asked] at hrecounts
      exact ⟨y, _, Client.getElem?_setConnection waits.here y, hrecounts⟩

end

theorem Orderly.goOn (h : Orderly settings s) : Orderly settings s.goOn := by
  cases hp : s.pending with
  | none => exact (goOn_of_idle hp).symm ▸ h
  | some p =>
    obtain ⟨-, x, x', earlier, tales, waits⟩ := h.waits p hp
    have underway := waits.underway
    rw [goOn_eq hp waits.here]
    simp only [Session.proceed]
    cases hstage : p.stage with
    | writing frame =>
      rw [hstage] at underway
      dsimp only
      cases hw : x'.write frame with
      | mk r y =>
        cases r with
        | error e => exact h.fail p y _
        | ok => exact h.wait hp waits (underway.write hw)
    | readingSize =>
      rw [hstage] at underway
      cases hr : x'.read 4 .ended with
      | mk r y =>
        cases r with
        | error e => exact h.fail p y _
        | ok head =>
          dsimp only
          rw [h.configured]
          split
          · exact h.fail p y _
          · rename_i hsize
            exact h.wait hp waits (underway.announce hr hsize)
    | readingBody size =>
      rw [hstage] at underway
      exact h.finish hp waits fun answer y hr => underway.answered hr

theorem Orderly.abandon (h : Orderly settings s) (n : Nat) : Orderly settings (s.abandon n) := by
  simp only [Session.abandon]
  cases hp : s.pending with
  | none => exact h
  | some p =>
    obtain ⟨hcurrent, x, x', earlier, tales, waits⟩ := h.waits p hp
    obtain ⟨t, htasked, hleft, short, adds⟩ := waits.underway.abandoned n
    have hrecounts := waits.recounts.abandoned hleft short adds
    rw [htasked, ← waits.asked] at hrecounts
    simp only [waits.here, Option.map_some, Option.getD_some]
    refine ⟨h.configured, h.ordered.setConnection _ _, fun a ha => ?_, ?_,
      fun q hq => by cases hq⟩
    · rcases List.mem_append.mp ha with ha | ha
      · exact h.gone_setConnection _ _ a ha
      · cases List.mem_singleton.mp ha
        rw [Client.length_setConnection]
        exact (List.getElem?_eq_some_iff.mp waits.here).1
    · rintro - i hi
      cases hcurrent.symm.trans hi
      refine ⟨_, tales ++ [t], Client.getElem?_setConnection waits.here _, ?_⟩
      have hgone : (s.givenUp ++ [p.asked]).filter (·.connection = p.asked.connection) =
          s.givenUpOn p.asked.connection ++ [p.asked] := by simp [givenUpOn]
      rw [givenUpOn, hgone]
      exact hrecounts

theorem Orderly.falter (h : Orderly settings s) (network : Network) :
    Orderly settings (s.falter network) := by
  simp only [Session.falter]
  split
  · rename_i ks idle _
    have hordered : ({ s.client.dropped with network } : Client).Ordered :=
      ⟨h.ordered.numbered, h.ordered.next, h.ordered.made⟩
    have hreaches := hordered.openAny s.client.target.servers Client.noServersFailure
    refine orderly_of_none (hreaches.settings.trans h.configured)
      ⟨hreaches.ordered.numbered, hreaches.ordered.next, hreaches.ordered.made⟩
      (fun a ha => ?_) idle hreaches.current
    exact Nat.lt_of_lt_of_le (h.gone a ha) hreaches.longer
  · exact h

theorem Orderly.step (h : Orderly settings s) (x : Step) : Orderly settings (s.step x) := by
  cases x with
  | arrive k => exact h.arrive k
  | leave n => exact h.congr rfl rfl rfl
  | take => exact h.take
  | goOn => exact h.goOn
  | abandon n => exact h.abandon n
  | falter network => exact h.falter network

theorem Orderly.run (h : Orderly settings s) (xs : List Step) : Orderly settings (s.run xs) := by
  induction xs generalizing s with
  | nil => exact h
  | cons x xs ih => exact ih (h.step x)

end

theorem orderly_start (target : Target) (settings : NativeConfig) (network : Network)
    (nonce : Nat → String) : Orderly settings (start target settings network nonce) := by
  have hordered := (Client.sound_make target settings network nonce).toOrdered
  exact orderly_renewed (s := ⟨Client.make target settings network nonce, [], none, [], []⟩)
    rfl hordered (by simp) rfl

/-- Callers come at any time and may go away before their turn or over whatever they wait for. When
a request starts to be written, its connection is the one that serves, and all that went over it
came from the requests made on it before, one after another. Those whose callers went away were all
cut short; the others went out whole, and a frame was read that is their answer, no more and no
less. So the connection is in step exactly if no request on it was given up. -/
theorem whole_unless_given_up (target : Target) (settings : NativeConfig) (network : Network)
    (nonce : Nat → String) (steps : List Step) :
    let s := (start target settings network nonce).run steps
    ∀ p frame, s.pending = some p → p.stage = .writing frame →
      let i := p.asked.connection
      s.client.current = some i ∧ p.asked.frame settings = .ok frame ∧
      ∃ x earlier tales, s.client.connections[i]? = some x ∧
        s.client.askedOn i = earlier ++ [p.asked] ∧
        Recounts settings earlier (s.givenUpOn i) x tales ∧
        ((∀ t ∈ tales, t.Whole settings) ↔ s.givenUpOn i = []) := by
  intro s p frame hp hstage
  have h : Orderly settings s := (orderly_start target settings network nonce).run steps
  obtain ⟨hcurrent, x, x', earlier, tales, here, asked, recounts, underway⟩ := h.waits p hp
  rw [hstage] at underway
  cases underway with
  | writing framed =>
    exact ⟨hcurrent, framed, x, earlier, tales, here, asked, recounts, recounts.whole_iff⟩

/-- The second call of a client starts on the connection on which the first was answered. -/
theorem whole_unless_given_up_answered :
    let broker : Peer := ⟨fun _ _ => none,
      fun written => ⟨if written = [] then [] else writeOctets (List.replicate 12 0), .pending⟩⟩
    let k := Call.deleteTopics []
    let r := Request.deleteTopics [] 30000
    let s := (start ⟨⟨"eu", "a"⟩, ["b:9092"], none, none⟩ {} (fun _ _ => .ok broker)
      (fun _ => "")).run (undisturbed k ++ [.arrive k, .take])
    ∃ frame x tales, s.pending = some ⟨k, ⟨0, 1, r⟩, .writing frame⟩ ∧
      s.client.connections[0]? = some x ∧ Recounts {} [⟨0, 0, r⟩] [] x tales ∧
      ∀ t ∈ tales, t.Whole {} := by
  intro broker k r s
  let frame := (r.frame 1 ({} : NativeConfig).clientId).toOption.getD []
  have hp : s.pending = some ⟨k, ⟨0, 1, r⟩, .writing frame⟩ := by decide +kernel
  have hasked : s.client.askedOn 0 = [⟨0, 0, r⟩] ++ [⟨0, 1, r⟩] := by decide +kernel
  have hgone : s.givenUpOn 0 = [] := by decide +kernel
  obtain ⟨-, -, x, earlier, tales, here, asked, recounts, whole⟩ :=
    whole_unless_given_up _ _ _ _ (undisturbed k ++ [.arrive k, .take]) _ frame hp rfl
  have hearlier : earlier = [⟨0, 0, r⟩] := List.append_cancel_right (asked.symm.trans hasked)
  rw [hearlier] at recounts
  exact ⟨frame, x, tales, hp, here, hgone ▸ recounts, whole.mpr hgone⟩

/-- A caller goes away once its request is out. The next call starts on the same connection, where
no answer was read, and fails over the answer to the first one. -/
theorem begun_out_of_step :
    let broker : Peer := ⟨fun _ _ => none,
      fun written => ⟨if written = [] then [] else writeOctets (List.replicate 12 0), .pending⟩⟩
    let k := Call.deleteTopics []
    let s := (start ⟨⟨"eu", "a"⟩, ["b:9092"], none, none⟩ {} (fun _ _ => .ok broker)
      (fun _ => "")).run [.arrive k, .take, .goOn, .abandon 0, .arrive k, .take]
    ¬(∀ p frame, s.pending = some p → p.stage = .writing frame →
      ∃ x earlier tales, s.client.connections[p.asked.connection]? = some x ∧
        s.client.askedOn p.asked.connection = earlier ++ [p.asked] ∧ Covers earlier x tales ∧
        ∀ t ∈ tales, t.Whole {}) ∧
    (s.run [.goOn, .goOn, .goOn]).results = [(k, .error (Failure.transient
      "Correlation id mismatch for DeleteTopics: expected 1, got 0"))] := by
  intro broker k s
  let r := Request.deleteTopics [] 30000
  let frame := (r.frame 1 ({} : NativeConfig).clientId).toOption.getD []
  have hp : s.pending = some ⟨k, ⟨0, 1, r⟩, .writing frame⟩ := by decide +kernel
  have hasked : s.client.askedOn 0 = [⟨0, 0, r⟩] ++ [⟨0, 1, r⟩] := by decide +kernel
  have hunread : s.client.connections[0]?.map (·.consumed) = some [] := by decide +kernel
  refine ⟨fun inStep => ?_, by decide +kernel⟩
  obtain ⟨x, earlier, tales, here, asked, covers, whole⟩ := inStep _ frame hp rfl
  have hearlier : earlier = [⟨0, 0, r⟩] := List.append_cancel_right (asked.symm.trans hasked)
  obtain ⟨t, rfl, -⟩ := List.map_eq_singleton_iff.mp (covers.asked.trans hearlier)
  obtain ⟨-, answer, body, hread, -, -⟩ := whole t (List.mem_singleton_self t)
  have hconsumed : x.consumed = [] := by
    rw [here] at hunread
    exact Option.some.inj hunread
  have hnothing : writeOctets answer = [] := by
    simpa [hconsumed, hread] using covers.consumed.symm
  cases hnothing

end Session

end ClusterAdmin.Wire
