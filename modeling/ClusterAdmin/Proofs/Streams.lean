import ClusterAdmin.Wire.Connection

namespace ClusterAdmin.Wire

theorem sizeOf_writeInt32 (n : Int32) : Connection.sizeOf (writeInt32 n) = n.toInt := by
  simp only [writeInt32, Bytes.ofUInt32, Connection.sizeOf, Bytes.toUInt32_ofUInt32,
    Int32.toInt32_toUInt32]

/-- A length that is not negative is written as the four octets that it was read from. -/
theorem writeInt32_sizeOf {head : Bytes} (h : head.length = 4)
    (hpos : 0 ≤ Connection.sizeOf head) :
    writeInt32 (Int32.ofNat (Connection.sizeOf head).toNat) = head := by
  match head, h with
  | [x, y, z, w], _ =>
    have hsize : Int32.ofNat (Connection.sizeOf [x, y, z, w]).toNat =
        (Bytes.toUInt32 x y z w).toInt32 := by
      rw [← Int32.ofInt_eq_ofNat, Int.toNat_of_nonneg hpos]
      exact Int32.ofInt_toInt _
    rw [writeInt32, hsize]
    exact Bytes.ofUInt32_toUInt32 x y z w

namespace Connection

/-- Of a frame no more was read than its length, or than a length that is let through announces. -/
def Measured (limit : Nat) (octets : Bytes) : Prop :=
  octets.length ≤ 4 ∨ 0 ≤ sizeOf (octets.take 4) ∧ (sizeOf (octets.take 4)).toNat ≤ limit ∧
    octets.length ≤ 4 + (sizeOf (octets.take 4)).toNat

/-- A frame went out whole, and its answer came in as the next frame. -/
structure Exchanged (x : Connection) (frame answer : Bytes) (x' : Connection) : Prop where
  address : x'.address = x.address
  written : x'.written = x.written ++ [frame]
  consumed : x'.consumed = x.consumed ++ writeOctets answer
  received : x.received <+: x'.received

/-- All that an exchange may do to a connection, wherever it stops. -/
structure Touched (x : Connection) (frame : Bytes) (limit : Nat) (x' : Connection) : Prop where
  written : ∃ n, x'.written = x.written ++ [frame.take n]
  consumed : ∃ octets, x'.consumed = x.consumed ++ octets ∧ Measured limit octets

theorem read_cases (c : Connection) (n : Nat) (atEnd : ExchangeFault) :
    (∃ octets c', c.read n atEnd = (.ok octets, c') ∧ octets.length = n ∧
      c'.consumed = c.consumed ++ octets) ∨
    ∃ fault octets c', c.read n atEnd = (.error fault, c') ∧ octets.length < n ∧
      c'.consumed = c.consumed ++ octets := by
  simp only [read]
  split
  · rename_i hn
    exact .inl ⟨_, _, rfl, by rw [List.length_take, Nat.min_eq_left hn], rfl⟩
  · rename_i hn
    exact .inr ⟨_, _, _, rfl, Nat.lt_of_not_le hn, rfl⟩

/-- Reading an answer writes nothing, loses nothing and leads nowhere else. -/
theorem receive_keeps (c : Connection) (limit : Nat) :
    (c.receive limit).2.written = c.written ∧ (c.receive limit).2.received = c.received ∧
      (c.receive limit).2.address = c.address := by
  have hw := c.written_read 4 .ended
  have hr := c.received_read 4 .ended
  have ha := c.address_read 4 .ended
  simp only [receive]
  split
  all_goals
    rename_i h
    rw [h] at hw hr ha
  · exact ⟨hw, hr, ha⟩
  · split
    · exact ⟨hw, hr, ha⟩
    · rw [written_read, received_read, address_read]
      exact ⟨hw, hr, ha⟩

/-- What is received is the next frame, whole and within the limit. If nothing is, no more was read
than should be. -/
theorem receive_cases (c : Connection) (limit : Nat) :
    (∃ answer c', c.receive limit = (.ok answer, c') ∧ answer.length ≤ limit ∧
      c'.consumed = c.consumed ++ writeOctets answer ∧ Measured limit (writeOctets answer)) ∨
    ∃ fault octets c', c.receive limit = (.error fault, c') ∧ c'.consumed = c.consumed ++ octets ∧
      Measured limit octets := by
  simp only [receive]
  obtain ⟨head, c₁, hhead, hfour, hconsumed⟩ | ⟨fault, octets, c₁, hhead, hfew, hconsumed⟩ :=
    c.read_cases 4 .ended
  · rw [hhead]
    by_cases hsize : sizeOf head < 0 ∨ limit < (sizeOf head).toNat
    · exact .inr ⟨_, head, c₁, if_pos hsize, hconsumed, .inl (Nat.le_of_eq hfour)⟩
    · have hpos : 0 ≤ sizeOf head := by omega
      have hlimit : (sizeOf head).toNat ≤ limit := by omega
      have htake (more : Bytes) : (head ++ more).take 4 = head := List.take_left' hfour
      have hmeasured {more : Bytes} (h : more.length ≤ (sizeOf head).toNat) :
          Measured limit (head ++ more) := by
        refine .inr ⟨by rwa [htake], by rwa [htake], ?_⟩
        rw [htake, List.length_append]
        omega
      simp only [if_neg hsize]
      obtain ⟨answer, c₂, hanswer, hlength, hconsumed'⟩ |
          ⟨fault, octets, c₂, hanswer, hfew, hconsumed'⟩ :=
        c₁.read_cases (sizeOf head).toNat .endedWithin
      · have hframe : writeOctets answer = head ++ answer := by
          rw [writeOctets, hlength, writeInt32_sizeOf hfour hpos]
        refine .inl ⟨answer, c₂, hanswer, by omega, ?_, ?_⟩
        · rw [hconsumed', hconsumed, hframe, List.append_assoc]
        · rw [hframe]
          exact hmeasured (Nat.le_of_eq hlength)
      · refine .inr ⟨fault, head ++ octets, c₂, hanswer, ?_, hmeasured (Nat.le_of_lt hfew)⟩
        rw [hconsumed', hconsumed, List.append_assoc]
  · rw [hhead]
    exact .inr ⟨fault, octets, c₁, rfl, hconsumed, .inl (Nat.le_of_lt hfew)⟩

theorem write_cases (c : Connection) (frame : Bytes) :
    c.write frame = (.ok (), c.put frame) ∨
      ∃ n fault, c.write frame = (.error fault, c.put (frame.take n)) := by
  simp only [write]
  split
  · exact .inl rfl
  · exact .inr ⟨_, _, rfl⟩

/-- An exchange ends with the next frame as its answer, or stops somewhere. -/
theorem exchange_cases (x : Connection) (frame : Bytes) (limit : Nat) :
    (∃ answer x', x.exchange frame limit = (.ok answer, x') ∧ answer.length ≤ limit ∧
      x.Exchanged frame answer x' ∧ x.Touched frame limit x') ∨
    ∃ fault x', x.exchange frame limit = (.error fault, x') ∧ x.Touched frame limit x' := by
  simp only [exchange]
  obtain hw | ⟨n, fault, hw⟩ := x.write_cases frame
  · rw [hw]
    obtain ⟨hwritten, hreceived, haddress⟩ := (x.put frame).receive_keeps limit
    obtain ⟨answer, x', hr, hlimit, hconsumed, hmeasured⟩ |
        ⟨fault, octets, x', hr, hconsumed, hmeasured⟩ := (x.put frame).receive_cases limit
    all_goals
      rw [hr, written_put] at hwritten
      rw [hr] at hreceived
      rw [hr, address_put] at haddress
      rw [consumed_put] at hconsumed
      have hout : ∃ n, x'.written = x.written ++ [frame.take n] :=
        ⟨frame.length, by rw [List.take_length, hwritten]⟩
    · exact .inl ⟨answer, x', hr, hlimit,
        ⟨haddress, hwritten, hconsumed, hreceived ▸ x.received_put frame⟩, hout, _, hconsumed,
        hmeasured⟩
    · exact .inr ⟨fault, x', hr, hout, octets, hconsumed, hmeasured⟩
  · rw [hw]
    exact .inr ⟨_, _, rfl, ⟨n, x.written_put _⟩, [], by simp, .inl (Nat.zero_le _)⟩

theorem eq_put_of_write {x y : Connection} {frame : Bytes} (out : x.write frame = (.ok (), y)) :
    y = x.put frame := by
  obtain hw | ⟨n, fault, hw⟩ := x.write_cases frame
  · rw [hw] at out
    cases out
    rfl
  · rw [hw] at out
    cases out

/-- Once a frame is out, a length that is negative or above the limit ends the exchange. The four
octets of the length are the last that are read. -/
theorem exchange_of_badSize {x y : Connection} {frame : Bytes} {limit : Nat} {size : Int}
    (out : x.write frame = (.ok (), y)) (come : 4 ≤ y.unread.length)
    (announced : sizeOf (y.unread.take 4) = size) (bad : size < 0 ∨ limit < size.toNat) :
    ∃ x', x.exchange frame limit = (.error (.badSize size), x') ∧
      x'.consumed = x.consumed ++ y.unread.take 4 := by
  simp only [exchange, out, receive, read, if_pos come, announced, if_pos bad]
  exact ⟨_, rfl, by rw [eq_put_of_write out, consumed_put]⟩

/-- Once a frame is out, a frame within the limit is taken as the answer, whatever comes after. -/
theorem exchange_of_frame {x y : Connection} {frame : Bytes} {limit : Nat}
    {head answer rest : Bytes} (out : x.write frame = (.ok (), y))
    (come : y.unread = head ++ (answer ++ rest)) (four : head.length = 4)
    (announced : sizeOf head = answer.length) (within : answer.length ≤ limit) :
    ∃ x', x.exchange frame limit = (.ok answer, x') := by
  have hlength : 4 ≤ y.unread.length := by
    rw [come, List.length_append]
    omega
  have hallowed : ¬((answer.length : Int) < 0 ∨ limit < answer.length) := by omega
  have htake : y.unread.take 4 = head := by rw [come, List.take_left' four]
  have hdrop : y.unread.drop 4 = answer ++ rest := by rw [come, List.drop_left' four]
  have hrest : answer.length ≤ (answer ++ rest).length := by
    rw [List.length_append]
    omega
  simp only [exchange, out, receive, read, if_pos hlength, htake, announced, Int.toNat_natCast,
    if_neg hallowed, hdrop, if_pos hrest, List.take_left']
  exact ⟨_, rfl⟩

end Connection

end ClusterAdmin.Wire
