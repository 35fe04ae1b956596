import ClusterAdmin.Wire.Codec

namespace ClusterAdmin

theorem Bytes.length_ofText (s : String) : (Bytes.ofText s).length = s.utf8ByteSize := by
  rw [ofText, ByteArray.toList, toList_loop, List.reverse_nil, List.nil_append, List.drop_zero]
  rfl

namespace Wire

/-- Octets are read as a value and no further, unless they are more than a count can be of. -/
def ReadsAs {α : Type} (octets : Bytes) (read : Reader α) (a : α) : Prop :=
  octets.length < 2147483648 → ∀ rest, read (octets ++ rest) = .ok (a, rest)

/-- What is written, if anything is, is not empty and is read as a value. -/
def Written.Spells {α : Type} (w : Written) (read : Reader α) (a : α) : Prop :=
  ∀ octets, w = .ok octets → octets ≠ [] ∧ ReadsAs octets read a

/-- Something is written exactly if none of those texts is too long. -/
def Written.Needs (w : Written) (texts : List String) : Prop :=
  (∃ octets, w = .ok octets) ↔ ∀ s ∈ texts, s.utf8ByteSize ≤ 32767

theorem written_bind_eq_ok {α β : Type} {w : Except TooLong α} {f : α → Except TooLong β} {b : β} :
    w >>= f = .ok b ↔ ∃ a, w = .ok a ∧ f a = .ok b := by
  cases w with
  | error e => exact ⟨nofun, nofun⟩
  | ok a => exact ⟨fun h => ⟨a, rfl, h⟩, by rintro ⟨_, ⟨⟩, h⟩; exact h⟩

theorem written_pure_eq_ok {octets b : Bytes} :
    (pure octets : Written) = .ok b ↔ octets = b :=
  Except.ok.injEq octets b ▸ Iff.rfl

section

variable {α β : Type} {octets more : Bytes} {read : Reader α} {a : α}

theorem ReadsAs.bind {f : α → Reader β} {b : β} (h : ReadsAs octets read a)
    (hmore : ReadsAs more (f a) b) : ReadsAs (octets ++ more) (read >>= f) b := by
  intro hlength rest
  rw [List.length_append] at hlength
  have hread := h (by omega) (more ++ rest)
  simp only [Bind.bind, StateT.bind, List.append_assoc, hread, Except.bind]
  exact hmore (by omega) rest

/-- What is made of the last value. -/
theorem ReadsAs.last {g : α → β} (h : ReadsAs octets read a) :
    ReadsAs octets (read >>= fun v => pure (g v)) (g a) := by
  intro hlength rest
  simp only [Bind.bind, StateT.bind, h hlength rest, Except.bind]
  rfl

theorem Written.Needs.bind {w : Written} {f : Bytes → Written} {texts texts' : List String}
    (h : w.Needs texts) (h' : ∀ octets, (f octets).Needs texts') :
    Written.Needs (w >>= f) (texts ++ texts') := by
  rw [Needs, List.forall_mem_append]
  constructor
  · rintro ⟨b, hb⟩
    obtain ⟨octets, hw, hf⟩ := written_bind_eq_ok.mp hb
    exact ⟨h.mp ⟨octets, hw⟩, (h' octets).mp ⟨b, hf⟩⟩
  · rintro ⟨hfit, hfit'⟩
    obtain ⟨octets, hw⟩ := h.mpr hfit
    obtain ⟨b, hf⟩ := (h' octets).mpr hfit'
    exact ⟨b, written_bind_eq_ok.mpr ⟨octets, hw, hf⟩⟩

theorem needs_pure (octets : Bytes) : Written.Needs (pure octets) [] :=
  ⟨nofun, fun _ => ⟨octets, rfl⟩⟩

theorem Written.Needs.last {w : Written} {g : Bytes → Bytes} {texts : List String}
    (h : w.Needs texts) : Written.Needs (w >>= fun octets => pure (g octets)) texts := by
  have hg := h.bind fun octets => needs_pure (g octets)
  rwa [List.append_nil] at hg

theorem ReadsAs.map (h : ReadsAs octets read a) (g : α → β) :
    ReadsAs octets (g <$> read) (g a) := by
  intro hlength rest
  simp only [Functor.map, StateT.map, h hlength rest, Bind.bind, Except.bind]
  rfl

theorem readsAs_nil (a : α) : ReadsAs [] (pure a : Reader α) a := fun _ _ => rfl

end

theorem readsAs_int8 (n : Int8) : ReadsAs (writeInt8 n) readInt8 n := by
  intro _ rest
  simp only [writeInt8, List.singleton_append, readInt8, Int8.toInt8_toUInt8]

theorem readsAs_int16 (n : Int16) : ReadsAs (writeInt16 n) readInt16 n := by
  intro _ rest
  simp only [writeInt16, Bytes.ofUInt16, List.cons_append, List.nil_append, readInt16,
    Bytes.toUInt16_ofUInt16, Int16.toInt16_toUInt16]

theorem readsAs_int32 (n : Int32) : ReadsAs (writeInt32 n) readInt32 n := by
  intro _ rest
  simp only [writeInt32, Bytes.ofUInt32, List.cons_append, List.nil_append, readInt32,
    Bytes.toUInt32_ofUInt32, Int32.toInt32_toUInt32]

theorem readsAs_bool (b : Bool) : ReadsAs (writeBool b) readBool b := by
  intro _ rest
  cases b <;> rfl

@[simp] theorem length_writeInt32 (n : Int32) : (writeInt32 n).length = 4 := rfl

theorem readsAs_octets (b : Bytes) : ReadsAs b (readOctets b.length) b := by
  intro _ rest
  have hle : b.length ≤ (b ++ rest).length := by
    rw [List.length_append]
    omega
  simp only [readOctets, if_pos hle, List.take_left', List.drop_left']

theorem readsAs_text (s : String) :
    ReadsAs (Bytes.ofText s) (readText (Bytes.ofText s).length) s := by
  have h : ReadsAs (Bytes.ofText s ++ []) (readText (Bytes.ofText s).length) s := by
    refine (readsAs_octets _).bind ?_
    rw [Bytes.toText?_ofText]
    exact readsAs_nil s
  rwa [List.append_nil] at h

/-- A length that has room is read as it is, and never as that of no text. -/
theorem lengthOf {n : Nat} (h : n ≤ 32767) :
    ¬Int16.ofNat n < 0 ∧ Int16.ofNat n ≠ -1 ∧ (Int16.ofNat n).toInt.toNat = n := by
  have hint : (Int16.ofNat n).toInt = n := Int16.toInt_ofNat_of_lt (by omega)
  have hneg : ¬Int16.ofNat n < 0 := by
    rw [Int16.lt_iff_toInt_lt, hint]
    simp
  exact ⟨hneg, fun hn => absurd (hn ▸ hneg) (by decide), by rw [hint, Int.toNat_natCast]⟩

theorem writeString_eq_ok {s : String} {b : Bytes} : writeString s = .ok b ↔
    s.utf8ByteSize ≤ 32767 ∧ b = writeInt16 (Int16.ofNat s.utf8ByteSize) ++ Bytes.ofText s := by
  simp only [writeString, Bytes.length_ofText]
  split
  · rename_i h
    exact ⟨fun hb => ⟨h, (Except.ok.inj hb).symm⟩, fun hb => by rw [hb.2]⟩
  · rename_i h
    exact ⟨nofun, fun hb => absurd hb.1 h⟩

theorem spells_string (s : String) : (writeString s).Spells readString s := by
  intro b hb
  obtain ⟨hsize, rfl⟩ := writeString_eq_ok.mp hb
  obtain ⟨hneg, -, hlength⟩ := lengthOf hsize
  refine ⟨by simp [writeInt16, Bytes.ofUInt16], (readsAs_int16 _).bind ?_⟩
  rw [if_neg hneg, hlength, ← Bytes.length_ofText]
  exact readsAs_text s

theorem needs_string (s : String) : (writeString s).Needs [s] := by
  simp only [Written.Needs, writeString_eq_ok, List.mem_singleton, forall_eq, exists_and_left,
    exists_eq, and_true]

theorem spells_nullable (s : Option String) : (writeNullable s).Spells readNullable s := by
  intro b hb
  cases s with
  | none =>
    cases hb
    exact ⟨nofun, fun _ _ => rfl⟩
  | some s =>
    obtain ⟨hsize, rfl⟩ := writeString_eq_ok.mp hb
    obtain ⟨hneg, hsome, hlength⟩ := lengthOf hsize
    refine ⟨by simp [writeInt16, Bytes.ofUInt16], (readsAs_int16 _).bind ?_⟩
    rw [if_neg hsome, if_neg hneg, hlength, ← Bytes.length_ofText]
    exact (readsAs_text s).last

theorem needs_nullable (s : Option String) : (writeNullable s).Needs s.toList := by
  cases s with
  | none => simp [Written.Needs, writeNullable]
  | some s => exact needs_string s

/-- The same of a count. -/
theorem countOf {n : Nat} (h : n < 2147483648) :
    ¬Int32.ofNat n < 0 ∧ Int32.ofNat n ≠ -1 ∧ (Int32.ofNat n).toInt.toNat = n := by
  have hint : (Int32.ofNat n).toInt = n := Int32.toInt_ofNat_of_lt h
  have hneg : ¬Int32.ofNat n < 0 := by
    rw [Int32.lt_iff_toInt_lt, hint]
    simp
  exact ⟨hneg, fun hn => absurd (hn ▸ hneg) (by decide), by rw [hint, Int.toNat_natCast]⟩

theorem readsAs_long (b : Bytes) : ReadsAs (writeOctets b) readLong b := by
  refine (readsAs_int32 _).bind fun hsmall => ?_
  obtain ⟨hneg, -, hcount⟩ := countOf hsmall
  rw [if_neg hneg, hcount]
  exact readsAs_octets b hsmall

section

variable {α β : Type} {write : α → Written} {read : Reader β} {value : α → β} {xs : List α}

/-- No value is empty, so there are no more of them than octets. -/
theorem spells_each (h : ∀ x ∈ xs, (write x).Spells read (value x)) {b : Bytes}
    (hb : writeEach write xs = .ok b) :
    xs.length ≤ b.length ∧ ReadsAs b (readEach read xs.length) (xs.map value) := by
  induction xs generalizing b with
  | nil =>
    cases hb
    exact ⟨Nat.le_refl 0, readsAs_nil _⟩
  | cons x xs ih =>
    simp only [writeEach, written_bind_eq_ok, written_pure_eq_ok] at hb
    obtain ⟨first, hfirst, others, hothers, rfl⟩ := hb
    obtain ⟨hne, hread⟩ := h x List.mem_cons_self first hfirst
    obtain ⟨hle, hreads⟩ := ih (fun y hy => h y (List.mem_cons_of_mem x hy)) hothers
    have hpos := List.length_pos_iff.mpr hne
    refine ⟨?_, hread.bind hreads.last⟩
    simp only [List.length_cons, List.length_append]
    omega

theorem writeArray_eq_ok {b : Bytes} : writeArray write xs = .ok b ↔
    ∃ each, writeEach write xs = .ok each ∧ b = writeInt32 (Int32.ofNat xs.length) ++ each := by
  simp only [writeArray, written_bind_eq_ok, written_pure_eq_ok, eq_comm (b := b)]

/-- An array is its count and its values, which are no more than a count can be of. -/
theorem reads_array (h : ∀ x ∈ xs, (write x).Spells read (value x)) {b : Bytes}
    (hb : writeArray write xs = .ok b) :
    ∃ each, b = writeInt32 (Int32.ofNat xs.length) ++ each ∧
      (each.length < 2147483648 → xs.length < 2147483648) ∧
      ReadsAs each (readEach read xs.length) (xs.map value) := by
  obtain ⟨each, heach, rfl⟩ := writeArray_eq_ok.mp hb
  obtain ⟨hle, hreads⟩ := spells_each h heach
  exact ⟨each, rfl, Nat.lt_of_le_of_lt hle, hreads⟩

theorem spells_array (h : ∀ x ∈ xs, (write x).Spells read (value x)) :
    (writeArray write xs).Spells (readArray read) (xs.map value) := by
  intro b hb
  obtain ⟨each, rfl, hcounts, hreads⟩ := reads_array h hb
  refine ⟨by simp [writeInt32, Bytes.ofUInt32], (readsAs_int32 _).bind fun hsmall => ?_⟩
  obtain ⟨hneg, -, hcount⟩ := countOf (hcounts hsmall)
  rw [if_neg hneg, hcount]
  exact hreads hsmall

theorem spells_list {write : β → Written} (h : ∀ x, (write x).Spells read x) (xs : List β) :
    (writeArray write xs).Spells (readArray read) xs := by
  have hmap := spells_array fun x (_ : x ∈ xs) => h x
  rwa [List.map_id'] at hmap

theorem spells_nullableArray (h : ∀ x ∈ xs, (write x).Spells read (value x)) :
    (writeArray write xs).Spells (readNullableArray read) (some (xs.map value)) := by
  intro b hb
  obtain ⟨each, rfl, hcounts, hreads⟩ := reads_array h hb
  refine ⟨by simp [writeInt32, Bytes.ofUInt32], (readsAs_int32 _).bind fun hsmall => ?_⟩
  obtain ⟨hneg, hsome, hcount⟩ := countOf (hcounts hsmall)
  rw [if_neg hsome, if_neg hneg, hcount]
  exact hreads.last hsmall

theorem needs_array {texts : α → List String} (h : ∀ x, (write x).Needs (texts x)) :
    (writeArray write xs).Needs (xs.flatMap texts) := by
  refine Written.Needs.last ?_
  induction xs with
  | nil => exact needs_pure []
  | cons x xs ih => exact (h x).bind fun _ => ih.last

end

theorem needs_strings (xs : List String) : (writeArray writeString xs).Needs xs := by
  have h : (writeArray writeString xs).Needs (xs.flatMap fun s => [s]) := needs_array needs_string
  rwa [List.flatMap_singleton'] at h

/-- Words are a list whose values are always written. -/
theorem writeArray_int32 (ns : List Int32) :
    writeArray (fun n => .ok (writeInt32 n)) ns = .ok (writeInt32s ns) := by
  have heach (ns : List Int32) :
      writeEach (fun n => .ok (writeInt32 n)) ns = .ok (ns.flatMap writeInt32) := by
    induction ns with
    | nil => rfl
    | cons n ns ih =>
      rw [writeEach, ih]
      rfl
  exact writeArray_eq_ok.mpr ⟨_, heach ns, rfl⟩

theorem readsAs_int32s (ns : List Int32) : ReadsAs (writeInt32s ns) (readArray readInt32) ns := by
  have hword (n : Int32) : Written.Spells (.ok (writeInt32 n)) readInt32 n := by
    intro b hb
    cases hb
    exact ⟨by simp [writeInt32, Bytes.ofUInt32], readsAs_int32 n⟩
  exact (spells_list hword ns _ (writeArray_int32 ns)).2

end Wire

end ClusterAdmin
