import Mathlib.Data.List.Flatten
import ClusterAdmin.Proofs.Fields
import ClusterAdmin.Rest.Url

namespace ClusterAdmin

theorem Bytes.ofText_append (s t : String) : ofText (s ++ t) = ofText s ++ ofText t := by
  have hdata (s : String) : ofText s = s.toByteArray.data.toList := by
    rw [ofText, ByteArray.toList, toList_loop, List.reverse_nil, List.nil_append, List.drop_zero]
    rfl
  simp [hdata, String.toByteArray_append]

namespace Text.Percent

/-- The octets of a text in which nothing is taken for an escape. -/
def octets (t : List Char) : Bytes := t.flatMap fun c => Bytes.ofText (String.singleton c)

@[simp] theorem octets_cons (c : Char) (t : List Char) :
    octets (c :: t) = Bytes.ofText (String.singleton c) ++ octets t := rfl

theorem octets_toList (s : String) : octets s.toList = Bytes.ofText s := by
  have hlist (t : List Char) : octets t = Bytes.ofText (String.ofList t) := by
    induction t with
    | nil => exact (List.eq_nil_of_length_eq_zero (Bytes.length_ofText "")).symm
    | cons c t ih =>
      rw [octets_cons, ih, ← Bytes.ofText_append, String.singleton_eq_ofList,
        ← String.ofList_append, List.singleton_append]
  rw [hlist, String.ofList_toList]

theorem octets_pos (c : Char) : 0 < (Bytes.ofText (String.singleton c)).length := by
  rw [Bytes.length_ofText, String.utf8ByteSize_singleton]
  exact c.utf8Size_pos

theorem length_octets_le {t t' : List Char} (h : t.Sublist t') :
    (octets t).length ≤ (octets t').length :=
  (h.flatMap fun c => Bytes.ofText (String.singleton c)).length_le

/-- A part of a text has fewer octets unless it is all of it. -/
theorem eq_of_sublist {t t' : List Char} (h : t.Sublist t')
    (hlength : (octets t').length ≤ (octets t).length) : t = t' := by
  induction h with
  | slnil => rfl
  | cons c h _ =>
    have hpos := octets_pos c
    have hle := length_octets_le h
    simp only [octets_cons, List.length_append] at hlength
    omega
  | cons_cons c _ ih =>
    simp only [octets_cons, List.length_append] at hlength
    rw [ih (by omega)]

/-- Whether a character is a hexadecimal digit. -/
theorem isSome_hexValue? {c : Char} : (Bytes.hexValue? c).isSome ↔
    ('0' ≤ c ∧ c ≤ '9') ∨ ('a' ≤ c ∧ c ≤ 'f') ∨ ('A' ≤ c ∧ c ≤ 'F') := by
  rw [Bytes.hexValue?]
  split
  · simp [*]
  · split
    · simp [*]
    · split <;> simp [*]

theorem eq_of_toLower {c d : Char} (hd : ¬('a' ≤ d ∧ d ≤ 'z')) (h : c.toLower = d) : c = d := by
  delta Char.toLower at h
  split at h
  · rename_i hc
    subst h
    refine absurd ?_ hd
    simp only [Char.le_def, UInt32.le_iff_toNat_le, ge_iff_le] at hc ⊢
    simp at hc ⊢
    omega
  · exact h

theorem isSome_hexValue?_of_toLower {c : Char} (h : (Bytes.hexValue? c.toLower).isSome) :
    (Bytes.hexValue? c).isSome := by
  delta Char.toLower at h
  split at h
  · rename_i hc
    rw [isSome_hexValue?] at h ⊢
    simp only [Char.le_def, UInt32.le_iff_toNat_le, ge_iff_le] at h hc ⊢
    simp at h hc ⊢
    omega
  · exact h

/-- Whether two digits come next. -/
def isEscape : List Char → Bool
  | a :: b :: _ => (Bytes.hexValue? a).isSome && (Bytes.hexValue? b).isSome
  | _ => false

/-- Whether no percent sign has two digits after it. -/
def isLiteral : List Char → Bool
  | [] => true
  | c :: t => !(c = '%' && isEscape t) && isLiteral t

theorem isLiteral_cons {c : Char} {t : List Char} :
    isLiteral (c :: t) ↔ ¬(c = '%' ∧ isEscape t) ∧ isLiteral t := by
  simp [isLiteral, Decidable.or_iff_not_imp_left]

theorem isLiteral_of_not_mem {t : List Char} (h : '%' ∉ t) : isLiteral t := by
  induction t with
  | nil => rfl
  | cons c t ih =>
    obtain ⟨hc, ht⟩ : '%' ≠ c ∧ '%' ∉ t := by simpa using h
    exact isLiteral_cons.mpr ⟨fun hescape => hc hescape.1.symm, ih ht⟩

theorem isEscape_of_map_toLower {t : List Char} (h : isEscape (t.map Char.toLower)) :
    isEscape t := by
  match t with
  | [] | [_] => exact h
  | a :: b :: t =>
    simp only [List.map_cons, isEscape, Bool.and_eq_true] at h ⊢
    exact ⟨isSome_hexValue?_of_toLower h.1, isSome_hexValue?_of_toLower h.2⟩

theorem isLiteral_map_toLower {t : List Char} (h : isLiteral t) :
    isLiteral (t.map Char.toLower) := by
  induction t with
  | nil => rfl
  | cons c t ih =>
    rw [isLiteral_cons] at h
    rw [List.map_cons, isLiteral_cons]
    exact ⟨fun ⟨hc, ht⟩ => h.1 ⟨eq_of_toLower (by decide) hc, isEscape_of_map_toLower ht⟩, ih h.2⟩

theorem decode_cons {c : Char} {t : List Char} (h : ¬(c = '%' ∧ isEscape t)) :
    decode (c :: t) = Bytes.ofText (String.singleton c) ++ decode t := by
  conv => lhs; unfold decode
  split
  · rename_i a b t
    split
    · rename_i ha hb
      exact absurd ⟨rfl, by simp [isEscape, ha, hb]⟩ h
    · rw [show Bytes.ofText (String.singleton '%') = [37] by decide +kernel]
      rfl
  · rfl

theorem decode_escape {a b : Char} {x y : Nat} (ha : Bytes.hexValue? a = some x)
    (hb : Bytes.hexValue? b = some y) (t : List Char) :
    decode ('%' :: a :: b :: t) = UInt8.ofNat (16 * x + y) :: decode t := by
  simp [decode, ha, hb]

/-- Texts one escape after another, or one character that stands for itself. -/
@[elab_as_elim]
theorem escape_induction {P : List Char → Prop} (nil : P [])
    (escape : ∀ (a b : Char) (x y : Nat) (t : List Char), Bytes.hexValue? a = some x →
      Bytes.hexValue? b = some y → P t → P ('%' :: a :: b :: t))
    (plain : ∀ (c : Char) (t : List Char), ¬(c = '%' ∧ isEscape t) → P t → P (c :: t))
    (t : List Char) : P t := by
  fun_induction decode t with
  | case1 => exact nil
  | case2 a b t x y hb ha ih => exact escape a b x y t ha hb ih
  | case3 a b t hnone ih =>
    refine plain '%' _ (fun h => ?_) ih
    simp only [isEscape, true_and, Bool.and_eq_true, Option.isSome_iff_exists] at h
    obtain ⟨⟨x, hx⟩, y, hy⟩ := h
    exact hnone x y hx hy
  | case4 c t hother ih =>
    refine plain c t (fun ⟨hc, ht⟩ => ?_) ih
    match t with
    | [] | [_] => simp [isEscape] at ht
    | a :: b :: t => exact hother a b t hc rfl

theorem length_decode_le (t : List Char) : (decode t).length ≤ (octets t).length := by
  induction t using escape_induction with
  | nil => exact Nat.le_refl 0
  | escape a b x y t ha hb ih =>
    have hc := octets_pos '%'
    simp only [decode_escape ha hb, octets_cons, List.length_cons, List.length_append]
    omega
  | plain c t h ih => simpa [decode_cons h] using ih

/-- A text stands for itself if and only if there is no escape in it. -/
theorem decode_eq_octets (t : List Char) : decode t = octets t ↔ isLiteral t := by
  induction t using escape_induction with
  | nil => simp [decode, octets, isLiteral]
  | escape a b x y t ha hb _ =>
    refine iff_of_false (fun h => ?_) (by simp [isLiteral_cons, isEscape, ha, hb])
    have hpercent := octets_pos '%'
    have ha' := octets_pos a
    have hle := length_decode_le t
    have hlength := congrArg List.length h
    simp only [decode_escape ha hb, octets_cons, List.length_cons, List.length_append] at hlength
    omega
  | plain c t h ih =>
    simp [decode_cons h, isLiteral_cons, h, ih]

section

variable {allowed : Char → Bool}

theorem encode_cons_of_allowed {c : Char} (h : allowed c) (t : List Char) :
    encode allowed (c :: t) = c :: encode allowed t := by
  simp [encode, h]

theorem encode_cons_of_not_allowed {c : Char} (h : ¬allowed c) (t : List Char) :
    encode allowed (c :: t) =
      (Bytes.ofText (String.singleton c)).flatMap encodeOctet ++ encode allowed t := by
  simp [encode, h]

/-- What is allowed everywhere in a text is not encoded. -/
theorem encode_eq_self {t : List Char} (h : t.all allowed) : encode allowed t = t := by
  induction t with
  | nil => rfl
  | cons c t ih =>
    simp only [List.all_cons, Bool.and_eq_true] at h
    rw [encode_cons_of_allowed h.1, ih h.2]

theorem length_le_flatMap_encodeOctet (bs : Bytes) :
    bs.length ≤ (bs.flatMap encodeOctet).length := by
  induction bs with
  | nil => exact Nat.le_refl 0
  | cons b bs ih =>
    simp only [List.flatMap_cons, List.length_append, List.length_cons, encodeOctet]
    omega

theorem length_le_encode (t : List Char) : t.length ≤ (encode allowed t).length := by
  induction t with
  | nil => exact Nat.le_refl 0
  | cons c t ih =>
    by_cases h : allowed c = true
    · simpa [encode_cons_of_allowed h] using ih
    · have hpos := octets_pos c
      rw [encode_cons_of_not_allowed h]
      have hle := length_le_flatMap_encodeOctet (Bytes.ofText (String.singleton c))
      simp only [List.length_cons, List.length_append]
      omega

theorem hexValue?_hexDigit (n : Nat) (h : n < 16) :
    Bytes.hexValue? (Bytes.hexDigit n).toUpper = some n := by
  have hall : ∀ n < 16, Bytes.hexValue? (Bytes.hexDigit n).toUpper = some n := by decide
  exact hall n h

theorem decode_encodeOctet (b : UInt8) (t : List Char) :
    decode (encodeOctet b ++ t) = b :: decode t := by
  have hb := b.toNat_lt
  have hhigh := hexValue?_hexDigit (b.toNat / 16) (by omega)
  have hlow := hexValue?_hexDigit (b.toNat % 16) (by omega)
  rw [encodeOctet, List.cons_append, List.cons_append, List.singleton_append,
    decode_escape hhigh hlow, Nat.div_add_mod, UInt8.ofNat_toNat]

theorem decode_encodeOctets (bs : Bytes) (t : List Char) :
    decode (bs.flatMap encodeOctet ++ t) = bs ++ decode t := by
  induction bs with
  | nil => rfl
  | cons b bs ih => rw [List.flatMap_cons, List.append_assoc, decode_encodeOctet, ih,
      List.cons_append]

theorem isEscape_percent (t : List Char) : isEscape ('%' :: t) = false := by
  have hpercent : Bytes.hexValue? '%' = none := by decide
  cases t <;> simp [isEscape, hpercent]

theorem exists_encode_eq_percent {c : Char} (h : ¬allowed c) (t : List Char) :
    ∃ u, encode allowed (c :: t) = '%' :: u := by
  obtain ⟨b, bs, hbs⟩ := List.exists_cons_of_length_pos (octets_pos c)
  exact ⟨_, by rw [encode_cons_of_not_allowed h, hbs]; rfl⟩

/-- What is encoded starts with a percent sign, as no digit does. -/
theorem isEscape_encode (digits : ∀ c, (Bytes.hexValue? c).isSome → allowed c) (t : List Char) :
    isEscape (encode allowed t) = isEscape t := by
  have hnone {c : Char} (h : ¬allowed c) : (Bytes.hexValue? c).isSome = false := by
    simpa using fun hc => h (digits c hc)
  match t with
  | [] => rfl
  | a :: t =>
    by_cases ha : allowed a = true
    · rw [encode_cons_of_allowed ha]
      match t with
      | [] => rfl
      | b :: t =>
        by_cases hb : allowed b = true
        · rw [encode_cons_of_allowed hb]
          rfl
        · obtain ⟨u, hu⟩ := exists_encode_eq_percent hb t
          have hpercent : (Bytes.hexValue? '%').isSome = false := by decide
          simp only [hu, isEscape, hpercent, hnone hb, Bool.and_false]
    · obtain ⟨u, hu⟩ := exists_encode_eq_percent ha t
      rw [hu, isEscape_percent]
      cases t <;> simp [isEscape, hnone ha]

/-- Whatever else is allowed, encoding a text does not change what it stands for. -/
theorem decode_encode (percent : allowed '%')
    (digits : ∀ c, (Bytes.hexValue? c).isSome → allowed c) (t : List Char) :
    decode (encode allowed t) = decode t := by
  induction t using escape_induction with
  | nil => rfl
  | escape a b x y t ha hb ih =>
    rw [encode_cons_of_allowed percent, encode_cons_of_allowed (digits a (by simp [ha])),
      encode_cons_of_allowed (digits b (by simp [hb])), decode_escape ha hb, decode_escape ha hb,
      ih]
  | plain c t h ih =>
    rw [decode_cons h]
    by_cases hc : allowed c = true
    · rw [encode_cons_of_allowed hc, decode_cons (by rwa [isEscape_encode digits]), ih]
    · rw [encode_cons_of_not_allowed hc, decode_encodeOctets, ih]

end

end Text.Percent

namespace Rest.Url

open Text

theorem inPath_of_digit {c : Char} (h : (Bytes.hexValue? c).isSome) : inPath c := by
  have hrange := Percent.isSome_hexValue?.mp h
  have hforbidden : ['"', '#', '<', '>', '?', '`', '\x7b', '\x7d'].all
      fun x => (Bytes.hexValue? x).isNone := by decide
  have hvisible : isVisible c = true := by
    simp only [isVisible, Bool.and_eq_true, decide_eq_true_eq]
    simp only [Char.le_def, UInt32.le_iff_toNat_le] at hrange
    have hc : c.val.toNat = c.toNat := rfl
    rcases hrange with h | h | h <;> simp [hc] at h <;> omega
  simp only [inPath, hvisible, Bool.true_and, decide_eq_true_eq]
  intro hc
  have hnone := List.all_eq_true.mp hforbidden c hc
  simp [Option.isNone_iff_eq_none.mp hnone] at h

/-- A segment stands for the same when it is encoded. -/
theorem decode_encode_inPath (t : List Char) :
    Percent.decode (Percent.encode inPath t) = Percent.decode t :=
  Percent.decode_encode (by decide) (fun _ => inPath_of_digit) t

/-- Whether a piece is anything but a dot segment. -/
def isName (s : List Char) : Bool := !isDoubleDot s && !isDot s

/-- A text without escapes is a name unless it is one dot or two. -/
theorem isName_iff {t : List Char} (h : Percent.isLiteral t) :
    isName t ↔ t ≠ ['.'] ∧ t ≠ ['.', '.'] := by
  have hlower (s : String) : Text.asciiLower (String.ofList t) = s ↔
      t.map Char.toLower = s.toList := by
    rw [Text.asciiLower, ← String.toList_inj]
    simp
  have hescaped (s : String) (hs : Percent.isLiteral s.toList = false) :
      t.map Char.toLower ≠ s.toList := by
    intro he
    rw [← he, Percent.isLiteral_map_toLower h] at hs
    cases hs
  have hdots (s : List Char) (hs : ∀ c ∈ s, c = '.') : t.map Char.toLower = s ↔ t = s := by
    have hsame {t : List Char} (ht : ∀ c ∈ t, c = '.') : t.map Char.toLower = t :=
      (List.map_congr_left fun c hc => by rw [ht c hc]; rfl).trans (List.map_id t)
    refine ⟨fun he => ?_, fun he => by rw [he, hsame hs]⟩
    rw [← he, hsame fun c hc =>
      Percent.eq_of_toLower (by decide) (hs _ (he ▸ List.mem_map_of_mem hc))]
  simp only [isName, isDoubleDot, isDot, Bool.and_eq_true, Bool.not_eq_true', List.contains_cons,
    Bool.or_eq_false_iff, beq_eq_false_iff_ne, ne_eq, hlower, List.contains_nil, and_true]
  rw [hdots "..".toList (by simp), hdots ".".toList (by simp)]
  simp only [hescaped ".%2e" (by decide), hescaped "%2e." (by decide),
    hescaped "%2e%2e" (by decide), hescaped "%2e" (by decide), not_false_eq_true, and_true]
  exact and_comm

section Pieces

variable {k : Kind}

theorem segments_ne_nil (t : List Char) : segments k t ≠ [] := by
  induction t with
  | nil => simp [segments]
  | cons c t ih => simp only [segments]; split <;> (try split) <;> simp

theorem segments_append_slash {x : Char} (h : k.isSlash x) (t t' : List Char) :
    segments k (t ++ x :: t') = segments k t ++ segments k t' := by
  induction t with
  | nil => simp [segments, h]
  | cons c t ih =>
    simp only [List.cons_append, segments, ih]
    split
    · rfl
    · obtain ⟨s, ss, hs⟩ := List.exists_cons_of_ne_nil (segments_ne_nil (k := k) t)
      simp [hs]

theorem segments_of_no_slash {t : List Char} (h : ∀ c ∈ t, k.isSlash c = false) :
    segments k t = [t] := by
  induction t with
  | nil => rfl
  | cons c t ih =>
    simp only [segments, h c (by simp), ih fun x hx => h x (by simp [hx])]
    rfl

/-- A piece is a part of the text without slashes. -/
theorem sublist_of_mem_segments {t s : List Char} (h : s ∈ segments k t) :
    s.Sublist t ∧ ∀ c ∈ s, k.isSlash c = false := by
  induction t generalizing s with
  | nil =>
    obtain rfl : s = [] := by simpa [segments] using h
    simp
  | cons c t ih =>
    rw [segments] at h
    split at h
    · rcases List.mem_cons.mp h with rfl | h
      · simp
      · exact ⟨(ih h).1.cons c, (ih h).2⟩
    · rename_i hc
      obtain ⟨p, ps, hps⟩ := List.exists_cons_of_ne_nil (segments_ne_nil (k := k) t)
      rw [hps] at h ih
      rcases List.mem_cons.mp h with rfl | h
      · obtain ⟨hsub, hslash⟩ := ih (List.mem_cons_self ..)
        refine ⟨hsub.cons_cons c, fun x hx => ?_⟩
        rcases List.mem_cons.mp hx with rfl | hx
        · simpa using hc
        · exact hslash x hx
      · obtain ⟨hsub, hslash⟩ := ih (List.mem_cons_of_mem _ h)
        exact ⟨hsub.cons c, hslash⟩

end Pieces

/-- What is in front once another piece is read that is not the last one. -/
def walk (k : Kind) (front : List (List Char)) (s : List Char) : List (List Char) :=
  if isDoubleDot s then parent front else if isDot s then front else segment k front s :: front

theorem walk_name {s : List Char} (h : isName s) (k : Kind) (front : List (List Char)) :
    walk k front s = segment k front s :: front := by
  simp only [isName, Bool.and_eq_true, Bool.not_eq_true'] at h
  simp [walk, h.1, h.2]

theorem resolve_cons_cons (k : Kind) (front : List (List Char)) (s s' : List Char)
    (rest : List (List Char)) :
    resolve k front (s :: s' :: rest) = resolve k (walk k front s) (s' :: rest) := by
  conv => lhs; unfold resolve
  simp only [walk, List.isEmpty_cons, Bool.false_eq_true, if_false]
  split
  · rfl
  · split <;> rfl

theorem resolve_append_cons (k : Kind) (front ss : List (List Char)) (s : List Char)
    (rest : List (List Char)) :
    resolve k front (ss ++ s :: rest) = resolve k (ss.foldl (walk k) front) (s :: rest) := by
  induction ss generalizing front with
  | nil => rfl
  | cons t ss ih =>
    rw [List.foldl_cons, ← ih]
    cases ss with
    | nil => exact resolve_cons_cons k front t s rest
    | cons t' ss => exact resolve_cons_cons k front t t' (ss ++ s :: rest)

theorem resolve_name {s : List Char} (h : isName s) (k : Kind) (front rest : List (List Char)) :
    resolve k front (s :: rest) = resolve k (segment k front s :: front) rest := by
  simp only [isName, Bool.and_eq_true, Bool.not_eq_true'] at h
  conv => lhs; unfold resolve
  simp [h.1, h.2]

section

variable {k : Kind}

theorem segment_eq_encode (hk : k ≠ .file) (front : List (List Char)) (s : List Char) :
    segment k front s = Percent.encode inPath s := by
  simp [segment, hk]

/-- Names are kept as they are, but for what is encoded. -/
theorem resolve_names (hk : k ≠ .file) {ss : List (List Char)} (h : ∀ s ∈ ss, isName s)
    (front : List (List Char)) :
    resolve k front ss = front.reverse ++ ss.map (Percent.encode inPath) := by
  induction ss generalizing front with
  | nil => simp [resolve]
  | cons s ss ih =>
    rw [resolve_name (h s (by simp)), ih (fun x hx => h x (by simp [hx])), segment_eq_encode hk]
    simp

theorem parent_suffix (ss : List (List Char)) : parent ss <:+ ss := by
  cases ss with
  | nil => exact List.suffix_rfl
  | cons s ss =>
    rw [parent]
    split
    · exact List.suffix_rfl
    · exact List.suffix_cons s ss

/-- Some of what was in front stays there, and names come after it. -/
structure Walked (ss front names kept : List (List Char)) : Prop where
  kept : kept <:+ front
  names : ∀ n ∈ names, ∃ s ∈ ss, isName s ∧ n = Percent.encode inPath s

theorem walked (hk : k ≠ .file) (ss front : List (List Char)) :
    ∃ names kept, ss.foldl (walk k) front = names ++ kept ∧ Walked ss front names kept := by
  induction ss generalizing front with
  | nil => exact ⟨[], front, rfl, List.suffix_rfl, by simp⟩
  | cons s ss ih =>
    obtain ⟨names, kept, hfold, hkept, hnames⟩ := ih (walk k front s)
    have hmore (n) (hn : n ∈ names) : ∃ t ∈ s :: ss, isName t ∧ n = Percent.encode inPath t := by
      obtain ⟨t, ht, h⟩ := hnames n hn
      exact ⟨t, List.mem_cons_of_mem _ ht, h⟩
    rw [List.foldl_cons, hfold]
    by_cases hs : isName s = true
    · rw [walk_name hs, segment_eq_encode hk] at hkept
      rcases List.suffix_cons_iff.mp hkept with rfl | hkept
      · refine ⟨names ++ [Percent.encode inPath s], front, by simp, List.suffix_rfl, fun n hn => ?_⟩
        rcases List.mem_append.mp hn with hn | hn
        · exact hmore n hn
        · exact ⟨s, by simp, hs, List.mem_singleton.mp hn⟩
      · exact ⟨names, kept, rfl, hkept, hmore⟩
    · have hwalk : walk k front s <:+ front := by
        rw [walk]
        split
        · exact parent_suffix front
        · have hdot : isDot s = true := by simp_all [isName]
          simp [hdot]
      exact ⟨names, kept, rfl, hkept.trans hwalk, hmore⟩

/-- A segment that follows what was in front, and has nothing after it but names that were there,
comes from a name, or it is empty at the end. -/
theorem resolve_eq_append_cons (hk : k ≠ .file) {front ss below : List (List Char)}
    {s : List Char} (nonempty : ss ≠ []) (names : ∀ n ∈ below, isName n)
    (verbatim : ∀ n ∈ below, Percent.encode inPath n = n)
    (h : resolve k front (ss ++ below) = front.reverse ++ s :: below) :
    (s = [] ∧ below = []) ∨ ∃ t ∈ ss, isName t ∧ s = Percent.encode inPath t := by
  cases below with
  | nil =>
    obtain ⟨init, t, rfl⟩ := (List.eq_nil_or_concat ss).resolve_left nonempty
    rw [List.concat_eq_append, List.append_nil, resolve_append_cons] at h
    by_cases ht : isName t = true
    · rw [resolve_name ht, resolve, List.reverse_cons, segment_eq_encode hk] at h
      have hlast := (List.append_inj' h rfl).2
      exact .inr ⟨t, by simp, ht, (List.head_eq_of_cons_eq hlast).symm⟩
    · have hempty : ∃ up, resolve k (init.foldl (walk k) front) [t] = up ++ [[]] := by
        unfold resolve
        split
        · exact ⟨_, List.reverse_cons ..⟩
        · rw [if_pos (by simp_all [isName])]
          exact ⟨_, List.reverse_cons ..⟩
      obtain ⟨up, hup⟩ := hempty
      have hlast := (List.append_inj' (hup.symm.trans h) rfl).2
      exact .inl ⟨(List.head_eq_of_cons_eq hlast).symm, rfl⟩
  | cons b below =>
    have hbelow : (b :: below).map (Percent.encode inPath) = b :: below :=
      (List.map_congr_left verbatim).trans (List.map_id _)
    obtain ⟨ns, kept, hfold, hwalked⟩ := walked hk ss front
    rw [resolve_append_cons, resolve_names hk names, hbelow, hfold,
      List.append_cons front.reverse, List.append_left_inj, ← List.reverse_cons,
      List.reverse_inj] at h
    cases ns with
    | nil =>
      have hlength := hwalked.kept.length_le
      rw [show kept = s :: front from h, List.length_cons] at hlength
      omega
    | cons n ns =>
      obtain rfl := List.head_eq_of_cons_eq h
      exact .inr (hwalked.names n (by simp))

end

end Rest.Url

end ClusterAdmin
