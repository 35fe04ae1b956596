import ClusterAdmin.Proofs.Quotations
import ClusterAdmin.Toml.Document
import Mathlib.Data.List.Basic
import Mathlib.Data.List.TakeDrop

namespace ClusterAdmin.Toml

variable {c : Char} {cs ds t r rest text : List Char} {name : String}
  {n low high fuel depth : Nat}

theorem isDigit_of_mem_toDigits (h : c ∈ Nat.toDigits 10 n) : c.isDigit = true :=
  Nat.isDigit_of_mem_toDigits (by decide) (by decide) h

theorem decimalValue_toDigits (n : Nat) : Json.decimalValue (Nat.toDigits 10 n) = n := by
  have h := Nat.ofDigitChars_ten_toDigits (n := n)
  rwa [Nat.ofDigitChars_eq_foldl] at h

/-- Only zero is written with a zero in front. -/
theorem head_toDigits (pos : 0 < n) : (Nat.toDigits 10 n).head? ≠ some '0' := by
  induction n using Nat.strongRecOn with
  | ind n ih =>
    by_cases small : n < 10
    · rw [Nat.toDigits_of_lt_base small]
      have hall : ∀ n < 10, 0 < n → [n.digitChar].head? ≠ some '0' := by decide
      exact hall n small pos
    · rw [Nat.toDigits_of_base_le (by decide) (by omega),
        List.head?_append_of_ne_nil _ Nat.toDigits_ne_nil]
      exact ih (n / 10) (by omega) (by omega)

/-- What a class of characters has to do with the front of a text ends at the first that is not of
the class. -/
theorem span_append {p : Char → Bool} (front : ∀ c ∈ ds, p c = true) (stop : p c = false) :
    (ds ++ c :: rest).span p = (ds, c :: rest) := by
  rw [List.span_eq_takeWhile_dropWhile, List.takeWhile_append_of_pos front,
    List.dropWhile_append_of_pos front, List.takeWhile_cons_of_neg (by simp [stop]),
    List.dropWhile_cons_of_neg (by simp [stop]), List.append_nil]

theorem wholeDigits?_toDigits (n : Nat) (rest : List Char) :
    wholeDigits? (Nat.toDigits 10 n ++ '\n' :: rest) = some (Nat.toDigits 10 n, '\n' :: rest) := by
  have digits : ∀ c ∈ Nat.toDigits 10 n, c.isDigit = true := fun _ => isDigit_of_mem_toDigits
  have noZero : ¬((Nat.toDigits 10 n).length > 1 ∧ (Nat.toDigits 10 n).head? = some '0') := by
    rintro ⟨long, zero⟩
    rcases Nat.eq_zero_or_pos n with rfl | pos
    · exact absurd long (by decide)
    · exact head_toDigits pos zero
  have nonempty : (Nat.toDigits 10 n).isEmpty = false := by simp [Nat.toDigits_ne_nil]
  have line : Char.isDigit '\n' = false := by decide
  simp only [wholeDigits?, decimals?, digits?, span_append digits line, nonempty]
  simp [noZero]

/-- Digits up to the end of a line. -/
def DigitLine (cs : List Char) : Prop :=
  ∃ ds rest, (∀ c ∈ ds, c.isDigit = true) ∧ cs = ds ++ '\n' :: rest

theorem DigitLine.exists_cons (h : DigitLine cs) : ∃ c t, cs = c :: t := by
  obtain ⟨ds, rest, -, rfl⟩ := h
  cases ds <;> exact ⟨_, _, rfl⟩

theorem DigitLine.ne {x : Char} (h : DigitLine (c :: t)) (digit : x.isDigit = false)
    (line : x ≠ '\n') : c ≠ x := by
  obtain ⟨ds, rest, digits, h⟩ := h
  cases ds with
  | nil => exact List.head_eq_of_cons_eq h ▸ line.symm
  | cons d ds =>
    rintro rfl
    have := digits d (.head _)
    rw [← List.head_eq_of_cons_eq h, digit] at this
    exact absurd this (by decide)

theorem DigitLine.of_field? {v : Nat} (h : DigitLine cs) (hv : field? n low high cs = some (v, t)) :
    DigitLine t := by
  obtain ⟨ds, rest, digits, rfl⟩ := h
  simp only [field?, Option.ite_none_right_eq_some, Option.some.injEq, Prod.mk.injEq] at hv
  obtain ⟨⟨long, all, -⟩, -, rfl⟩ := hv
  have short : n ≤ ds.length := by
    refine Nat.le_of_not_lt fun beyond => ?_
    have mem : '\n' ∈ (ds ++ '\n' :: rest).take n := by
      rw [List.take_append]
      obtain ⟨k, hk⟩ : ∃ k, n - ds.length = k + 1 := ⟨n - ds.length - 1, by omega⟩
      simp [hk]
    exact absurd (List.all_eq_true.mp all _ mem) (by decide)
  exact ⟨ds.drop n, rest, fun c hc => digits c (List.mem_of_mem_drop hc),
    List.drop_append_of_le_length short⟩

theorem DigitLine.dateTime?_eq_none (h : DigitLine cs) : dateTime? cs = none := by
  have date : date? cs = none := by
    rw [date?]
    cases hv : field? 4 0 9999 cs with
    | none => rfl
    | some found =>
      obtain ⟨year, t⟩ := found
      obtain ⟨c, t, rfl⟩ := (h.of_field? hv).exists_cons
      have := (h.of_field? hv).ne (x := '-') (by decide) (by decide)
      simp [this]
  have time : time? cs = none := by
    rw [time?]
    cases hv : field? 2 0 23 cs with
    | none => rfl
    | some found =>
      obtain ⟨hour, t⟩ := found
      obtain ⟨c, t, rfl⟩ := (h.of_field? hv).exists_cons
      have := (h.of_field? hv).ne (x := ':') (by decide) (by decide)
      simp [this]
  simp [dateTime?, date, time]

theorem dateTime?_minus (cs : List Char) : dateTime? ('-' :: cs) = none := by
  have none {n : Nat} (low high : Nat) : field? (n + 1) low high ('-' :: cs) = none := by
    simp [field?, show Char.isDigit '-' = false by decide]
  simp [dateTime?, date?, time?, none]

theorem float?_toDigits (n : Nat) (rest : List Char) :
    float? (Nat.toDigits 10 n ++ '\n' :: rest) = none ∧
      float? ('-' :: Nat.toDigits 10 n ++ '\n' :: rest) = none := by
  have line : DigitLine (Nat.toDigits 10 n ++ '\n' :: rest) :=
    ⟨_, rest, fun _ => isDigit_of_mem_toDigits, rfl⟩
  have whole := wholeDigits?_toDigits n rest
  have power : float?.exponent? ('\n' :: rest) = none := by simp [float?.exponent?]
  obtain ⟨c, t, ht⟩ := line.exists_cons
  rw [List.cons_append, ht]
  rw [ht] at line whole
  have plus := line.ne (x := '+') (by decide) (by decide)
  have minus := line.ne (x := '-') (by decide) (by decide)
  have inf := line.ne (x := 'i') (by decide) (by decide)
  have nan := line.ne (x := 'n') (by decide) (by decide)
  constructor <;> simp [float?, sign, plus, minus, inf, nan, whole, power]

/-- A number that is not marked as one in another base. -/
theorem integer?_decimal (negative : Bool) {v : Int}
    (base : ∀ b ∈ ['x', 'o', 'b'], ∀ r, cs ≠ '0' :: b :: r)
    (minus : sign cs = (negative, t)) (whole : wholeDigits? t = some (ds, rest))
    (value : (if negative then -(Json.decimalValue ds : Int) else Json.decimalValue ds) = v)
    (fits : Word.minInt64 ≤ v ∧ v ≤ Word.maxInt64) : integer? cs = some (v, rest) := by
  rw [integer?]
  · simp only [minus, whole, value, Option.bind_eq_bind, Option.bind_some, if_pos fits]
  · exact base 'x' (by simp)
  · exact base 'o' (by simp)
  · exact base 'b' (by simp)

theorem integer?_toDigits (fits : (n : Int) ≤ Word.maxInt64) (rest : List Char) :
    integer? (Nat.toDigits 10 n ++ '\n' :: rest) = some ((n : Int), '\n' :: rest) := by
  obtain ⟨c, ds, hds⟩ := List.exists_cons_of_ne_nil (Nat.toDigits_ne_nil (b := 10) (n := n))
  have digits : ∀ d ∈ c :: ds, d.isDigit = true := by
    rw [← hds]
    exact fun _ => isDigit_of_mem_toDigits
  have line : DigitLine (c :: (ds ++ '\n' :: rest)) := ⟨c :: ds, rest, digits, rfl⟩
  have tail : DigitLine (ds ++ '\n' :: rest) := ⟨ds, rest, fun d h => digits d (.tail _ h), rfl⟩
  have whole := wholeDigits?_toDigits n rest
  rw [hds, List.cons_append] at whole ⊢
  refine integer?_decimal false ?_ ?_ whole ?_ ⟨?_, fits⟩
  · rintro b hb r h
    rw [List.tail_eq_of_cons_eq h] at tail
    have : b.isDigit = false ∧ b ≠ '\n' := by
      simp only [List.mem_cons, List.not_mem_nil, or_false] at hb
      rcases hb with rfl | rfl | rfl <;> decide
    exact tail.ne this.1 this.2 rfl
  · have plus := line.ne (x := '+') (by decide) (by decide)
    have minus := line.ne (x := '-') (by decide) (by decide)
    simp [sign, plus, minus]
  · rw [← hds, decimalValue_toDigits]
    rfl
  · simp only [Word.minInt64]
    omega

theorem integer?_minus_toDigits (fits : Word.minInt64 ≤ -(n : Int)) (rest : List Char) :
    integer? ('-' :: Nat.toDigits 10 n ++ '\n' :: rest) = some (-(n : Int), '\n' :: rest) := by
  refine integer?_decimal true ?_ rfl (wholeDigits?_toDigits n rest) ?_ ⟨fits, ?_⟩
  · simp
  · rw [decimalValue_toDigits]
    rfl
  · simp only [Word.maxInt64]
    omega

/-- The text stands for the value at the end of a line. -/
structure Shows (text : List Char) (v : Json) : Prop where
  /-- It does not start with a space, which would belong to what stands before it. -/
  start : text.head?.any isSpace = false
  read : ∀ fuel depth rest,
    value? (fuel + 1) depth (text ++ '\n' :: rest) = some (v, '\n' :: rest)

theorem shows_bool (b : Bool) : Shows (if b then "true" else "false").toList (.bool b) := by
  cases b
  · exact ⟨by decide, fun _ _ _ => by simp [value?]⟩
  · exact ⟨by decide, fun _ _ _ => by simp [value?]⟩

/-- What is none of the other values is a number. -/
theorem value?_number {v : Int} (start : c = '-' ∨ c.isDigit = true)
    (date : dateTime? (c :: t) = none) (float : float? (c :: t) = none)
    (whole : integer? (c :: t) = some (v, rest)) :
    value? (fuel + 1) depth (c :: t) = some (.int v, rest) := by
  have ne {x : Char} (minus : x ≠ '-') (digit : x.isDigit = false) : c ≠ x := by
    rintro rfl
    exact start.elim minus (fun h => by simp [digit] at h)
  have true' := ne (x := 't') (by decide) (by decide)
  have false' := ne (x := 'f') (by decide) (by decide)
  have list := ne (x := '[') (by decide) (by decide)
  have table := ne (x := '\x7b') (by decide) (by decide)
  have quote := ne (x := '"') (by decide) (by decide)
  have apostrophe := ne (x := '\'') (by decide) (by decide)
  simp [value?, true', false', quote, apostrophe, date, float, whole]

theorem toList_toString_natCast (n : Nat) : (toString (n : Int)).toList = Nat.toDigits 10 n := by
  rw [Int.toString_eq_repr, Int.repr_eq_if, if_pos (by omega), Int.toNat_natCast,
    Nat.repr_eq_ofList_toDigits, String.toList_ofList]

theorem toList_toString_neg (pos : 0 < n) :
    (toString (-(n : Int))).toList = '-' :: Nat.toDigits 10 n := by
  rw [Int.toString_eq_repr, Int.repr_eq_if, if_neg (by omega), Int.neg_neg, Int.toNat_natCast,
    Nat.repr_eq_ofList_toDigits]
  simp

theorem shows_toDigits (fits : (n : Int) ≤ Word.maxInt64) :
    Shows (Nat.toDigits 10 n) (.int n) := by
  obtain ⟨c, ds, hds⟩ := List.exists_cons_of_ne_nil (Nat.toDigits_ne_nil (b := 10) (n := n))
  have digit : c.isDigit = true := isDigit_of_mem_toDigits (n := n) (by rw [hds]; exact .head _)
  refine ⟨?_, fun fuel depth rest => ?_⟩
  · have space : c ≠ ' ' := by rintro rfl; exact absurd digit (by decide)
    have tab : c ≠ '\t' := by rintro rfl; exact absurd digit (by decide)
    simp [hds, isSpace, space, tab]
  · have line : DigitLine (Nat.toDigits 10 n ++ '\n' :: rest) :=
      ⟨_, rest, fun _ => isDigit_of_mem_toDigits, rfl⟩
    have date := line.dateTime?_eq_none
    have float := (float?_toDigits n rest).1
    have whole := integer?_toDigits fits rest
    rw [hds, List.cons_append] at date float whole ⊢
    exact value?_number (.inr digit) date float whole

theorem shows_minus_toDigits (fits : Word.minInt64 ≤ -(n : Int)) :
    Shows ('-' :: Nat.toDigits 10 n) (.int (-(n : Int))) :=
  ⟨by simp [isSpace], fun _ _ rest => value?_number (.inl rfl) (dateTime?_minus _)
    (float?_toDigits n rest).2 (integer?_minus_toDigits fits rest)⟩

theorem shows_int {v : Int} (fits : Word.minInt64 ≤ v ∧ v ≤ Word.maxInt64) :
    Shows (toString v).toList (.int v) := by
  rcases Int.lt_or_le v 0 with neg | nonneg
  · obtain ⟨n, rfl⟩ : ∃ n : Nat, v = -(n : Int) := ⟨v.natAbs, by omega⟩
    rw [toList_toString_neg (by omega)]
    exact shows_minus_toDigits fits.1
  · obtain ⟨n, rfl⟩ := Int.eq_ofNat_of_zero_le nonneg
    rw [toList_toString_natCast]
    exact shows_toDigits fits.2

theorem exists_quote_writeChars (cs : List Char) :
    ∃ q t, writeChars cs = q :: t ∧ (q = '"' ∨ q = '\'') := by
  rw [writeChars]
  cases Form.of cs
  · exact ⟨'"', _, rfl, .inl rfl⟩
  · exact ⟨'\'', _, rfl, .inr rfl⟩
  · exact ⟨'"', _, rfl, .inl rfl⟩
  · exact ⟨'\'', _, rfl, .inr rfl⟩

theorem shows_text (s : String) : Shows (writeText s).toList (.text s) := by
  obtain ⟨q, t, hq, quote⟩ := exists_quote_writeChars s.toList
  rw [writeText, String.toList_ofList]
  refine ⟨?_, fun fuel depth rest => ?_⟩
  · rcases quote with rfl | rfl <;> simp [hq, isSpace]
  · have read := text?_writeChars s.toList (show ∀ c ∈ ('\n' :: rest).head?, _ by simp)
    rw [hq, List.cons_append] at read ⊢
    rcases quote with rfl | rfl <;> simp [value?, read]

/-- A key that stands without quotes. -/
def BareKey (name : String) : Prop := name.toList ≠ [] ∧ ∀ c ∈ name.toList, isBareKey c = true

theorem isBareKey_ne {x : Char} (h : isBareKey c = true) (hx : isBareKey x = false) : c ≠ x := by
  rintro rfl
  exact absurd (h.symm.trans hx) (by decide)

theorem skipSpaces_cons (h : isSpace c = false) : skipSpaces (c :: t) = c :: t := by
  simp [skipSpaces, h]

/-- A key ends where no more of it can follow; spaces behind it are taken with it. -/
theorem path?_bare (bare : BareKey name) (stop : isBareKey c = false) {d : Char}
    (after : skipSpaces (c :: t) = d :: r) (point : d ≠ '.') :
    path? (name.toList ++ c :: t) = some ([name], d :: r) := by
  obtain ⟨b, bs, hname⟩ := List.exists_cons_of_ne_nil bare.1
  have hb := bare.2 b (by rw [hname]; exact .head _)
  have space : isSpace b = false := by
    have := isBareKey_ne hb (x := ' ') (by decide)
    have := isBareKey_ne hb (x := '\t') (by decide)
    simp [isSpace, *]
  have quote := isBareKey_ne hb (x := '"') (by decide)
  have apostrophe := isBareKey_ne hb (x := '\'') (by decide)
  have part : keyPart? (name.toList ++ c :: t) = some (name, c :: t) := by
    rw [keyPart?]
    · have nonempty : name.toList.isEmpty = false := by rw [hname]; rfl
      simp only [span_append bare.2 stop, nonempty, Bool.false_eq_true, if_false,
        String.ofList_toList]
    · simp [hname, quote]
    · simp [hname, apostrophe]
  have front : skipSpaces (name.toList ++ c :: t) = name.toList ++ c :: t := by
    rw [hname, List.cons_append, skipSpaces_cons space]
  rw [path?, key?, front, part]
  simp [after, point]

theorem lineEnd?_line (rest : List Char) : lineEnd? ('\n' :: rest) = some rest := by
  simp [lineEnd?, skipSpaces, isSpace, skipComment, newline?]

theorem Shows.skipSpaces {v : Json} (h : Shows text v) (rest : List Char) :
    skipSpaces (text ++ '\n' :: rest) = text ++ '\n' :: rest := by
  cases text with
  | nil => simp [Toml.skipSpaces, isSpace]
  | cons c t =>
    have := h.start
    simp only [List.head?_cons, Option.any_some] at this
    exact skipSpaces_cons this

theorem pair?_setting {v : Json} (bare : BareKey name) (value : Shows text v)
    (rest : List Char) :
    pair? (name.toList ++ ' ' :: '=' :: ' ' :: (text ++ '\n' :: rest)) =
      some (([name], v), rest) := by
  have equals : skipSpaces (' ' :: '=' :: ' ' :: (text ++ '\n' :: rest)) =
      '=' :: ' ' :: (text ++ '\n' :: rest) := by simp [skipSpaces, isSpace]
  have path := path?_bare bare (by decide) equals (by decide)
  have spaces : skipSpaces (' ' :: (text ++ '\n' :: rest)) = text ++ '\n' :: rest :=
    value.skipSpaces rest
  simp [pair?, path, spaces, value.read, lineEnd?_line]

theorem header?_table (bare : BareKey name) :
    header? ('[' :: (name.toList ++ ']' :: '\n' :: rest)) = some ((false, [name]), rest) := by
  have path := path?_bare bare (c := ']') (t := '\n' :: rest) (by decide)
    (skipSpaces_cons (by decide)) (by decide)
  obtain ⟨b, bs, hname⟩ := List.exists_cons_of_ne_nil bare.1
  have bracket := isBareKey_ne (bare.2 b (by rw [hname]; exact .head _)) (x := '[') (by decide)
  rw [hname, List.cons_append] at path ⊢
  simp [header?, bracket, path, lineEnd?_line]

theorem skipLines_cons (h : isBareKey c = true ∨ c = '[') (fuel : Nat) (t : List Char) :
    skipLines (fuel + 1) (c :: t) = c :: t := by
  have ne {x : Char} (key : isBareKey x = false) (open' : x ≠ '[') : c ≠ x := by
    rintro rfl
    exact h.elim (fun h => by simp [key] at h) open'
  have space := ne (x := ' ') (by decide) (by decide)
  have tab := ne (x := '\t') (by decide) (by decide)
  have comment := ne (x := '#') (by decide) (by decide)
  have line := ne (x := '\n') (by decide) (by decide)
  have ret := ne (x := '\r') (by decide) (by decide)
  simp [skipLines, skipSpaces, isSpace, space, tab, skipComment, comment, newline?, line, ret]

theorem skipLines_line (fuel : Nat) (t : List Char) :
    skipLines (fuel + 1) ('\n' :: t) = skipLines fuel t := by
  simp [skipLines, skipSpaces, isSpace, skipComment, newline?]

/-- What the rest of a text makes of the document so far; `here` is the header above it. -/
def Reads (here : List String) (document : Fields) (cs : List Char) (result : Fields) : Prop :=
  ∀ fuel, cs.length < fuel → lines? fuel here document cs = some result

variable {here : List String} {document next result : Fields}

theorem Reads.nil (here : List String) (document : Fields) : Reads here document [] document := by
  intro fuel enough
  obtain ⟨fuel, rfl⟩ := Nat.exists_eq_add_one.mpr enough
  simp [lines?, skipLines, skipSpaces, skipComment, newline?]

theorem Reads.blank (h : Reads here document rest result) :
    Reads here document ('\n' :: rest) result := by
  intro fuel enough
  have now := h fuel (Nat.lt_of_succ_lt enough)
  obtain ⟨fuel, rfl⟩ := Nat.exists_eq_add_one.mpr (Nat.zero_lt_of_lt enough)
  rw [lines?] at now ⊢
  rwa [List.length_cons, skipLines_line]

theorem Reads.header (bare : BareKey name) (change : openTable [name] document = some next)
    (h : Reads [name] next rest result) :
    Reads here document ('[' :: (name.toList ++ ']' :: '\n' :: rest)) result := by
  intro fuel enough
  obtain ⟨fuel, rfl⟩ := Nat.exists_eq_add_one.mpr (Nat.zero_lt_of_lt enough)
  have later := h fuel (by simp at enough; omega)
  rw [lines?, skipLines_cons (.inr rfl)]
  simp [header?_table bare, change, later]

theorem Reads.setting {v : Json} (bare : BareKey name) (value : Shows text v)
    (change : underHeaders here (assign [name] v) document = some next)
    (h : Reads here next rest result) :
    Reads here document (name.toList ++ ' ' :: '=' :: ' ' :: (text ++ '\n' :: rest)) result := by
  intro fuel enough
  obtain ⟨fuel, rfl⟩ := Nat.exists_eq_add_one.mpr (Nat.zero_lt_of_lt enough)
  have pair := pair?_setting bare value rest
  have later := h fuel (by simp at enough; omega)
  obtain ⟨b, bs, hname⟩ := List.exists_cons_of_ne_nil bare.1
  have key := bare.2 b (by rw [hname]; exact .head _)
  have bracket := isBareKey_ne key (x := '[') (by decide)
  rw [hname, List.cons_append] at pair ⊢
  rw [lines?, skipLines_cons (.inl key)]
  simp [bracket, pair, change, later]

variable {table : String} {node old : Node} {fields : Fields} {settings : List (String × Json)}
  {sections : List (String × List (String × Json))} {v : Json}

theorem find?_eq_none (new : name ∉ document.map (·.1)) : find? document name = none := by
  simp only [find?, Option.map_eq_none_iff, List.find?_eq_none, decide_eq_true_eq]
  exact fun f hf h => new (h ▸ List.mem_map_of_mem hf)

theorem put_append (new : name ∉ document.map (·.1)) (rest : Fields) :
    put name node (document ++ rest) = document ++ put name node rest := by
  induction document with
  | nil => rfl
  | cons f document ih =>
    rw [List.map_cons] at new
    rw [List.cons_append, put, if_neg (List.ne_of_not_mem_cons new).symm,
      ih (List.not_mem_of_not_mem_cons new)]
    rfl

theorem put_new (new : name ∉ document.map (·.1)) :
    put name node document = document ++ [(name, node)] := by
  simpa [put] using put_append new []

theorem put_last (new : name ∉ document.map (·.1)) :
    put name node (document ++ [(name, old)]) = document ++ [(name, node)] := by
  simpa [put] using put_append new [(name, old)]

theorem find?_last (new : name ∉ document.map (·.1)) :
    find? (document ++ [(name, node)]) name = some node := by
  have := find?_eq_none new
  simp only [find?, Option.map_eq_none_iff] at this
  simp [find?, this]

theorem openTable_new (new : table ∉ document.map (·.1)) :
    openTable [table] document = some (document ++ [(table, .table .header [])]) := by
  simp [openTable, underHeaders, find?_eq_none new, put_new new]

theorem assign_new (new : table ∉ document.map (·.1)) (key : name ∉ fields.map (·.1)) :
    underHeaders [table] (assign [name] v) (document ++ [(table, .table .header fields)]) =
      some (document ++ [(table, .table .header (fields ++ [(name, .value v)]))]) := by
  simp [underHeaders, assign, find?_last new, find?_eq_none key, put_new key, put_last new]

/-- The settings as the fields of a table. -/
def leaves (settings : List (String × Json)) : Fields := settings.map fun (n, v) => (n, .value v)

/-- The sections as tables with headers. -/
def tables (sections : List (String × List (String × Json))) : Fields :=
  sections.map fun (n, settings) => (n, .table .header (leaves settings))

theorem fieldsToJson_leaves : fieldsToJson (leaves settings) = settings := by
  induction settings with
  | nil => rfl
  | cons f settings ih => simpa [leaves, fieldsToJson, Node.toJson] using ih

theorem fieldsToJson_tables :
    fieldsToJson (tables sections) = sections.map fun (n, settings) => (n, .object settings) := by
  induction sections with
  | nil => rfl
  | cons s sections ih => simpa [tables, fieldsToJson, Node.toJson, fieldsToJson_leaves] using ih

/-- Settings, each on a line of its own. -/
inductive SettingLines : List (String × Json) → List Char → Prop where
  | nil : SettingLines [] []
  | cons {name : String} {v : Json} {text : List Char} {settings : List (String × Json)}
      {cs : List Char} (bare : BareKey name) (value : Shows text v)
      (rest : SettingLines settings cs) :
      SettingLines ((name, v) :: settings)
        (name.toList ++ ' ' :: '=' :: ' ' :: (text ++ '\n' :: cs))

/-- Sections, each a header and its settings, with empty lines between them. -/
inductive SectionLines : List (String × List (String × Json)) → List Char → Prop where
  | nil : SectionLines [] []
  | blank {sections : List (String × List (String × Json))} {cs : List Char}
      (rest : SectionLines sections cs) : SectionLines sections ('\n' :: cs)
  | cons {name : String} {settings : List (String × Json)} {ds : List Char}
      {sections : List (String × List (String × Json))} {cs : List Char}
      (bare : BareKey name) (lines : SettingLines settings ds) (rest : SectionLines sections cs) :
      SectionLines ((name, settings) :: sections)
        ('[' :: (name.toList ++ ']' :: '\n' :: (ds ++ cs)))

theorem SettingLines.reads (h : SettingLines settings ds) (new : table ∉ document.map (·.1))
    (fields : Fields) (nodup : (fields.map (·.1) ++ settings.map (·.1)).Nodup)
    (later : Reads [table] (document ++ [(table, .table .header (fields ++ leaves settings))])
      rest result) :
    Reads [table] (document ++ [(table, .table .header fields)]) (ds ++ rest) result := by
  induction h generalizing fields with
  | nil => simpa [leaves] using later
  | @cons name v text settings cs bare value lines ih =>
    have key : name ∉ fields.map (·.1) := fun h =>
      (List.nodup_append.mp nodup).2.2 name h name (by simp) rfl
    have step := ih (fields ++ [(name, .value v)]) (by simpa using nodup)
      (by simpa [leaves] using later)
    simpa using step.setting bare value (assign_new new key)

theorem SectionLines.reads (h : SectionLines sections cs) (here : List String) (document : Fields)
    (names : (document.map (·.1) ++ sections.map (·.1)).Nodup)
    (keys : ∀ s ∈ sections, (s.2.map (·.1)).Nodup) :
    Reads here document cs (document ++ tables sections) := by
  induction h generalizing document here with
  | nil => simpa [tables] using Reads.nil here document
  | blank _ ih => exact (ih here document names keys).blank
  | @cons name settings ds sections cs bare lines rest ih =>
    have new : name ∉ document.map (·.1) := fun h =>
      (List.nodup_append.mp names).2.2 name h name (by simp) rfl
    have later := ih [name] (document ++ [(name, .table .header (leaves settings))])
      (by simpa using names) (fun s hs => keys s (.tail _ hs))
    have body := lines.reads new [] (by simpa using keys _ (.head _))
      (by simpa [tables] using later)
    exact body.header bare (openTable_new new)

/-- A text of sections is read as a table of their tables. -/
theorem SectionLines.parse? (h : SectionLines sections cs) (names : (sections.map (·.1)).Nodup)
    (keys : ∀ s ∈ sections, (s.2.map (·.1)).Nodup) :
    parse? (String.ofList cs) =
      some (.object (sections.map fun (n, settings) => (n, .object settings))) := by
  have mark : ∀ r, cs ≠ '\ufeff' :: r := by
    rintro r rfl
    cases h
  have reads := h.reads [] [] names keys _ (Nat.lt_succ_self cs.length)
  simp only [Toml.parse?, String.toList_ofList, reads, List.nil_append, fieldsToJson_tables,
    Option.bind_eq_bind, Option.bind_some]
  rfl

end ClusterAdmin.Toml
