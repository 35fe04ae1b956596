import ClusterAdmin.Proofs.Segments
import ClusterAdmin.Toml.Lexeme
import ClusterAdmin.Toml.Writer
import Mathlib.Tactic.SplitIfs

namespace ClusterAdmin.Toml

variable {c q : Char} {cs text seen rest : List Char} {own k fuel : Nat}

theorem isPlain_of_not_isControl (h : isControl c = false) (line : c ≠ '\n') :
    isPlain c = true := by
  simp only [isControl, Bool.or_eq_false_iff, Bool.and_eq_false_iff, decide_eq_false_iff_not,
    Decidable.not_not] at h
  simp only [isPlain, Bool.or_eq_true, Bool.and_eq_true, decide_eq_true_eq]
  have : c = '\t' ∨ 32 ≤ c.toNat := by
    rcases h.1 with (h | h) | h
    · exact .inr (by omega)
    · exact .inl h
    · exact absurd h line
  exact this.imp_right (⟨·, h.2⟩)

theorem escape?_control (h : isControl c = true) (t : List Char) :
    escape? ('u' :: '0' :: '0' :: (Bytes.hexDigit (c.toNat / 16)).toUpper ::
      (Bytes.hexDigit (c.toNat % 16)).toUpper :: t) = some (c, t) := by
  have small : c.toNat < 128 := by
    simp only [isControl, Bool.or_eq_true, Bool.and_eq_true, decide_eq_true_eq] at h
    omega
  have zero : Bytes.hexValue? '0' = some 0 := by decide
  have high := Text.Percent.hexValue?_hexDigit (c.toNat / 16) (by omega)
  have low := Text.Percent.hexValue?_hexDigit (c.toNat % 16) (by omega)
  have whole : 16 * (c.toNat / 16) + c.toNat % 16 = c.toNat := by omega
  simp [escape?, hexDigits?, zero, high, low, whole, scalar?, show c.toNat < 0xD800 by omega]

/-- A character stands as an escape that gives it back, or as it is. -/
theorem escaped_cases (c : Char) :
    (∃ e, escaped c = '\\' :: e ∧ ∀ t, escape? (e ++ t) = some (c, t)) ∨
      (escaped c = [c] ∧ c ≠ '\\' ∧ (c = '\n' ∨ isPlain c = true)) := by
  unfold escaped
  split_ifs with backspace tab feed ret slash control
  · exact .inl ⟨['b'], rfl, fun t => by rw [backspace]; rfl⟩
  · exact .inl ⟨['t'], rfl, fun t => by rw [tab]; rfl⟩
  · exact .inl ⟨['f'], rfl, fun t => by rw [feed]; rfl⟩
  · exact .inl ⟨['r'], rfl, fun t => by rw [ret]; rfl⟩
  · exact .inl ⟨['\\'], rfl, fun t => by rw [slash]; rfl⟩
  · exact .inl ⟨_, rfl, escape?_control control⟩
  · have := isPlain_of_not_isControl (by simpa using control) (c := c)
    exact .inr ⟨rfl, slash, Classical.or_iff_not_imp_left.mpr this⟩

theorem basic?_writeEscaped (line : '\n' ∉ cs) (enough : cs.length < fuel) :
    basic? fuel seen (writeEscaped 0 0 cs ++ '"' :: rest) = some (seen.reverse ++ cs, rest) := by
  induction cs generalizing fuel seen with
  | nil =>
    obtain ⟨fuel, rfl⟩ := Nat.exists_eq_add_one.mpr enough
    simp [writeEscaped, basic?]
  | cons c cs ih =>
    obtain ⟨fuel, rfl⟩ := Nat.exists_eq_add_one.mpr (Nat.zero_lt_of_lt enough)
    have ih : basic? fuel (c :: seen) (writeEscaped 0 0 cs ++ '"' :: rest) =
        some (seen.reverse ++ c :: cs, rest) := by
      rw [ih (List.not_mem_of_not_mem_cons line) (Nat.lt_of_succ_lt_succ enough)]
      simp
    by_cases quote : c = '"'
    · subst quote
      simpa [writeEscaped, basic?, escape?] using ih
    · rcases escaped_cases c with ⟨e, he, back⟩ | ⟨he, slash, plain⟩
      · simpa [writeEscaped, quote, he, basic?, back] using ih
      · have plain := plain.resolve_left (List.ne_of_not_mem_cons line).symm
        simpa [writeEscaped, quote, he, basic?, slash, plain] using ih

theorem literal?_append (plain : ∀ c ∈ cs, isPlain c = true) (apart : '\'' ∉ cs) :
    literal? seen (cs ++ '\'' :: rest) = some (seen.reverse ++ cs, rest) := by
  induction cs generalizing seen with
  | nil => simp [literal?]
  | cons c cs ih =>
    have hc := List.ne_of_not_mem_cons apart
    rw [List.cons_append, literal?, if_neg hc.symm, if_pos (plain c (.head _)),
      ih (fun c h => plain c (.tail _ h)) (List.not_mem_of_not_mem_cons apart)]
    simp

/-- The text that stands for `cs` after `k` quotes starts with quotes of its own that make `own` of
them at most. They either end it, or another character comes after them. -/
def FewQuotes (own : Nat) (q : Char) (k : Nat) (cs text : List Char) : Prop :=
  ∃ n, k + n ≤ own ∧ ((cs = List.replicate n q ∧ text = cs) ∨
    ∃ c t, text = List.replicate n q ++ c :: t ∧ c ≠ q)

theorem FewQuotes.cons (h : FewQuotes own q (k + 1) cs text) :
    FewQuotes own q k (q :: cs) (q :: text) := by
  obtain ⟨n, hn, ⟨rfl, rfl⟩ | ⟨c, t, rfl, hc⟩⟩ := h
  · exact ⟨n + 1, by omega, .inl ⟨rfl, rfl⟩⟩
  · exact ⟨n + 1, by omega, .inr ⟨c, t, rfl, hc⟩⟩

theorem fewQuotes_writeEscaped (few : k ≤ own) (cs : List Char) :
    FewQuotes own '"' k cs (writeEscaped own k cs) := by
  induction cs generalizing k with
  | nil => exact ⟨0, few, .inl ⟨rfl, rfl⟩⟩
  | cons c cs ih =>
    rw [writeEscaped]
    split_ifs with quote more
    · subst quote
      exact (ih more).cons
    · exact ⟨0, few, .inr ⟨'\\', _, rfl, by decide⟩⟩
    · rcases escaped_cases c with ⟨e, he, -⟩ | ⟨he, -⟩
      · exact ⟨0, few, .inr ⟨'\\', _, by rw [he]; rfl, by decide⟩⟩
      · exact ⟨0, few, .inr ⟨c, _, by rw [he]; rfl, quote⟩⟩

theorem fewQuotes_of_longestRun (h : longestRun q k cs ≤ own) : FewQuotes own q k cs cs := by
  induction cs generalizing k with
  | nil => exact ⟨0, h, .inl ⟨rfl, rfl⟩⟩
  | cons c cs ih =>
    rw [longestRun] at h
    split_ifs at h with quote
    · subst quote
      exact (ih h).cons
    · exact ⟨0, by omega, .inr ⟨c, cs, rfl, quote⟩⟩

/-- A text without quotes of its own is not taken for one between triple quotes. -/
theorem FewQuotes.not_triple (h : FewQuotes 0 q 0 cs text) (after : ∀ c ∈ rest.head?, c ≠ q)
    (r : List Char) : text ++ q :: rest ≠ q :: q :: r := by
  obtain ⟨n, hn, h⟩ := h
  obtain rfl : n = 0 := by omega
  obtain ⟨rfl, rfl⟩ | ⟨c, t, rfl, hc⟩ := h
  · rintro h
    obtain rfl : rest = q :: r := List.tail_eq_of_cons_eq h
    exact after q rfl rfl
  · rintro h
    exact hc (List.head_eq_of_cons_eq h)

/-- A text over many lines is closed by quotes behind its last character alone, which may itself
be a quote or two. -/
theorem FewQuotes.close? (h : FewQuotes 2 q k cs text) (after : ∀ c ∈ rest.head?, c ≠ q)
    (seen : List Char) :
    close? q seen (text ++ q :: q :: q :: rest) = some (seen.reverse ++ cs, rest) ∨
      (close? q seen (text ++ q :: q :: q :: rest) = none ∧ text ≠ []) := by
  obtain ⟨n, hn, ⟨rfl, rfl⟩ | ⟨c, t, rfl, hc⟩⟩ := h
  · have run : List.replicate n q ++ q :: q :: q :: rest = List.replicate (n + 3) q ++ rest := by
      rw [← List.replicate_append_replicate, List.append_assoc]
      rfl
    have rest_run : rest.takeWhile (· = q) = [] := by
      cases rest <;> simp_all
    left
    rw [Toml.close?, run, List.takeWhile_append_of_pos (by simp), rest_run]
    simp [show min n 2 = n by omega]
  · right
    rw [Toml.close?, List.append_assoc, List.takeWhile_append_of_pos (by simp)]
    simp [hc, show n < 3 by omega]

theorem newline?_of_isPlain (h : isPlain c = true) (t : List Char) : newline? (c :: t) = none := by
  have line : c ≠ '\n' := by rintro rfl; exact absurd h (by decide)
  have ret : c ≠ '\r' := by rintro rfl; exact absurd h (by decide)
  simp [newline?, line, ret]

theorem multiBasic?_close {found : List Char × List Char} (h : close? '"' seen cs = some found) :
    multiBasic? (fuel + 1) seen cs = some found := by
  simp [multiBasic?, h]

theorem multiBasic?_escape {t r : List Char} (opened : close? '"' seen ('\\' :: t) = none)
    (h : escape? t = some (c, r)) :
    multiBasic? (fuel + 1) seen ('\\' :: t) = multiBasic? fuel (c :: seen) r := by
  simp [multiBasic?, opened, h]

theorem multiBasic?_char {t : List Char} (opened : close? '"' seen (c :: t) = none)
    (slash : c ≠ '\\') (h : c = '\n' ∨ isPlain c = true) :
    multiBasic? (fuel + 1) seen (c :: t) = multiBasic? fuel (c :: seen) t := by
  rcases h with rfl | plain
  · simp [multiBasic?, opened, newline?]
  · simp [multiBasic?, opened, newline?_of_isPlain plain, plain]

theorem multiBasic?_writeEscaped (few : k ≤ 2) (enough : cs.length < fuel)
    (after : ∀ c ∈ rest.head?, c ≠ '"') :
    multiBasic? fuel seen (writeEscaped 2 k cs ++ '"' :: '"' :: '"' :: rest) =
      some (seen.reverse ++ cs, rest) := by
  -- the reader looks for the closing quotes before each character, the writer counts those that it
  -- wrote: `k` says how many of them are behind both
  induction cs generalizing k fuel seen with
  | nil =>
    obtain ⟨fuel, rfl⟩ := Nat.exists_eq_add_one.mpr enough
    rcases (fewQuotes_writeEscaped few []).close? after seen with h | ⟨-, h⟩
    · exact multiBasic?_close h
    · exact absurd rfl h
  | cons c cs ih =>
    obtain ⟨fuel, rfl⟩ := Nat.exists_eq_add_one.mpr (Nat.zero_lt_of_lt enough)
    have ih {k : Nat} (few : k ≤ 2) :
        multiBasic? fuel (c :: seen) (writeEscaped 2 k cs ++ '"' :: '"' :: '"' :: rest) =
          some (seen.reverse ++ c :: cs, rest) := by
      rw [ih few (Nat.lt_of_succ_lt_succ enough)]
      simp
    rcases (fewQuotes_writeEscaped few (c :: cs)).close? after seen with closed | ⟨opened, -⟩
    · exact multiBasic?_close closed
    · rw [writeEscaped] at opened ⊢
      split_ifs at opened ⊢ with quote own
      · subst quote
        rw [List.cons_append] at opened ⊢
        rw [multiBasic?_char opened (by decide) (.inr (by decide)), ih own]
      · subst quote
        rw [List.cons_append] at opened ⊢
        rw [multiBasic?_escape opened rfl]
        exact ih (Nat.zero_le 2)
      · rcases escaped_cases c with ⟨e, he, back⟩ | ⟨he, slash, plain⟩
        · rw [he, List.append_assoc, List.cons_append] at opened ⊢
          rw [multiBasic?_escape opened (back _), ih (Nat.zero_le 2)]
        · rw [he, List.append_assoc, List.singleton_append] at opened ⊢
          rw [multiBasic?_char opened slash plain, ih (Nat.zero_le 2)]

theorem multiLiteral?_close {found : List Char × List Char}
    (h : close? '\'' seen cs = some found) : multiLiteral? (fuel + 1) seen cs = some found := by
  simp [multiLiteral?, h]

theorem multiLiteral?_append (plain : ∀ c ∈ cs, c = '\n' ∨ isPlain c = true)
    (few : longestRun '\'' k cs ≤ 2) (enough : cs.length < fuel)
    (after : ∀ c ∈ rest.head?, c ≠ '\'') :
    multiLiteral? fuel seen (cs ++ '\'' :: '\'' :: '\'' :: rest) =
      some (seen.reverse ++ cs, rest) := by
  induction cs generalizing k fuel seen with
  | nil =>
    obtain ⟨fuel, rfl⟩ := Nat.exists_eq_add_one.mpr enough
    rcases (fewQuotes_of_longestRun few).close? after seen with h | ⟨-, h⟩
    · exact multiLiteral?_close h
    · exact absurd rfl h
  | cons c cs ih =>
    obtain ⟨fuel, rfl⟩ := Nat.exists_eq_add_one.mpr (Nat.zero_lt_of_lt enough)
    rcases (fewQuotes_of_longestRun few).close? after seen with closed | ⟨opened, -⟩
    · exact multiLiteral?_close closed
    · obtain ⟨k, few⟩ : ∃ k, longestRun '\'' k cs ≤ 2 := by
        rw [longestRun] at few
        split_ifs at few
        · exact ⟨_, few⟩
        · exact ⟨0, by omega⟩
      have ih : multiLiteral? fuel (c :: seen) (cs ++ '\'' :: '\'' :: '\'' :: rest) =
          some (seen.reverse ++ c :: cs, rest) := by
        rw [ih (fun c h => plain c (.tail _ h)) few (Nat.lt_of_succ_lt_succ enough)]
        simp
      rw [List.cons_append] at opened ⊢
      rcases plain c (.head _) with rfl | plain
      · simpa [multiLiteral?, opened, newline?] using ih
      · simpa [multiLiteral?, opened, newline?_of_isPlain plain, plain] using ih

theorem le_longestRun (q : Char) (k : Nat) (cs : List Char) : k ≤ longestRun q k cs := by
  induction cs generalizing k with
  | nil => exact Nat.le_refl k
  | cons c cs ih =>
    rw [longestRun]
    split_ifs
    · exact Nat.le_of_succ_le (ih (k + 1))
    · exact Nat.le_max_left _ _

theorem not_mem_of_longestRun (h : longestRun q k cs = 0) : q ∉ cs := by
  induction cs generalizing k with
  | nil => exact List.not_mem_nil
  | cons c cs ih =>
    rw [longestRun] at h
    split_ifs at h with quote
    · subst quote
      have := le_longestRun c (k + 1) cs
      omega
    · exact List.not_mem_cons_of_ne_of_not_mem (Ne.symm quote) (ih (k := 0) (by omega))

theorem Form.of_basic (h : Form.of cs = .basic) : '\n' ∉ cs := by
  simp only [Form.of] at h
  split_ifs at h <;> simp_all

theorem Form.of_literal (h : Form.of cs = .literal) :
    longestRun '\'' 0 cs = 0 ∧ '\n' ∉ cs ∧ ∀ c ∈ cs, isControl c = false := by
  simp only [Form.of] at h
  split_ifs at h
  simp_all

theorem Form.of_multiLiteral (h : Form.of cs = .multiLiteral) :
    longestRun '\'' 0 cs ≤ 2 ∧ ∀ c ∈ cs, isControl c = false := by
  simp only [Form.of] at h
  split_ifs at h
  simp_all

theorem isPlain_or_line (h : ∀ c ∈ cs, isControl c = false) :
    ∀ c ∈ cs, c = '\n' ∨ isPlain c = true :=
  fun c hc => Classical.or_iff_not_imp_left.mpr (isPlain_of_not_isControl (h c hc))

theorem length_le_writeEscaped (own k : Nat) (cs : List Char) :
    cs.length ≤ (writeEscaped own k cs).length := by
  induction cs generalizing k with
  | nil => exact Nat.zero_le _
  | cons c cs ih =>
    have hc : 1 ≤ (escaped c).length := by
      rcases escaped_cases c with ⟨e, he, -⟩ | ⟨he, -⟩ <;> simp [he]
    have more := ih (k + 1)
    have none := ih 0
    rw [writeEscaped]
    split_ifs <;> simp <;> omega

theorem newline?_writeEscaped (own k : Nat) (line : '\n' ∉ cs) (t : List Char) :
    newline? (writeEscaped own k cs ++ '"' :: t) = none := by
  cases cs with
  | nil => exact newline?_of_isPlain (by decide) t
  | cons c cs =>
    rw [writeEscaped]
    split_ifs
    · exact newline?_of_isPlain (by decide) _
    · exact newline?_of_isPlain (by decide) _
    · rcases escaped_cases c with ⟨e, he, -⟩ | ⟨he, -, plain⟩
      · rw [he]
        exact newline?_of_isPlain (by decide) _
      · rw [he]
        exact newline?_of_isPlain (plain.resolve_left (List.ne_of_not_mem_cons line).symm) _

theorem newline?_append (plain : ∀ c ∈ cs, c = '\n' ∨ isPlain c = true) (line : '\n' ∉ cs)
    (t : List Char) : newline? (cs ++ '\'' :: t) = none := by
  cases cs with
  | nil => exact newline?_of_isPlain (by decide) t
  | cons c cs =>
    have plain := (plain c (.head _)).resolve_left (List.ne_of_not_mem_cons line).symm
    exact newline?_of_isPlain plain _

/-- The line that a text of many lines starts with is not part of it. -/
theorem skipFirstBreak_append {body : List Char} (h : '\n' ∉ cs → newline? body = none) :
    skipFirstBreak ((if cs.contains '\n' then ['\n'] else []) ++ body) = body := by
  by_cases line : '\n' ∈ cs
  · simp [line, skipFirstBreak, newline?]
  · simp [line, skipFirstBreak, h line]

theorem text?_basic {t : List Char} (h : ∀ r, t ≠ '"' :: '"' :: r) :
    text? ('"' :: t) =
      (basic? (t.length + 1) [] t).map fun (s, r) => (String.ofList s, r) := by
  rw [text?]
  exact h

theorem text?_literal {t : List Char} (h : ∀ r, t ≠ '\'' :: '\'' :: r) :
    text? ('\'' :: t) = (literal? [] t).map fun (s, r) => (String.ofList s, r) := by
  rw [text?]
  exact h

/-- What is written for a text is read as that text, up to where it ends. -/
theorem text?_writeChars (cs : List Char) (after : ∀ c ∈ rest.head?, c ≠ '"' ∧ c ≠ '\'') :
    text? (writeChars cs ++ rest) = some (String.ofList cs, rest) := by
  have quote : ∀ c ∈ rest.head?, c ≠ '"' := fun c h => (after c h).1
  have apostrophe : ∀ c ∈ rest.head?, c ≠ '\'' := fun c h => (after c h).2
  rw [writeChars]
  cases form : Form.of cs with
  | basic =>
    have enough := length_le_writeEscaped 0 0 cs
    have single := (fewQuotes_writeEscaped (Nat.le_refl 0) cs).not_triple quote
    simp only [List.append_assoc, List.cons_append, List.nil_append]
    rw [text?_basic single, basic?_writeEscaped (Form.of_basic form) (by simp; omega)]
    rfl
  | literal =>
    obtain ⟨none, line, control⟩ := Form.of_literal form
    have single := (fewQuotes_of_longestRun (Nat.le_of_eq none)).not_triple apostrophe
    have plain : ∀ c ∈ cs, isPlain c = true := fun c hc =>
      isPlain_of_not_isControl (control c hc) (fun h => line (h ▸ hc))
    simp only [List.append_assoc, List.cons_append, List.nil_append]
    rw [text?_literal single, literal?_append plain (not_mem_of_longestRun none)]
    rfl
  | multiBasic =>
    have enough := length_le_writeEscaped 2 0 cs
    have first := skipFirstBreak_append fun line : '\n' ∉ cs =>
      newline?_writeEscaped 2 0 line ('"' :: '"' :: rest)
    simp only [List.append_assoc, String.reduceToList, List.cons_append, List.nil_append]
    rw [text?, first, multiBasic?_writeEscaped (Nat.zero_le 2) (by simp; omega) quote]
    rfl
  | multiLiteral =>
    obtain ⟨few, control⟩ := Form.of_multiLiteral form
    have plain := isPlain_or_line control
    have first := skipFirstBreak_append fun line =>
      newline?_append plain line ('\'' :: '\'' :: rest)
    simp only [List.append_assoc, String.reduceToList, List.cons_append, List.nil_append]
    rw [text?, first, multiLiteral?_append plain few (by simp; omega) apostrophe]
    rfl

end ClusterAdmin.Toml
