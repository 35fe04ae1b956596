import ClusterAdmin.Failure.Classifier

namespace ClusterAdmin.Classifier

variable {needle text lead rest before after : List Char}

/-- A needle stands somewhere in a text at the start of a word. -/
def StandsIn (needle text : List Char) : Prop :=
  ∃ before after, text = before ++ needle ++ after ∧ boundary before.getLast? = true

/-- No word starts inside a needle where the needle could begin once more. -/
def NeverRestarts (needle : List Char) : Prop :=
  needle ≠ [] ∧ ∀ k < needle.length, (needle.drop k).isPrefixOf needle = true →
    boundary (needle.take k).getLast? = true → k = 0

instance (needle : List Char) : Decidable (NeverRestarts needle) :=
  inferInstanceAs (Decidable (_ ∧ _))

theorem neverRestarts_of_mem {rule : Rule} (hrule : rule ∈ rules) {n : String}
    (hn : n ∈ rule.needles) : NeverRestarts n.toList := by
  have hall : ∀ rule ∈ rules, ∀ n ∈ rule.needles, NeverRestarts n.toList := by
    decide +kernel
  exact hall rule hrule n hn

/-- Where a needle stands at the front of a text, a later one that starts a word is behind it. -/
theorem NeverRestarts.behind (h : NeverRestarts needle)
    (hsame : needle ++ after = lead ++ needle ++ rest) (hlead : lead ≠ [])
    (hstart : boundary lead.getLast? = true) : needle <+: lead := by
  have hfront : lead <+: needle ++ after := ⟨needle ++ rest, by simpa using hsame.symm⟩
  rcases List.prefix_or_prefix_of_prefix hfront (List.prefix_append needle after) with
    hinside | hbehind
  · obtain ⟨tail, rfl⟩ := hinside
    have htail : tail <+: lead ++ tail := by
      have hafter : tail ++ after = lead ++ tail ++ rest :=
        (List.append_right_inj lead).mp (by simpa using hsame)
      exact List.prefix_of_prefix_length_le ⟨after, hafter⟩ (List.prefix_append _ _) (by simp)
    cases tail with
    | nil => simp
    | cons c tail =>
      have hzero := h.2 lead.length (by simp) (by simpa using htail) (by simpa using hstart)
      exact absurd (List.length_eq_zero_iff.mp hzero) hlead
  · exact hbehind

/-- The search finds a needle exactly if it stands somewhere at the start of a word. -/
theorem startsWord_iff (h : NeverRestarts needle) (front : Option Char) (text : List Char) :
    startsWord needle front text = true ↔ ∃ lead rest,
      text = lead ++ needle ++ rest ∧ boundary (lead.getLast?.or front) = true := by
  obtain ⟨first, more, hneedle⟩ := List.exists_cons_of_ne_nil h.1
  fun_induction startsWord needle front text with
  | case1 front => simp [hneedle]
  | case2 front c r hprefix ih =>
    obtain ⟨after, hafter⟩ := List.isPrefixOf_iff_prefix.mp hprefix
    have hdrop : r.drop (needle.length - 1) = after := by
      have hr : more ++ after = r := by
        rw [hneedle] at hafter
        exact (List.cons.inj hafter).2
      simp [← hr, hneedle]
    rw [hdrop] at ih ⊢
    rw [Bool.or_eq_true, ih]
    constructor
    · rintro (hfront | ⟨lead, rest, hlead, hstart⟩)
      · exact ⟨[], after, by simp [hafter], by simpa using hfront⟩
      · refine ⟨needle ++ lead, rest, by simp [← hafter, hlead], ?_⟩
        rw [List.getLast?_append, Option.or_assoc]
        simpa [hneedle, List.getLast?_cons] using hstart
    · rintro ⟨lead, rest, hlead, hstart⟩
      by_cases hempty : lead = []
      · exact .inl (by simpa [hempty] using hstart)
      · -- What is in front of the later occurrence begins with the whole of the earlier one.
        have hlast : lead.getLast?.or front = lead.getLast? := by
          simp [List.getLast?_eq_some_getLast hempty]
        rw [hlast] at hstart
        obtain ⟨between, rfl⟩ := h.behind (hafter.trans hlead) hempty hstart
        rw [List.getLast?_append] at hstart
        refine .inr ⟨between, rest, ?_, hstart⟩
        apply (List.append_right_inj needle).mp
        rw [hafter, hlead]
        simp
  | case3 front c r hprefix ih =>
    rw [ih]
    constructor
    · rintro ⟨lead, rest, rfl, hstart⟩
      exact ⟨c :: lead, rest, rfl, by simpa [List.getLast?_cons] using hstart⟩
    · rintro ⟨lead, rest, hlead, hstart⟩
      cases lead with
      | nil => exact absurd (List.isPrefixOf_iff_prefix.mpr ⟨rest, hlead.symm⟩) hprefix
      | cons d lead =>
        obtain ⟨rfl, rfl⟩ := List.cons.inj hlead
        exact ⟨lead, rest, rfl, by simpa [List.getLast?_cons] using hstart⟩

/-- A needle that begins a word inside itself may be passed over. -/
example : ¬NeverRestarts "a a".toList ∧ startsWord "a a".toList none "ba a a".toList = false := by
  decide +kernel

/-- A rule has a needle that stands in a text at the start of a word. -/
def Rule.Suits (rule : Rule) (text : List Char) : Prop :=
  ∃ n ∈ rule.needles, StandsIn n.toList text

theorem fires_iff {rule : Rule} (hrule : rule ∈ rules) (text : List Char) :
    rule.fires text = true ↔ rule.Suits text := by
  have hstands : ∀ n ∈ rule.needles,
      (startsWord n.toList none text = true ↔ StandsIn n.toList text) := by
    intro n hn
    rw [startsWord_iff (neverRestarts_of_mem hrule hn)]
    simp [StandsIn]
  rw [Rule.fires, List.any_eq_true]
  constructor
  · rintro ⟨n, hn, hfound⟩
    exact ⟨n, hn, (hstands n hn).mp hfound⟩
  · rintro ⟨n, hn, hfound⟩
    exact ⟨n, hn, (hstands n hn).mpr hfound⟩

/-- The first rule that suits a text has this place among the rules. The place behind the last rule
is that of a text which none suits. -/
structure Place (text : List Char) (i : Nat) : Prop where
  le : i ≤ rules.length
  first : ∀ j rule, j < i → rules[j]? = some rule → ¬rule.Suits text
  suits : ∀ rule, rules[i]? = some rule → rule.Suits text

/-- Where no rule is lost, the first is the same or an earlier one. -/
theorem Place.le_of_suits {text' : List Char} {i j : Nat} (hi : Place text i) (hj : Place text' j)
    (h : ∀ rule, Rule.Suits rule text → rule.Suits text') : j ≤ i := by
  apply Nat.le_of_not_lt
  intro hlt
  have hrule := List.getElem?_eq_getElem (Nat.lt_of_lt_of_le hlt hj.le)
  exact hj.first i _ hlt hrule (h _ (hi.suits _ hrule))

theorem Place.unique {i j : Nat} (hi : Place text i) (hj : Place text j) : i = j :=
  Nat.le_antisymm (hj.le_of_suits hi fun _ h => h) (hi.le_of_suits hj fun _ h => h)

/-- The category of the rule at a place. -/
def categoryAt (i : Nat) : Category := (rules[i]?.map (·.category)).getD .unknown

/-- Every text has its place, and the rule there tells its category. -/
theorem exists_place (text : List Char) :
    ∃ i, Place text i ∧ (category? text).getD .unknown = categoryAt i := by
  refine ⟨rules.findIdx (·.fires text), ⟨List.findIdx_le_length, ?_, ?_⟩, ?_⟩
  · intro j rule hj hrule hsuits
    obtain ⟨hlt, rfl⟩ := List.getElem?_eq_some_iff.mp hrule
    have hnot := List.not_of_lt_findIdx hj
    exact absurd ((fires_iff (List.getElem_mem hlt) text).mpr hsuits) (by simpa using hnot)
  · intro rule hrule
    obtain ⟨hlt, rfl⟩ := List.getElem?_eq_some_iff.mp hrule
    exact (fires_iff (List.getElem_mem hlt) text).mp (List.findIdx_getElem (w := hlt))
  · rw [category?, categoryAt, List.find?_eq_getElem?_findIdx]

/-- A blank ends whatever word stands before it, so that the words behind it are read anew. -/
theorem words_append_blank (small : Bool) (p m : List Char) :
    words small (p ++ ' ' :: m) = words small p ++ ' ' :: words false m := by
  induction p generalizing small with
  | nil =>
    have hupper : Text.Letter.isUpper ' ' = false := by decide
    have hlower : Text.Letter.isLower ' ' = false := by decide
    have hblank : Text.Letter.toLower ' ' = [' '] := by decide
    simp [words, hupper, hlower, hblank]
  | cons c p ih => simp [words, ih]

/-- A message between others, with a blank on either side. -/
theorem normalize_between (p m s : String) :
    normalize (p ++ " " ++ m ++ " " ++ s) =
      normalize p ++ ' ' :: normalize m ++ ' ' :: normalize s := by
  have htext : (p ++ " " ++ m ++ " " ++ s).toList =
      p.toList ++ ' ' :: (m.toList ++ ' ' :: s.toList) := by simp
  rw [normalize, htext, words_append_blank, words_append_blank]
  simp [normalize]

theorem StandsIn.between (h : StandsIn needle text) (before after : List Char) :
    StandsIn needle (before ++ ' ' :: text ++ ' ' :: after) := by
  obtain ⟨lead, rest, rfl, hstart⟩ := h
  refine ⟨before ++ ' ' :: lead, rest ++ ' ' :: after, by simp, ?_⟩
  cases hlead : lead.getLast? with
  | none =>
    obtain rfl := List.getLast?_eq_none_iff.mp hlead
    rw [List.getLast?_append]
    exact (by decide : boundary (some ' ') = true)
  | some c =>
    rw [hlead] at hstart
    simpa [List.getLast?_append, List.getLast?_cons, hlead] using hstart

/-- A message is of the category of the first rule that has a needle anywhere in its words at the
start of one. Between other messages that rule is the same or an earlier one. -/
theorem message_placed (m : String) :
    ∃ i, (∀ k, Place (normalize m) k ↔ k = i) ∧ ofMessage m = categoryAt i ∧
      ∀ p s : String, ∃ j, j ≤ i ∧
        (∀ k, Place (normalize (p ++ " " ++ m ++ " " ++ s)) k ↔ k = j) ∧
        ofMessage (p ++ " " ++ m ++ " " ++ s) = categoryAt j := by
  have honly : ∀ {text i}, Place text i → ∀ k, Place text k ↔ k = i :=
    fun h k => ⟨fun hk => hk.unique h, fun hk => hk ▸ h⟩
  obtain ⟨i, hi, hcategory⟩ := exists_place (normalize m)
  refine ⟨i, honly hi, hcategory, fun p s => ?_⟩
  obtain ⟨j, hj, hcategory'⟩ := exists_place (normalize (p ++ " " ++ m ++ " " ++ s))
  refine ⟨j, ?_, honly hj, hcategory'⟩
  rw [normalize_between] at hj
  exact hi.le_of_suits hj fun rule ⟨n, hn, hstands⟩ => ⟨n, hn, hstands.between _ _⟩

/-- The names of errors are read as the words that they are made of. -/
example : normalize "InvalidPartitions: UNKNOWN_TOPIC-id.2A" =
      "invalid partitions: unknown topic id 2 a".toList ∧
    ofMessage "InvalidPartitions" = .invalid ∧
    ofMessage "UNKNOWN_TOPIC_OR_PARTITION" = .notFound := by
  decide +kernel

/-- A needle counts at the start of a word only, and the rule that comes first decides. -/
example : ofMessage "oracle bridge failure" = .unknown ∧
    ofMessage "connection closed (acl)" = .auth ∧
    ofMessage "connection closed" = .transient := by
  decide +kernel

end ClusterAdmin.Classifier
