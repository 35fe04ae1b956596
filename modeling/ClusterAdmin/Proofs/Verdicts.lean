import ClusterAdmin.Acl.Evaluation
import ClusterAdmin.Bytes

namespace ClusterAdmin

namespace AclOperation

@[simp] theorem find?_name (op : AclOperation) : every.find? (·.name == op.name) = some op := by
  cases op <;> rfl

theorem name_inj {x y : AclOperation} : x.name = y.name ↔ x = y := by
  constructor
  · intro h
    have hfind := find?_name x
    rw [h, find?_name] at hfind
    exact (Option.some.inj hfind).symm
  · exact congrArg name

theorem mem_byName (op : AclOperation) : op ∈ byName := by
  cases op <;> decide

/-- Every operation comes after those whose names have smaller octets. -/
theorem rising_byName : byName.Pairwise fun x y => Bytes.ofText x.name < Bytes.ofText y.name := by
  decide +kernel

/-- The operations that a rule speaks of: all on topics, or none, or the one that it names. -/
def expansion : AclOperation → List AclOperation
  | all => onTopics
  | any | unknown => []
  | op => [op]

/-- Their names. -/
def expandedNames (op : AclOperation) : List String := op.expansion.map (·.name)

/-- The operations that a rule may name but that are none on topics. -/
def besideTopics : List AclOperation :=
  [clusterAction, idempotentWrite, createTokens, describeTokens]

theorem name_mem_expandedNames {x op : AclOperation} :
    x.name ∈ op.expandedNames ↔ x ∈ op.expansion := by
  simp only [expandedNames, List.mem_map, name_inj, exists_eq_right]

/-- What a rule speaks of is an operation on topics or the operation that the rule names. -/
theorem mem_expansion {x op : AclOperation} (h : x ∈ op.expansion) :
    (op = all ∧ x ∈ onTopics) ∨ (op = x ∧ (x ∈ onTopics ∨ x ∈ besideTopics)) := by
  cases op with
  | all => exact .inl ⟨rfl, h⟩
  | any | unknown => cases h
  | _ =>
    obtain rfl := List.mem_singleton.mp h
    exact .inr ⟨rfl, by decide⟩

theorem mem_expansion_self {x : AclOperation} (h : x ∈ besideTopics) : x ∈ x.expansion := by
  revert h
  cases x <;> decide

theorem not_mem_onTopics {x : AclOperation} (h : x ∈ besideTopics) : x ∉ onTopics := by
  revert h
  cases x <;> decide

end AclOperation

namespace Acl

open AclOperation

/-- A pattern among some takes in a topic. -/
def Covered (topic : String) (resources : List AclResource) : Prop :=
  ∃ r ∈ resources, r.covers topic = true

/-- A rule under a pattern that takes in a topic binds a principal, on every host. -/
structure Bound (topic principal : String) (resources : List AclResource) (e : AclEntry) :
    Prop where
  covered : ∃ r ∈ resources, r.covers topic = true ∧ e ∈ r.acls
  anywhere : e.host = "*"
  subject : e.principal = principal ∨ e.principal = "User:*"

/-- And it speaks of the operation of a name. -/
structure Applies (topic principal : String) (resources : List AclResource) (e : AclEntry)
    (name : String) : Prop extends Bound topic principal resources e where
  named : name ∈ e.operation.expandedNames

/-- Two lists put the same rules on a topic, in whatever order and under whichever patterns. -/
structure SameRules (topic : String) (resources resources' : List AclResource) : Prop where
  covered : Covered topic resources ↔ Covered topic resources'
  rules : ∀ e, (∃ r ∈ resources, r.covers topic = true ∧ e ∈ r.acls) ↔
    ∃ r ∈ resources', r.covers topic = true ∧ e ∈ r.acls

/-- The rules that bind a principal on a topic, in the order in which they come. -/
def boundRules (topic principal : String) (resources : List AclResource) : List AclEntry :=
  ((resources.filter (·.covers topic)).flatMap (·.acls)).filter (binds principal)

/-- The names that the rules read so far let and forbid. -/
structure Ledger where
  allowed : List String
  denied : List String

namespace Ledger

/-- Reads one more rule. -/
def read (l : Ledger) (e : AclEntry) : Ledger :=
  match e.permission with
  | .allow => { l with allowed := l.allowed ++ e.operation.expandedNames }
  | .deny => { l with denied := l.denied ++ e.operation.expandedNames }
  | .any | .unknown => l

def ofRules (es : List AclEntry) : Ledger := es.foldl read ⟨[], []⟩

/-- What is let and not forbidden, in the order of the names. -/
def verdict (l : Ledger) : List String :=
  (byName.map (·.name)).filter fun n => l.allowed.contains n && !l.denied.contains n

theorem mem_verdict {l : Ledger} {n : String} :
    n ∈ l.verdict ↔ (∃ op : AclOperation, op.name = n) ∧ n ∈ l.allowed ∧ n ∉ l.denied := by
  simp [verdict, mem_byName]

/-- The side of a ledger that a permission goes to, if it goes to one. -/
def names (l : Ledger) : Permission → List String
  | .allow => l.allowed
  | .deny => l.denied
  | .any | .unknown => []

theorem verdict_congr {l l' : Ledger} (allowed : ∀ n, n ∈ l.names .allow ↔ n ∈ l'.names .allow)
    (denied : ∀ n, n ∈ l.names .deny ↔ n ∈ l'.names .deny) : l.verdict = l'.verdict := by
  apply List.filter_congr
  intro n _
  rw [Bool.eq_iff_iff]
  simp only [Bool.and_eq_true, Bool.not_eq_true', Bool.eq_false_iff, ne_eq, List.contains_iff_mem]
  exact and_congr (allowed n) (not_congr (denied n))

/-- One rule adds the names that it speaks of, on its own side. -/
theorem mem_names_read (l : Ledger) (e : AclEntry) {p : Permission} (hp : p = .allow ∨ p = .deny)
    (n : String) :
    n ∈ (l.read e).names p ↔
      n ∈ l.names p ∨ (e.permission = p ∧ n ∈ e.operation.expandedNames) := by
  unfold read
  rcases hp with rfl | rfl
  all_goals cases e.permission <;> simp [names]

theorem mem_names_foldl (es : List AclEntry) (l : Ledger) {p : Permission}
    (hp : p = .allow ∨ p = .deny) (n : String) :
    n ∈ (es.foldl read l).names p ↔
      n ∈ l.names p ∨ ∃ e ∈ es, e.permission = p ∧ n ∈ e.operation.expandedNames := by
  induction es generalizing l with
  | nil => simp
  | cons e es ih =>
    rw [List.foldl_cons, ih, mem_names_read l e hp, or_assoc]
    simp

/-- Rules that were read one after another have put on a side what any of them speaks of. -/
theorem mem_names_ofRules (es : List AclEntry) {p : Permission} (hp : p = .allow ∨ p = .deny)
    (n : String) :
    n ∈ (ofRules es).names p ↔ ∃ e ∈ es, e.permission = p ∧ n ∈ e.operation.expandedNames := by
  rw [ofRules, mem_names_foldl es _ hp]
  have hblank : (⟨[], []⟩ : Ledger).names p = [] := by
    rcases hp with rfl | rfl <;> rfl
  rw [hblank]
  simp

end Ledger

section

variable {topic principal : String} {resources : List AclResource}

theorem binds_iff {e : AclEntry} :
    binds principal e = true ↔
      (e.principal = principal ∨ e.principal = "User:*") ∧ e.host = "*" := by
  simp only [binds, Bool.and_eq_true, Bool.or_eq_true, decide_eq_true_eq]
  exact Iff.rfl

theorem speaksOf_iff {x : AclOperation} {e : AclEntry} :
    speaksOf x e = true ↔ x ∈ e.operation.expansion := by
  unfold speaksOf
  cases e.operation <;> simp [expansion, eq_comm]

theorem mem_boundRules {e : AclEntry} :
    e ∈ boundRules topic principal resources ↔ Bound topic principal resources e := by
  simp only [boundRules, List.mem_filter, List.mem_flatMap, binds_iff]
  constructor
  · rintro ⟨⟨r, ⟨hr, hcovers⟩, he⟩, hsubject, hhost⟩
    exact ⟨⟨r, hr, hcovers, he⟩, hhost, hsubject⟩
  · rintro ⟨⟨r, hr, hcovers, he⟩, hhost, hsubject⟩
    exact ⟨⟨r, ⟨hr, hcovers⟩, he⟩, hsubject, hhost⟩

/-- A side of the ledger of a topic's rules holds what the rules of the permission speak of. -/
theorem mem_names_boundRules {p : Permission} (hp : p = .allow ∨ p = .deny) {n : String} :
    n ∈ (Ledger.ofRules (boundRules topic principal resources)).names p ↔
      ∃ e, e.permission = p ∧ Applies topic principal resources e n := by
  rw [Ledger.mem_names_ofRules _ hp]
  constructor
  · rintro ⟨e, he, hperm, hnamed⟩
    exact ⟨e, hperm, mem_boundRules.mp he, hnamed⟩
  · rintro ⟨e, hperm, hbound, hnamed⟩
    exact ⟨e, mem_boundRules.mpr hbound, hperm, hnamed⟩

theorem gives_iff (es : List AclEntry) {p : Permission} (hp : p = .allow ∨ p = .deny)
    (x : AclOperation) : gives p es x = true ↔ x.name ∈ (Ledger.ofRules es).names p := by
  rw [Ledger.mem_names_ofRules es hp]
  simp only [gives, List.any_eq_true, Bool.and_eq_true, decide_eq_true_eq, speaksOf_iff,
    name_mem_expandedNames]

theorem evaluate_of_uncovered (h : ¬Covered topic resources) :
    evaluate topic principal resources = everyTopicOperation := by
  have hnone : resources.filter (·.covers topic) = [] := by
    rw [List.filter_eq_nil_iff]
    intro r hr hcovers
    exact h ⟨r, hr, hcovers⟩
  simp [evaluate, hnone]

/-- The rules may be read one after another, noting what each lets and what it forbids. -/
theorem evaluate_of_covered (h : Covered topic resources) :
    evaluate topic principal resources =
      (Ledger.ofRules (boundRules topic principal resources)).verdict := by
  obtain ⟨r, hr, hcovers⟩ := h
  have hsome : (resources.filter (·.covers topic)).isEmpty = false := by
    rw [List.isEmpty_eq_false_iff_exists_mem]
    exact ⟨r, List.mem_filter.mpr ⟨hr, hcovers⟩⟩
  simp only [evaluate, hsome, Bool.false_eq_true, if_false, Ledger.verdict, List.filter_map]
  congr 1
  apply List.filter_congr
  intro x _
  have hallow := gives_iff (boundRules topic principal resources) (.inl rfl) x
  have hdeny := gives_iff (boundRules topic principal resources) (.inr rfl) x
  rw [Bool.eq_iff_iff]
  simp only [Bool.and_eq_true, Bool.not_eq_true', Bool.eq_false_iff, ne_eq, Function.comp_apply,
    List.contains_iff_mem]
  exact and_congr hallow (not_congr hdeny)

theorem mem_evaluate_of_covered (h : Covered topic resources) {n : String} :
    n ∈ evaluate topic principal resources ↔
      (∃ e, e.permission = .allow ∧ Applies topic principal resources e n) ∧
        ¬∃ e, e.permission = .deny ∧ Applies topic principal resources e n := by
  rw [evaluate_of_covered h, Ledger.mem_verdict, ← mem_names_boundRules (.inl rfl),
    ← mem_names_boundRules (.inr rfl)]
  constructor
  · exact And.right
  · intro hmem
    obtain ⟨e, -, happlies⟩ := (mem_names_boundRules (.inl rfl)).mp hmem.1
    obtain ⟨op, -, hname⟩ := List.mem_map.mp happlies.named
    exact ⟨⟨op, hname⟩, hmem⟩

/-- The names come in the order of their octets, each once. -/
theorem rising_evaluate :
    ((evaluate topic principal resources).map Bytes.ofText).Pairwise (· < ·) := by
  have hsub : List.Sublist (evaluate topic principal resources) (byName.map (·.name)) := by
    by_cases h : Covered topic resources
    · rw [evaluate_of_covered h]
      exact List.filter_sublist
    · rw [evaluate_of_uncovered h]
      exact List.filter_sublist.map _
  have hall : ((byName.map (·.name)).map Bytes.ofText).Pairwise (· < ·) := by
    rw [List.pairwise_map, List.pairwise_map]
    exact rising_byName
  exact hall.sublist (hsub.map _)

theorem everyTopicOperation_perm : everyTopicOperation.Perm (onTopics.map (·.name)) := by
  decide

end

namespace SameRules

variable {topic : String} {resources resources' : List AclResource}

/-- Patterns and rules in another order, and rules under other patterns that take in the topic. -/
theorem of_perm (covered : Covered topic resources ↔ Covered topic resources')
    (rules : ((resources.filter (·.covers topic)).flatMap (·.acls)).Perm
      ((resources'.filter (·.covers topic)).flatMap (·.acls))) :
    SameRules topic resources resources' where
  covered := covered
  rules e := by
    have h := rules.mem_iff (a := e)
    simp only [List.mem_flatMap, List.mem_filter, and_assoc] at h
    exact h

theorem applies (h : SameRules topic resources resources') {principal n : String} {e : AclEntry} :
    Applies topic principal resources e n ↔ Applies topic principal resources' e n := by
  constructor
  · intro a
    exact ⟨⟨(h.rules e).mp a.covered, a.anywhere, a.subject⟩, a.named⟩
  · intro a
    exact ⟨⟨(h.rules e).mpr a.covered, a.anywhere, a.subject⟩, a.named⟩

/-- Nothing but the rules put on the topic counts. -/
theorem evaluate_eq (h : SameRules topic resources resources') (principal : String) :
    evaluate topic principal resources' = evaluate topic principal resources := by
  by_cases hc : Covered topic resources
  · rw [evaluate_of_covered hc, evaluate_of_covered (h.covered.mp hc)]
    apply Ledger.verdict_congr
    · intro n
      rw [mem_names_boundRules (.inl rfl), mem_names_boundRules (.inl rfl)]
      simp only [h.applies]
    · intro n
      rw [mem_names_boundRules (.inr rfl), mem_names_boundRules (.inr rfl)]
      simp only [h.applies]
  · rw [evaluate_of_uncovered hc, evaluate_of_uncovered fun hc' => hc (h.covered.mpr hc')]

end SameRules

/-- What a principal may do to a topic comes in the order of the names, each once. Where no pattern
takes in the topic it is every operation on topics; else an operation is in it exactly if some rule
that applies lets it and none forbids it. So nothing hangs on the order of the patterns, on that of
the rules, or on which patterns the rules stand under. -/
theorem evaluate_lawful (topic principal : String) (resources : List AclResource) :
    ((evaluate topic principal resources).map Bytes.ofText).Pairwise (· < ·) ∧
    (¬Covered topic resources →
      (evaluate topic principal resources).Perm (onTopics.map (·.name))) ∧
    (Covered topic resources → ∀ n, n ∈ evaluate topic principal resources ↔
      (∃ e, e.permission = .allow ∧ Applies topic principal resources e n) ∧
        ¬∃ e, e.permission = .deny ∧ Applies topic principal resources e n) ∧
    ∀ resources', SameRules topic resources resources' →
      evaluate topic principal resources' = evaluate topic principal resources := by
  refine ⟨rising_evaluate, ?_, ?_, ?_⟩
  · intro h
    rw [evaluate_of_uncovered h]
    exact everyTopicOperation_perm
  · intro h n
    exact mem_evaluate_of_covered h
  · intro resources' h
    exact h.evaluate_eq principal

/-- Rules of two patterns that come to stand under one, in another order. -/
theorem evaluate_lawful_regrouped :
    let read := AclEntry.anywhere "User:bob" .read .allow
    let all := AclEntry.anywhere "User:*" .all .allow
    let write := AclEntry.anywhere "User:bob" .write .deny
    let apart : List AclResource :=
      [⟨.topic, "orders", .literal, [all, write]⟩, ⟨.topic, "ord", .prefixed, [read]⟩]
    let together : List AclResource := [⟨.topic, "*", .literal, [write, read, all]⟩]
    "READ" ∈ evaluate "orders" "User:bob" apart ∧ "WRITE" ∉ evaluate "orders" "User:bob" apart ∧
      evaluate "orders" "User:bob" together = evaluate "orders" "User:bob" apart := by
  intro read all write apart together
  obtain ⟨-, -, hmem, hsame⟩ := evaluate_lawful "orders" "User:bob" apart
  have hapart : Covered "orders" apart := ⟨_, List.mem_cons_self, by decide⟩
  have htogether : Covered "orders" together := ⟨_, List.mem_cons_self, by decide⟩
  have hwrite : Applies "orders" "User:bob" apart write "WRITE" :=
    ⟨⟨⟨_, List.mem_cons_self, by decide, by decide⟩, rfl, .inl rfl⟩, by decide⟩
  have hall : Applies "orders" "User:bob" apart all "READ" :=
    ⟨⟨⟨_, List.mem_cons_self, by decide, by decide⟩, rfl, .inr rfl⟩, by decide⟩
  refine ⟨(hmem hapart "READ").mpr ⟨⟨all, rfl, hall⟩, ?_⟩, ?_, ?_⟩
  · intro ⟨e, hdeny, happlies⟩
    obtain ⟨r, hr, -, he⟩ := happlies.covered
    have honly : ∀ r ∈ apart, ∀ e ∈ r.acls, e.permission = .deny →
        "READ" ∉ e.operation.expandedNames := by
      decide
    exact honly r hr e he hdeny happlies.named
  · intro h
    exact ((hmem hapart "WRITE").mp h).2 ⟨write, rfl, hwrite⟩
  · apply hsame
    apply SameRules.of_perm
    · exact iff_of_true hapart htogether
    · decide

/-- A rule with a permission names an operation to a principal. -/
def Names (p : Permission) (op : AclOperation) (topic principal : String)
    (resources : List AclResource) : Prop :=
  ∃ e, e.permission = p ∧ e.operation = op ∧ Bound topic principal resources e

/-- A rule forbids a principal all operations. -/
def ForbidsAll (topic principal : String) (resources : List AclResource) : Prop :=
  Names .deny .all topic principal resources

section

variable {topic principal : String} {resources : List AclResource}

/-- Rules speak of an operation beside those on topics only by naming it. -/
theorem names_iff {p : Permission} {op : AclOperation} (h : op ∈ besideTopics) :
    Names p op topic principal resources ↔
      ∃ e, e.permission = p ∧ Applies topic principal resources e op.name := by
  constructor
  · rintro ⟨e, hp, rfl, hbound⟩
    exact ⟨e, hp, hbound, name_mem_expandedNames.mpr (mem_expansion_self h)⟩
  · rintro ⟨e, hp, hbound, hnamed⟩
    rcases mem_expansion (name_mem_expandedNames.mp hnamed) with ⟨-, htopic⟩ | ⟨hop, -⟩
    · exact absurd htopic (not_mem_onTopics h)
    · exact ⟨e, hp, hop, hbound⟩

/-- Where all is forbidden, only what rules name beside the operations on topics can be let. -/
theorem mem_evaluate_of_forbidsAll (h : ForbidsAll topic principal resources) {n : String} :
    n ∈ evaluate topic principal resources ↔
      ∃ op ∈ besideTopics, op.name = n ∧ Names .allow op topic principal resources ∧
        ¬Names .deny op topic principal resources := by
  obtain ⟨d, hdeny, hall, hbound⟩ := h
  obtain ⟨r, hr, hcovers, -⟩ := hbound.covered
  rw [mem_evaluate_of_covered ⟨r, hr, hcovers⟩]
  constructor
  · rintro ⟨⟨e, hallow, happlies⟩, hnot⟩
    obtain ⟨op, hop, rfl⟩ := List.mem_map.mp happlies.named
    have hbeside : op ∈ besideTopics := by
      have hfree : op ∉ onTopics := by
        intro htopic
        refine hnot ⟨d, hdeny, hbound, ?_⟩
        rw [name_mem_expandedNames, hall]
        exact htopic
      rcases mem_expansion hop with ⟨-, htopic⟩ | ⟨-, htopic | hbeside⟩
      · exact absurd htopic hfree
      · exact absurd htopic hfree
      · exact hbeside
    rw [← names_iff hbeside] at hnot
    exact ⟨op, hbeside, rfl, (names_iff hbeside).mpr ⟨e, hallow, happlies⟩, hnot⟩
  · rintro ⟨op, hbeside, rfl, hallow, hnot⟩
    rw [names_iff hbeside] at hallow hnot
    exact ⟨hallow, hnot⟩

end

/-- Forbidding a principal all leaves no operation on topics. What is left is what some rule lets
and none forbids by name among the operations that are none on topics; so nothing is left if each of
those that a rule lets is also forbidden by name. -/
theorem evaluate_of_forbidsAll {topic principal : String} {resources : List AclResource}
    (h : ForbidsAll topic principal resources) :
    (∀ op ∈ onTopics, op.name ∉ evaluate topic principal resources) ∧
    (∀ n, n ∈ evaluate topic principal resources ↔
      ∃ op ∈ besideTopics, op.name = n ∧ Names .allow op topic principal resources ∧
        ¬Names .deny op topic principal resources) ∧
    (evaluate topic principal resources = [] ↔
      ∀ op ∈ besideTopics, Names .allow op topic principal resources →
        Names .deny op topic principal resources) := by
  have hmem : ∀ n, n ∈ evaluate topic principal resources ↔ _ :=
    fun n => mem_evaluate_of_forbidsAll h
  refine ⟨?_, hmem, ?_⟩
  · intro op htopic hop
    obtain ⟨op', hbeside, hname, -⟩ := (hmem _).mp hop
    rw [name_inj] at hname
    exact not_mem_onTopics hbeside (hname ▸ htopic)
  · rw [List.eq_nil_iff_forall_not_mem]
    constructor
    · intro hnone op hbeside hallow
      apply Classical.byContradiction
      intro hdeny
      exact hnone op.name ((hmem _).mpr ⟨op, hbeside, rfl, hallow, hdeny⟩)
    · intro hdeny n hn
      obtain ⟨op, hbeside, -, hallow, hnot⟩ := (hmem n).mp hn
      exact hnot (hdeny op hbeside hallow)

/-- Of what is let beside the operations on topics, what is forbidden by name goes as well. -/
theorem evaluate_of_forbidsAll_idempotentWrite :
    let rules : List AclEntry :=
      [.anywhere "User:bob" .idempotentWrite .allow, .anywhere "User:bob" .read .allow,
        .anywhere "User:*" .all .deny, .anywhere "User:bob" .idempotentWrite .deny]
    let resources : List AclResource := [⟨.topic, "orders", .literal, rules⟩]
    ForbidsAll "orders" "User:bob" resources ∧ evaluate "orders" "User:bob" resources = [] := by
  intro rules resources
  have hbound : ∀ e ∈ rules, e.host = "*" → (e.principal = "User:bob" ∨ e.principal = "User:*") →
      Bound "orders" "User:bob" resources e :=
    fun e he hhost hsubject => ⟨⟨_, List.mem_cons_self, by decide, he⟩, hhost, hsubject⟩
  have hall : ForbidsAll "orders" "User:bob" resources :=
    ⟨.anywhere "User:*" .all .deny, rfl, rfl, hbound _ (by decide) rfl (.inr rfl)⟩
  obtain ⟨-, -, hnone⟩ := evaluate_of_forbidsAll hall
  refine ⟨hall, hnone.mpr ?_⟩
  intro op hbeside ⟨e, hallow, hop, hbinds⟩
  obtain ⟨r, hr, -, he⟩ := hbinds.covered
  have honly : ∀ r ∈ resources, ∀ e ∈ r.acls, e.permission = .allow →
      e.operation ∈ besideTopics → e.operation = .idempotentWrite := by
    decide
  obtain rfl : op = .idempotentWrite := hop ▸ honly r hr e he hallow (hop ▸ hbeside)
  exact ⟨.anywhere "User:bob" .idempotentWrite .deny, rfl, rfl,
    hbound _ (by decide) rfl (.inl rfl)⟩

/-- Forbidding all need not leave nothing: acting on the cluster is none of the operations on
topics, and stays let. -/
theorem clusterAction_survives_forbidsAll :
    ¬∀ (topic principal : String) (resources : List AclResource),
      ForbidsAll topic principal resources → evaluate topic principal resources = [] := by
  intro hempty
  let rules : List AclEntry :=
    [.anywhere "User:bob" .clusterAction .allow, .anywhere "User:*" .all .deny]
  have hall : ForbidsAll "orders" "User:bob" [⟨.topic, "orders", .literal, rules⟩] :=
    ⟨.anywhere "User:*" .all .deny, rfl, rfl,
      ⟨_, List.mem_cons_self, by decide, by decide⟩, rfl, .inr rfl⟩
  have hleft : evaluate "orders" "User:bob" [⟨.topic, "orders", .literal, rules⟩] =
      ["CLUSTER_ACTION"] := by
    decide
  rw [hempty _ _ _ hall] at hleft
  cases hleft

end Acl

end ClusterAdmin
