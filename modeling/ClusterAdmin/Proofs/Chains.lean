import ClusterAdmin.Failure

namespace ClusterAdmin

namespace Failure

/-- The kind that the wording of a text suggests, if it suggests one. -/
def suggested? (text : String) : Option Category := Classifier.category? (Classifier.normalize text)

/-- A chain holds a failure of some kind with no failure around it, and other errors with some texts
stand around it. -/
inductive Encloses : List String → Category → List Cause → Prop
  | here {category : Category} {message : String} {retryable : Bool} {inner : List Cause} :
    Encloses [] category (.failure category message retryable :: inner)
  | behind {text : String} {texts : List String} {category : Category} {inner : List Cause}
    (enclosed : Encloses texts category inner) :
    Encloses (text :: texts) category (.plain text :: inner)

namespace Encloses

variable {texts texts' : List String} {category category' : Category} {chain : List Cause}

/-- Every chain with a failure in it has an outermost one. -/
theorem of_mem {message : String} {retryable : Bool}
    (h : .failure category message retryable ∈ chain) :
    ∃ texts outermost, Encloses texts outermost chain := by
  induction chain with
  | nil => cases h
  | cons cause inner ih =>
    cases cause with
    | failure outermost _ _ => exact ⟨[], outermost, .here⟩
    | plain text =>
      rcases List.mem_cons.mp h with heq | hinner
      · cases heq
      · obtain ⟨texts, outermost, henclosed⟩ := ih hinner
        exact ⟨text :: texts, outermost, .behind henclosed⟩

theorem unique (h : Encloses texts category chain) (h' : Encloses texts' category' chain) :
    texts = texts' ∧ category = category' := by
  induction h generalizing texts' with
  | here =>
    cases h'
    exact ⟨rfl, rfl⟩
  | behind _ ih =>
    cases h' with
    | behind enclosed =>
      obtain ⟨rfl, rfl⟩ := ih enclosed
      exact ⟨rfl, rfl⟩

/-- The errors around the outermost failure are asked before it. -/
theorem categoryOf_eq (h : Encloses texts category chain) :
    categoryOf chain = (texts.findSome? suggested?).getD category := by
  induction h with
  | here => rfl
  | @behind text texts category inner _ ih =>
    rw [categoryOf, ih, List.findSome?_cons, ← suggested?]
    cases suggested? text <;> rfl

/-- The failure within keeps its kind exactly if the first suggestion around it is that kind, or
there is none. -/
theorem keeps_iff (h : Encloses texts category chain) :
    categoryOf chain = category ↔ ∀ d, texts.findSome? suggested? = some d → d = category := by
  rw [h.categoryOf_eq]
  cases texts.findSome? suggested? with
  | none => simp
  | some d => simp

end Encloses

/-- To make an error a failure and put it in the context of an operation changes nothing of the kind
that its chain tells. -/
theorem category_wrapped (chain : List Cause) (operation resource : String) :
    ((ofError chain).inContext operation resource).category = categoryOf chain := by
  rw [category_inContext]
  match chain with
  | [] => rfl
  | .failure _ _ _ :: _ => rfl
  | .plain _ :: _ => rfl

/-- An error with a failure among its causes is of the kind of the outermost one, unless an error
around that one suggests another kind by its wording; then the first such suggestion is the kind.
It is the kind of the error in the context of an operation as well. -/
theorem categoryOf_enclosed {chain : List Cause} (h : ∃ c m r, Cause.failure c m r ∈ chain) :
    ∃ texts category, Encloses texts category chain ∧
      categoryOf chain = (texts.findSome? suggested?).getD category ∧
      (categoryOf chain = category ↔
        ∀ d, texts.findSome? suggested? = some d → d = category) ∧
      ∀ operation resource,
        ((ofError chain).inContext operation resource).category = categoryOf chain := by
  obtain ⟨c, m, r, hmem⟩ := h
  obtain ⟨texts, category, henclosed⟩ := Encloses.of_mem hmem
  exact ⟨texts, category, henclosed, henclosed.categoryOf_eq, henclosed.keeps_iff,
    category_wrapped chain⟩

/-- Errors whose wording suggests nothing do not matter, however a failure within is worded. -/
theorem categoryOf_enclosed_silent :
    let chain : List Cause :=
      [.plain "operation failed", .plain "odd", .failure .notFound "request timed out" false,
        .failure .auth "login refused" false]
    categoryOf chain = .notFound ∧
      ((ofError chain).inContext "describe topic" "orders").category = .notFound := by
  intro chain
  have hmem : ∃ c m r, Cause.failure c m r ∈ chain :=
    ⟨.auth, "login refused", false, by decide⟩
  obtain ⟨texts, category, henclosed, -, hkeeps, hwrapped⟩ := categoryOf_enclosed hmem
  obtain ⟨rfl, rfl⟩ := henclosed.unique (.behind (.behind .here))
  have hsilent : ["operation failed", "odd"].findSome? suggested? = none := by
    decide +kernel
  have hkept : categoryOf chain = .notFound := by
    apply hkeeps.mpr
    intro d hd
    rw [hsilent] at hd
    cases hd
  exact ⟨hkept, by rw [hwrapped, hkept]⟩

/-- A lost connection around a failure that says that a topic is not there: the kind is that of the
lost connection, of the error and of the error in a context. -/
theorem categoryOf_overruled :
    ¬∀ (texts : List String) (category : Category) (chain : List Cause),
      Encloses texts category chain → categoryOf chain = category ∧
        ((ofError chain).inContext "describe topic" "orders").category = category := by
  intro hkept
  let chain : List Cause :=
    [.plain "connection closed", .failure .notFound "no topic 'orders' here" false]
  have henclosed : Encloses ["connection closed"] .notFound chain := .behind .here
  have hlost : categoryOf chain = .transient := by
    decide +kernel
  rw [(hkept _ _ _ henclosed).1] at hlost
  cases hlost

end Failure

end ClusterAdmin
