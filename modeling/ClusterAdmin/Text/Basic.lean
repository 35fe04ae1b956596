namespace ClusterAdmin.Text

/-- Whether `needle` stands somewhere inside the text. -/
def holds (needle : List Char) : List Char → Bool
  | [] => needle.isEmpty
  | c :: r => needle.isPrefixOf (c :: r) || holds needle r

/-- The pieces between the separators, one more than there are separators. -/
def pieces (sep : Char) : List Char → List (List Char)
  | [] => [[]]
  | c :: r =>
    if c = sep then [] :: pieces sep r
    else match pieces sep r with
      | [] => [[c]]
      | p :: ps => (c :: p) :: ps

/-- What stands before and after the first separator. -/
def cut? (sep : Char) : List Char → Option (List Char × List Char)
  | [] => none
  | c :: r => if c = sep then some ([], r) else (cut? sep r).map fun (a, b) => (c :: a, b)

/-- What follows `lead` in a text that starts with it. -/
def after? (lead : List Char) (text : List Char) : Option (List Char) :=
  if lead.isPrefixOf text then some (text.drop lead.length) else none

def asciiLower (s : String) : String := s.map Char.toLower

def asciiUpper (s : String) : String := s.map Char.toUpper

/-- Only the ASCII letters and digits. -/
def asciiAlphanumeric (s : String) : String := String.ofList (s.toList.filter Char.isAlphanum)

theorem pieces_of_not_mem {sep : Char} {t : List Char} (h : sep ∉ t) : pieces sep t = [t] := by
  induction t with
  | nil => rfl
  | cons c r ih =>
    obtain ⟨hc, hr⟩ : sep ≠ c ∧ sep ∉ r := by simpa using h
    rw [pieces, if_neg hc.symm, ih hr]

/-- A text up to a separator is a piece of its own. -/
theorem pieces_append {sep : Char} {t : List Char} (h : sep ∉ t) (r : List Char) :
    pieces sep (t ++ sep :: r) = t :: pieces sep r := by
  induction t with
  | nil => simp [pieces]
  | cons c t ih =>
    obtain ⟨hc, ht⟩ : sep ≠ c ∧ sep ∉ t := by simpa using h
    rw [List.cons_append, pieces, if_neg hc.symm, ih ht]

@[simp] theorem after?_append (lead text : List Char) : after? lead (lead ++ text) = some text := by
  simp [after?]

end ClusterAdmin.Text
