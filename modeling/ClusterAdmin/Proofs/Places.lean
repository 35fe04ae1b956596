import ClusterAdmin.Proofs.Endpoints
import ClusterAdmin.Proofs.Segments

namespace ClusterAdmin.Rest.Url

theorem mem_dropWhile {p : Char → Bool} {c : Char} (h : p c = false) {t : List Char} :
    c ∈ t.dropWhile p ↔ c ∈ t := by
  refine ⟨fun hc => (List.dropWhile_suffix p).subset hc, fun hc => ?_⟩
  rw [← List.takeWhile_append_dropWhile (p := p) (l := t), List.mem_append] at hc
  refine hc.resolve_left fun htake => ?_
  rw [List.mem_takeWhile_imp htake] at h
  cases h

theorem cut?_eq_some {sep : Char} {t a b : List Char} (h : Text.cut? sep t = some (a, b)) :
    t = a ++ sep :: b ∧ sep ∉ a := by
  induction t generalizing a with
  | nil => cases h
  | cons c t ih =>
    rw [Text.cut?] at h
    split at h
    · rename_i hc
      cases h
      exact ⟨by rw [hc]; rfl, List.not_mem_nil⟩
    · rename_i hc
      obtain ⟨⟨a', b'⟩, ht, heq⟩ := Option.map_eq_some_iff.mp h
      cases heq
      obtain ⟨rfl, hnot⟩ := ih ht
      exact ⟨rfl, by simp [hnot, Ne.symm hc]⟩

theorem cut?_of_not_mem {sep : Char} {t : List Char} (h : sep ∉ t) : Text.cut? sep t = none := by
  cases hcut : Text.cut? sep t with
  | none => rfl
  | some x =>
    obtain ⟨rfl, -⟩ := cut?_eq_some hcut
    simp at h

theorem cut?_append {sep : Char} {t : List Char} (h : sep ∉ t) (t' : List Char) :
    Text.cut? sep (t ++ t') = (Text.cut? sep t').map fun (a, b) => (t ++ a, b) := by
  induction t with
  | nil => simp
  | cons c t ih =>
    obtain ⟨hc, ht⟩ : sep ≠ c ∧ sep ∉ t := by simpa using h
    rw [List.cons_append, Text.cut?, if_neg hc.symm, ih ht, Option.map_map]
    rfl

/-- A text is split unless the character is not in it. -/
theorem split_of_not_mem {c : Char} {t : List Char} (h : c ∉ t) : split c t = (t, none) := by
  rw [split, cut?_of_not_mem h]

theorem split_append {c : Char} {t : List Char} (h : c ∉ t) (t' : List Char) :
    split c (t ++ t') = (t ++ (split c t').1, (split c t').2) := by
  rw [split, split, cut?_append h]
  cases Text.cut? c t' <;> rfl

@[simp] theorem split_cons_self (c : Char) (t : List Char) : split c (c :: t) = ([], some t) := by
  simp [split, Text.cut?]

theorem split_snd_eq_none {c : Char} {t : List Char} : (split c t).2 = none ↔ c ∉ t := by
  refine ⟨fun h hc => ?_, fun h => by rw [split_of_not_mem h]⟩
  obtain ⟨a, b, rfl, ha⟩ := List.eq_append_cons_of_mem hc
  rw [split_append ha, split_cons_self] at h
  cases h

/-- What may stand at the end of an address as a query. -/
def queryText (query : Option (List Char)) : List Char := (query.map ('?' :: ·)).getD []

/-- A query at the end of a text is all of the text's query unless there is a question mark
before. -/
theorem split_query {k : Kind} {query : Option (List Char)}
    (verbatim : ∀ q ∈ query, q.all (inQuery k)) (t : List Char) :
    (split '?' (t ++ queryText query)).2.map (Text.Percent.encode (inQuery k)) = query ↔
      '?' ∉ t := by
  constructor
  · intro h ht
    obtain ⟨a, b, rfl, ha⟩ := List.eq_append_cons_of_mem ht
    rw [List.append_assoc, split_append ha, List.cons_append, split_cons_self] at h
    cases query with
    | none => cases h
    | some q =>
      have hlength := congrArg List.length (Option.some.inj h)
      have hle := @Text.Percent.length_le_encode (inQuery k) (b ++ queryText (some q))
      simp only [queryText, Option.map_some, Option.getD_some, List.length_append,
        List.length_cons] at hlength hle
      omega
  · intro ht
    rw [split_append ht]
    cases query with
    | none => rfl
    | some q =>
      simp only [queryText, Option.map_some, Option.getD_some, split_cons_self]
      rw [Text.Percent.encode_eq_self (verbatim q rfl)]

theorem mem_of_scheme? {t r : List Char} {scheme : String} (h : scheme? t = some (scheme, r))
    {c : Char} (hc : isSchemeChar c = false) (hcolon : c ≠ ':') : c ∈ r ↔ c ∈ t := by
  rw [scheme?] at h
  split at h
  · rename_i s r' hcut
    split at h
    · rename_i hs
      cases h
      simp only [Bool.and_eq_true, List.all_eq_true] at hs
      have hnot : c ∉ s := fun hmem => by simp [hs.2 c hmem] at hc
      simp [(cut?_eq_some hcut).1, hnot, hcolon]
    · cases h
  · cases h

theorem splitLogin_snd_subset (t : List Char) : (splitLogin t).2 ⊆ t := by
  rw [splitLogin]
  split
  · exact List.Subset.refl t
  · intro c hc
    have hmem := (List.takeWhile_prefix _).subset (List.mem_reverse.mp hc)
    exact List.mem_reverse.mp hmem

theorem splitPort_snd_subset (inside : Bool) (t : List Char) :
    (splitPort inside t).2.getD [] ⊆ t := by
  induction t generalizing inside with
  | nil => exact List.nil_subset []
  | cons c t ih =>
    rw [splitPort]
    split
    · exact List.subset_cons_self c t
    · exact List.subset_cons_of_subset c (by simpa using ih _)

/-- What follows the authority of a server starts where the host ends. -/
theorem rest_of_authority? {port : Nat} {t rest : List Char} {a : Authority}
    (h : authority? (.server port) t = some (a, rest)) :
    rest = t.dropWhile (!(Kind.server port).endsHost ·) := by
  have hback : '\\' ∉ (splitPort false (splitLogin (t.takeWhile
      (!(Kind.server port).endsHost ·))).2).2.getD [] := by
    intro hc
    have hmem := splitLogin_snd_subset _ (splitPort_snd_subset _ _ hc)
    exact absurd (List.mem_takeWhile_imp hmem) (by simp [Kind.endsHost, Kind.isSlash, Kind.isKnown])
  simp only [authority?, Option.bind_eq_bind, Option.bind_eq_some_iff] at h
  obtain ⟨name, -, port, -, h⟩ := h
  split at h
  · cases h
  · rw [split_snd_eq_none.mpr hback] at h
    cases h
    rfl

theorem authority?_append_slash {port : Nat} {t x rest : List Char} {a : Authority}
    (h : authority? (.server port) (t ++ '/' :: x) = some (a, rest)) (x' : List Char) :
    authority? (.server port) (t ++ '/' :: x') =
      some (a, t.dropWhile (!(Kind.server port).endsHost ·) ++ '/' :: x') := by
  have hends : (!(Kind.server port).endsHost '/') = false := rfl
  have hfst : (authority? (.server port) (t ++ '/' :: x')).map (·.1) =
      (authority? (.server port) (t ++ '/' :: x)).map (·.1) :=
    authority?_congr (by rw [takeWhile_append_cons hends, takeWhile_append_cons hends])
      (by rw [dropWhile_append_cons hends, dropWhile_append_cons hends]; simp)
  rw [h, Option.map_some] at hfst
  obtain ⟨⟨a', rest'⟩, h', rfl⟩ := Option.map_eq_some_iff.mp hfst
  rw [h', rest_of_authority? h', dropWhile_append_cons hends]

/-- How addresses below a place are read. -/
structure Below (place : String) (scheme : String) (port : Nat) (a : Authority)
    (way : List Char) : Prop where
  server : Kind.ofScheme scheme = .server port
  reads : ∀ rest : String, parse? (place ++ "/" ++ rest) =
    some (finish scheme (some a) (pathAtHost (.server port))
      (way ++ '/' :: unbroken (rest.toList.rdropWhile isBlank)))
  start : ∀ c t, way = c :: t → (Kind.server port).endsHost c
  marks : ∀ c, c = '?' ∨ c = '#' → (c ∈ way ↔ c ∈ place.toList)

theorem mem_unbroken {c : Char} (h : c ≠ '\t' ∧ c ≠ '\n' ∧ c ≠ '\r') {t : List Char} :
    c ∈ unbroken t ↔ c ∈ t := by
  simp [unbroken, h]

/-- A place that goes on after a slash does so after its scheme. -/
theorem alphanumeric_after_scheme {l r t : List Char} {scheme : String} {c : Char} (hc : c ∈ r)
    (alphanumeric : c.isAlphanum = true)
    (h : scheme? (unbroken ((l ++ '/' :: r).dropWhile isBlank)) = some (scheme, t)) : c ∈ t := by
  have hbroken : c ≠ '\t' ∧ c ≠ '\n' ∧ c ≠ '\r' := by
    refine ⟨?_, ?_, ?_⟩
    all_goals
      rintro rfl
      exact absurd alphanumeric (by decide)
  have hslash : unbroken ('/' :: r) = '/' :: unbroken r := rfl
  rw [dropWhile_append_cons (by decide), unbroken_append, hslash, scheme?_append_slash] at h
  obtain ⟨⟨_, t'⟩, -, heq⟩ := Option.map_eq_some_iff.mp h
  cases heq
  simp [(mem_unbroken hbroken).mpr hc]

/-- Addresses below a place are read alike if one of them leads to a server, where the place has a
name in it after a slash. -/
theorem below {l r : List Char} {place rest : String} {u : Url} {port : Nat} {c : Char}
    (hplace : place.toList = l ++ '/' :: r) (hc : c ∈ r) (alphanumeric : c.isAlphanum = true)
    (h : parse? (place ++ "/" ++ rest) = some u)
    (server : Kind.ofScheme u.scheme = .server port) :
    ∃ a way, Below place u.scheme port a way := by
  have hclean (x : String) : clean (place ++ "/" ++ x).toList =
      unbroken (place.toList.dropWhile isBlank) ++
        '/' :: unbroken (x.toList.rdropWhile isBlank) := by
    have hsplit : (place ++ "/" ++ x).toList = place.toList ++ '/' :: x.toList := by simp
    rw [hsplit, clean_append_slash]
  obtain ⟨_, hread, -⟩ := parse?_eq_some h server
  rw [hclean, scheme?_append_slash] at hread
  obtain ⟨⟨scheme, t⟩, hfront, heq⟩ := Option.map_eq_some_iff.mp hread
  cases heq
  -- Slashes after the scheme are skipped, but they do not reach as far as the end of the place.
  have hmem : c ∈ t := alphanumeric_after_scheme hc alphanumeric (hplace ▸ hfront)
  have hrest : t.dropWhile (Kind.server port).isSlash ≠ [] :=
    List.ne_nil_of_mem ((mem_dropWhile (not_isSlash _ alphanumeric)).mpr hmem)
  have hparse (x : String) : parse? (place ++ "/" ++ x) = located? u.scheme
      (t.dropWhile (Kind.server port).isSlash ++
        '/' :: unbroken (x.toList.rdropWhile isBlank)) := by
    simp only [parse?, hclean, scheme?_append_slash, hfront, Option.map_some, Option.bind_eq_bind,
      Option.bind_some, server, List.dropWhile_append, List.isEmpty_iff, if_neg hrest]
  rw [hparse, located?, server] at h
  simp only [Option.bind_eq_bind, Option.bind_eq_some_iff] at h
  obtain ⟨⟨a, after⟩, ha, -⟩ := h
  refine ⟨a, (t.dropWhile (Kind.server port).isSlash).dropWhile (!(Kind.server port).endsHost ·),
    server, fun x => ?_, fun c w hway => ?_, fun c hc => ?_⟩
  · rw [hparse, located?, server]
    simp only [authority?_append_slash ha, Option.bind_eq_bind, Option.bind_some]
  · have hhead := List.head?_dropWhile_not (!(Kind.server port).endsHost ·)
      (t.dropWhile (Kind.server port).isSlash)
    rw [hway] at hhead
    simpa using hhead
  · have hmark : isSchemeChar c = false ∧ c ≠ ':' ∧ isBlank c = false ∧
        (c ≠ '\t' ∧ c ≠ '\n' ∧ c ≠ '\r') ∧ (Kind.server port).isSlash c = false ∧
        (!(Kind.server port).endsHost c) = false := by
      rcases hc with rfl | rfl <;> exact ⟨by decide, by decide, by decide, by decide, rfl, rfl⟩
    obtain ⟨hscheme, hcolon, hblank, hbroken, hslash, hends⟩ := hmark
    rw [mem_dropWhile hends, mem_dropWhile hslash, mem_of_scheme? hfront hscheme hcolon,
      mem_unbroken hbroken, mem_dropWhile hblank]

/-- The pieces of the way to a place, whose first slash is left out. -/
def wayPieces (k : Kind) : List Char → List (List Char)
  | [] => []
  | _ :: t => segments k t

theorem pathAtHost_way {k : Kind} {way : List Char}
    (start : ∀ c t, way = c :: t → k.isSlash c) (t : List Char) :
    pathAtHost k (way ++ '/' :: t) = .rooted (resolve k [] (wayPieces k way ++ segments k t)) := by
  have hslash : k.isSlash '/' = true := by simp [Kind.isSlash]
  cases way with
  | nil => simp [pathAtHost, hslash, wayPieces, Path.segmentsOf]
  | cons c w =>
    simp [pathAtHost, start c w rfl, wayPieces, Path.segmentsOf, segments_append_slash hslash]

/-- Whether a text has neither a question mark nor a number sign in it. -/
def isUnmarked (t : List Char) : Bool := t.all fun c => c ≠ '?' && c ≠ '#'

theorem isUnmarked_iff {t : List Char} : isUnmarked t ↔ '?' ∉ t ∧ '#' ∉ t := by
  simp only [isUnmarked, List.all_eq_true, Bool.and_eq_true, decide_eq_true_eq]
  constructor
  · intro h
    exact ⟨fun hc => (h _ hc).1 rfl, fun hc => (h _ hc).2 rfl⟩
  · rintro ⟨hquestion, hnumber⟩ c hc
    exact ⟨fun he => hquestion (he ▸ hc), fun he => hnumber (he ▸ hc)⟩

theorem isUnmarked_append (t t' : List Char) :
    isUnmarked (t ++ t') = (isUnmarked t && isUnmarked t') := List.all_append

theorem not_mem_queryText {k : Kind} {query : Option (List Char)}
    (verbatim : ∀ q ∈ query, q.all (inQuery k)) : '#' ∉ queryText query := by
  cases query with
  | none => exact List.not_mem_nil
  | some q =>
    intro h
    rcases List.mem_cons.mp h with h | h
    · cases h
    · have hsign := List.all_eq_true.mp (verbatim q rfl) _ h
      simp [inQuery] at hsign

/-- A text with a query at its end has that query, and no fragment, if and only if no mark comes
before. -/
theorem finish_query {scheme : String} {authority : Option Authority} {path : List Char → Path}
    {t : List Char} {query : Option (List Char)} {u : Url}
    (verbatim : ∀ q ∈ query, q.all (inQuery (Kind.ofScheme scheme)))
    (hu : u = finish scheme authority path (t ++ queryText query)) :
    (u.query = query ∧ u.fragment = none ↔ isUnmarked t) ∧ (isUnmarked t → u.path = path t) := by
  subst hu
  have hsign : '#' ∈ t ++ queryText query ↔ '#' ∈ t := by
    rw [List.mem_append, or_iff_left (not_mem_queryText verbatim)]
  by_cases hnumber : '#' ∈ t
  · have hmarked : ¬isUnmarked t := fun h => (isUnmarked_iff.mp h).2 hnumber
    refine ⟨iff_of_false (fun h => ?_) hmarked, fun h => absurd h hmarked⟩
    have hfragment := Option.map_eq_none_iff.mp h.2
    exact split_snd_eq_none.mp hfragment (hsign.mpr hnumber)
  · rw [finish, split_of_not_mem (mt hsign.mp hnumber)]
    refine ⟨?_, fun h => ?_⟩
    · rw [isUnmarked_iff]
      simpa [hnumber] using split_query verbatim t
    · simp only [split_append (isUnmarked_iff.mp h).1]
      cases query <;> simp [queryText, split, Text.cut?]

variable {place scheme : String} {port : Nat} {a : Authority} {way : List Char}

theorem Below.isUnmarked_way (h : Below place scheme port a way) :
    isUnmarked way ↔ isUnmarked place.toList := by
  rw [isUnmarked_iff, isUnmarked_iff, h.marks '?' (.inl rfl), h.marks '#' (.inr rfl)]

/-- An address below a place has the query that is written at its end, and no fragment, if and only
if no mark comes before. It leads along the way to the place and further. -/
theorem Below.parsed (h : Below place scheme port a way) {rest : String} {front : List Char}
    {query : Option (List Char)} (verbatim : ∀ q ∈ query, q.all (inQuery (.server port)))
    (hrest : unbroken (rest.toList.rdropWhile isBlank) = front ++ queryText query) :
    ∃ u, parse? (place ++ "/" ++ rest) = some u ∧ u.scheme = scheme ∧ u.authority = some a ∧
      (u.query = query ∧ u.fragment = none ↔ isUnmarked place.toList ∧ isUnmarked front) ∧
      (isUnmarked place.toList → isUnmarked front → u.path =
        .rooted (resolve (.server port) [] (wayPieces (.server port) way ++
          segments (.server port) front))) := by
  have hslash : isUnmarked (way ++ '/' :: front) ↔ isUnmarked place.toList ∧ isUnmarked front := by
    rw [isUnmarked_append, Bool.and_eq_true, h.isUnmarked_way]
    exact Iff.rfl
  have hread := h.reads rest
  rw [hrest, ← List.cons_append, ← List.append_assoc] at hread
  have hparts := finish_query (h.server ▸ verbatim)
    (rfl : _ = finish scheme (some a) (pathAtHost (.server port))
      (way ++ '/' :: front ++ queryText query))
  refine ⟨_, hread, rfl, rfl, hparts.1.trans hslash, fun hplace hfront => ?_⟩
  rw [hparts.2 (hslash.mpr ⟨hplace, hfront⟩)]
  refine pathAtHost_way (fun c t hway => ?_) front
  have hends := h.start c t hway
  have hunmarked := List.all_eq_true.mp (h.isUnmarked_way.mpr hplace) c (by simp [hway])
  simp only [Bool.and_eq_true, decide_eq_true_eq] at hunmarked
  simpa [Kind.endsHost, hunmarked.1, hunmarked.2] using hends

end ClusterAdmin.Rest.Url
