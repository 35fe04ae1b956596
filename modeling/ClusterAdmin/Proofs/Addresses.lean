import ClusterAdmin.Proofs.Identifiers
import ClusterAdmin.Proofs.Places

namespace ClusterAdmin

open Rest Url

namespace Errand

/-- The topic that is asked about at an address of its own. -/
def topic? : Errand → Option String
  | topic name | partitions name | configs name | replicas name _ | lookFor name | delete name =>
    some name
  | clusters | topics | create _ => none

/-- The segments that follow the topic's. -/
def below : Errand → List String
  | partitions _ => ["partitions"]
  | configs _ => ["configs"]
  | replicas _ partition => ["partitions", toString partition.toInt, "replicas"]
  | _ => []

def query? : Errand → Option String
  | topics | topic _ => some "includeAuthorizedOperations=true"
  | _ => none

/-- Whether the address ends in the topic's name. -/
def endsInName : Errand → Bool
  | lookFor _ | delete _ => true
  | _ => false

end Errand

namespace Rest.Url

def isWord (c : Char) : Bool := c.isAlphanum || c = '-'

theorem isWord_range {c : Char} (h : isWord c) : 45 ≤ c.toNat ∧ c.toNat ≤ 122 := by
  simp only [isWord, Char.isAlphanum, Char.isDigit, Bool.or_eq_true, decide_eq_true_eq] at h
  delta Char.isAlpha Char.isUpper Char.isLower at h
  simp only [Bool.or_eq_true, Bool.and_eq_true, decide_eq_true_eq, ge_iff_le,
    UInt32.le_iff_toNat_le] at h
  rcases h with ((h | h) | h) | rfl
  · simp at h
    omega
  · simp at h
    omega
  · simp at h
    omega
  · decide

theorem ne_of_isWord {c d : Char} (h : isWord c) (hd : isWord d = false) : c ≠ d := by
  rintro rfl
  rw [h] at hd
  cases hd

theorem inPath_of_isWord {c : Char} (h : isWord c) : inPath c := by
  have hrange := isWord_range h
  have hforbidden : ['"', '#', '<', '>', '?', '`', '\x7b', '\x7d'].all fun x => !isWord x := by
    decide
  have hvisible : isVisible c = true := by
    simp only [isVisible, Bool.and_eq_true, decide_eq_true_eq]
    omega
  simp only [inPath, hvisible, Bool.true_and, decide_eq_true_eq]
  intro hc
  have hnot := List.all_eq_true.mp hforbidden c hc
  simp [h] at hnot

theorem isWord_of_mem_toString {i : Int} {c : Char} (h : c ∈ (toString i).toList) : isWord c := by
  have hdigits {n : Nat} (h : c ∈ n.repr.toList) : isWord c := by
    have hdigit : c.isDigit = true :=
      Nat.isDigit_of_mem_toDigits (b := 10) (by decide) (by decide) (by simpa [Nat.repr] using h)
    simp [isWord, Char.isAlphanum, hdigit]
  rw [Int.toString_eq_repr, Int.repr_eq_if] at h
  split at h
  · exact hdigits h
  · rw [String.toList_append, List.mem_append] at h
    rcases h with h | h
    · obtain rfl : c = '-' := by simpa using h
      rfl
    · exact hdigits h

/-- A text of such characters is a segment as it stands. -/
theorem isName_of_isWord {t : List Char} (h : t.all isWord) : isName t := by
  have hnot {c : Char} (hc : isWord c = false) : c ∉ t :=
    fun hmem => ne_of_isWord (List.all_eq_true.mp h c hmem) hc rfl
  have hdot : '.' ∉ t := hnot (by decide)
  refine (isName_iff (Text.Percent.isLiteral_of_not_mem (hnot (by decide)))).mpr ⟨?_, ?_⟩
  all_goals
    rintro rfl
    exact hdot (by decide)

theorem encode_of_isWord {t : List Char} (h : t.all isWord) :
    Text.Percent.encode inPath t = t :=
  Text.Percent.encode_eq_self (List.all_eq_true.mpr fun c hc =>
    inPath_of_isWord (List.all_eq_true.mp h c hc))

end Rest.Url

namespace Errand

variable {e : Errand} {name : String}

theorem isWord_below (e : Errand) : ∀ s ∈ e.below.map String.toList, s.all isWord := by
  have hpartition (i : Int) : (toString i).toList.all isWord :=
    List.all_eq_true.mpr fun _ => isWord_of_mem_toString
  cases e with
  | partitions | configs =>
    simp only [below, List.map_cons, List.map_nil, List.forall_mem_singleton]
    decide
  | replicas name partition =>
    simp only [below, List.map_cons, List.map_nil, List.forall_mem_cons, hpartition]
    decide
  | _ => exact fun s hs => absurd hs List.not_mem_nil

/-- What an address has after the topic's name. -/
def tail (e : Errand) : List Char :=
  (e.below.map String.toList).flatMap ('/' :: ·) ++ queryText (e.query?.map String.toList)

theorem place_of_topic? (about : e.topic? = some name) :
    ∃ rest, e.place = "/" ++ rest ∧
      rest.toList = "topics".toList ++ '/' :: (name.toList ++ e.tail) := by
  cases e with
  | clusters | topics | create => cases about
  | _ =>
    cases about
    refine ⟨String.ofList ("topics".toList ++ '/' :: (name.toList ++ tail _)), ?_,
      String.toList_ofList⟩
    simp [← String.toList_inj, place, tail, below, query?, queryText]

/-- What is read of a name in an address. Blanks at the end of an address do not belong to it. -/
def heard (e : Errand) (name : String) : List Char :=
  unbroken (if e.endsInName then name.toList.rdropWhile isBlank else name.toList)

theorem heard_sublist (e : Errand) (name : String) : (e.heard name).Sublist name.toList := by
  rw [heard]
  refine List.filter_sublist.trans ?_
  split
  · exact (List.rdropWhile_prefix _ _).sublist
  · exact List.Sublist.refl _

theorem rdropWhile_tail (about : e.topic? = some name) (t : List Char) :
    (t ++ e.tail).rdropWhile isBlank =
      (if e.endsInName then t.rdropWhile isBlank else t) ++ e.tail := by
  have hstays (l : List Char) {c : Char} {w : List Char} (hc : isBlank c = false)
      (hw : w.rdropWhile isBlank = w) : (l ++ c :: w).rdropWhile isBlank = l ++ c :: w := by
    rw [rdropWhile_append_cons hc, hw]
  cases e with
  | clusters | topics | create => cases about
  | lookFor | delete => simp [tail, below, query?, queryText, endsInName]
  | topic => exact hstays t (c := '?') (by decide) (by decide)
  | partitions => exact hstays t (c := '/') (w := "partitions".toList) (by decide) (by decide)
  | configs => exact hstays t (c := '/') (w := "configs".toList) (by decide) (by decide)
  | replicas name partition =>
    have h := hstays (t ++ "/partitions/".toList ++ (toString partition.toInt).toList) (c := '/')
      (w := "replicas".toList) (by decide) (by decide)
    simpa [tail, below, query?, queryText, endsInName] using h

theorem unbroken_tail (e : Errand) : unbroken e.tail = e.tail := by
  have hquery : unbroken (queryText (e.query?.map String.toList)) =
      queryText (e.query?.map String.toList) := by
    cases e <;> rfl
  rw [tail, unbroken_append, hquery]
  refine congrArg (· ++ _) (List.filter_eq_self.mpr fun c hc => decide_eq_true ?_)
  obtain ⟨s, hs, hc⟩ := List.mem_flatMap.mp hc
  rcases List.mem_cons.mp hc with rfl | hc
  · decide
  · have hword := List.all_eq_true.mp (e.isWord_below s hs) c hc
    exact ⟨ne_of_isWord hword (by decide), ne_of_isWord hword (by decide),
      ne_of_isWord hword (by decide)⟩

theorem clean_rest (about : e.topic? = some name) {rest : String}
    (hrest : rest.toList = "topics".toList ++ '/' :: (name.toList ++ e.tail)) :
    unbroken (rest.toList.rdropWhile isBlank) =
      "topics".toList ++ '/' :: (e.heard name ++ (e.below.map String.toList).flatMap ('/' :: ·)) ++
        queryText (e.query?.map String.toList) := by
  have htopics (t : List Char) : unbroken ("topics".toList ++ '/' :: t) =
      "topics".toList ++ '/' :: unbroken t := by
    rw [unbroken_append]
    rfl
  rw [hrest, rdropWhile_append_cons (by decide), rdropWhile_tail about, htopics, unbroken_append,
    unbroken_tail, heard, tail]
  simp

end Errand

namespace Rest.Url

variable {k : Kind} {ss : List (List Char)}

theorem segments_flatMap (h : ∀ s ∈ ss, s.all isWord) (t : List Char) :
    segments k (t ++ ss.flatMap ('/' :: ·)) = segments k t ++ ss := by
  induction ss generalizing t with
  | nil => simp
  | cons s ss ih =>
    have hslash : k.isSlash '/' = true := by simp [Kind.isSlash]
    have hs : ∀ c ∈ s, k.isSlash c = false := fun c hc => by
      have hword := List.all_eq_true.mp (h s (by simp)) c hc
      simp [Kind.isSlash, ne_of_isWord hword (by decide : isWord '/' = false),
        ne_of_isWord hword (by decide : isWord '\\' = false)]
    rw [List.flatMap_cons, List.cons_append, segments_append_slash hslash,
      ih (fun x hx => h x (by simp [hx])), segments_of_no_slash hs, List.singleton_append]

theorem isUnmarked_flatMap (h : ∀ s ∈ ss, s.all isWord) : isUnmarked (ss.flatMap ('/' :: ·)) := by
  refine List.all_eq_true.mpr fun c hc => ?_
  obtain ⟨s, hs, hc⟩ := List.mem_flatMap.mp hc
  rcases List.mem_cons.mp hc with rfl | hc
  · decide
  · have hword := List.all_eq_true.mp (h s hs) c hc
    simp [ne_of_isWord hword (by decide : isWord '?' = false),
      ne_of_isWord hword (by decide : isWord '#' = false)]

/-- An address below a place leads to the place's topics, one segment further that stands for a
name, and on by what is fixed. It has no other query and no fragment. -/
def Leads (place : String) (e : Errand) (name : String) (u : Url) : Prop :=
  ∃ v above s, parse? (place ++ "/topics") = some v ∧
    v.path = .rooted (above ++ ["topics".toList]) ∧
    Text.Percent.decode s = Bytes.ofText name ∧
    u.anonymous = { v.anonymous with
      path := .rooted (above ++ "topics".toList :: s :: e.below.map String.toList)
      query := e.query?.map String.toList
      fragment := none }

/-- Two names have no address in common that leads to both. -/
theorem Leads.name_eq {place : String} {e e' : Errand} {name name' : String} {u u' : Url}
    (h : Leads place e name u) (h' : Leads place e' name' u') (same : u.path = u'.path) :
    name = name' := by
  obtain ⟨v, above, s, hv, habove, hs, hu⟩ := h
  obtain ⟨v', above', s', hv', habove', hs', hu'⟩ := h'
  cases hv.symm.trans hv'
  have hpath : Path.rooted (above ++ "topics".toList :: s :: e.below.map String.toList) =
      .rooted (above' ++ "topics".toList :: s' :: e'.below.map String.toList) :=
    (congrArg Url.path hu).symm.trans (same.trans (congrArg Url.path hu'))
  obtain ⟨rfl, -⟩ := List.append_inj' (Path.rooted.inj (habove.symm.trans habove')) rfl
  obtain ⟨-, hsegments⟩ := List.cons.inj (List.append_cancel_left (Path.rooted.inj hpath))
  obtain ⟨rfl, -⟩ := List.cons.inj hsegments
  have htext := congrArg Bytes.toText? (hs.symm.trans hs')
  simpa using htext

/-- A name in which nothing means anything to an address. -/
structure Plain (name : String) : Prop where
  clear : ∀ c ∈ name.toList, c ∉ ['/', '\\', '?', '#', '\t', '\n', '\r']
  /-- No percent sign has two hexadecimal digits after it. -/
  literal : Text.Percent.isLiteral name.toList
  notDots : name ≠ "." ∧ name ≠ ".."

/-- What it takes for the address of an errand to lead to a topic's own segment below a place. -/
structure Locatable (place : String) (e : Errand) (name : String) : Prop where
  unmarked : isUnmarked place.toList
  plain : Plain name
  /-- Blanks at the end of an address are dropped. -/
  ending : e.endsInName → ∀ c, name.toList.getLast? = some c → isBlank c = false

theorem Locatable.heard {place name : String} {e : Errand} (h : Locatable place e name) :
    e.heard name = name.toList := by
  have hends : (if e.endsInName then name.toList.rdropWhile isBlank else name.toList) =
      name.toList := by
    split
    · rename_i hends
      refine List.rdropWhile_eq_self_iff.mpr fun hne => ?_
      simp [h.ending hends _ (List.getLast?_eq_some_getLast hne)]
    · rfl
  rw [Errand.heard, hends]
  refine List.filter_eq_self.mpr fun c hc => decide_eq_true ?_
  have hclear := h.plain.clear c hc
  simp only [List.mem_cons, not_or] at hclear
  exact ⟨hclear.2.2.2.2.1, hclear.2.2.2.2.2.1, hclear.2.2.2.2.2.2.1⟩

theorem Locatable.of_empty {place name : String} {e : Errand} (unmarked : isUnmarked place.toList)
    (h : name = "") : Locatable place e name := by
  subst h
  exact ⟨unmarked, ⟨by simp, by decide, by decide⟩, by simp⟩

theorem Plain.isUnmarked {name : String} (h : Plain name) : isUnmarked name.toList := by
  refine List.all_eq_true.mpr fun c hc => ?_
  have hclear := h.clear c hc
  simp only [List.mem_cons, not_or] at hclear
  simp [hclear]

theorem Plain.no_slash {name : String} {k : Kind} (h : Plain name) :
    ∀ c ∈ name.toList, k.isSlash c = false := by
  intro c hc
  have hclear := h.clear c hc
  simp only [List.mem_cons, not_or] at hclear
  simp [Kind.isSlash, hclear]

theorem Plain.isName {name : String} (h : Plain name) : isName name.toList := by
  refine (isName_iff h.literal).mpr ⟨fun he => h.notDots.1 ?_, fun he => h.notDots.2 ?_⟩
  all_goals
    rw [← String.toList_inj, he]
    rfl

/-- What is read of a name is the name only if nothing in it was taken for something else. -/
theorem Locatable.of_segment {place name : String} {e : Errand} {port : Nat} {t : List Char}
    (unmarked : isUnmarked place.toList) (hheard : isUnmarked (e.heard name))
    (ht : t ∈ segments (.server port) (e.heard name)) (hname : isName t)
    (stands : Text.Percent.decode t = Bytes.ofText name) : Locatable place e name := by
  obtain ⟨hsub, hslash⟩ := sublist_of_mem_segments ht
  have hle := Text.Percent.length_decode_le t
  rw [stands, ← Text.Percent.octets_toList] at hle
  obtain rfl := Text.Percent.eq_of_sublist (hsub.trans (e.heard_sublist name)) hle
  have hsame : e.heard name = name.toList := (e.heard_sublist name).antisymm hsub
  have hliteral : Text.Percent.isLiteral name.toList := by
    rw [← Text.Percent.decode_eq_octets, stands, Text.Percent.octets_toList]
  have hdots := (isName_iff hliteral).mp hname
  refine ⟨unmarked, ⟨fun c hc => ?_, hliteral, ?_⟩, fun hends c hc => ?_⟩
  · have hslash := hslash c hc
    have hbroken := (List.mem_filter.mp (show c ∈ unbroken _ from hsame ▸ hc)).2
    have hmark := List.all_eq_true.mp hheard c (hsame ▸ hc)
    simp only [decide_eq_true_eq] at hbroken
    simp only [Bool.and_eq_true, decide_eq_true_eq] at hmark
    simp [Kind.isSlash, Kind.isKnown] at hslash
    simp [hslash, hbroken, hmark]
  · exact ⟨fun he => hdots.1 (by rw [he]; rfl), fun he => hdots.2 (by rw [he]; rfl)⟩
  · have hdrop : name.toList.rdropWhile isBlank = name.toList := by
      have hpart : (e.heard name).Sublist (name.toList.rdropWhile isBlank) := by
        rw [Errand.heard, if_pos hends]
        exact List.filter_sublist
      exact (List.rdropWhile_prefix _ _).sublist.antisymm (hsame ▸ hpart)
    have hlast := List.rdropWhile_eq_self_iff.mp hdrop
      (List.ne_nil_of_mem (List.mem_of_getLast? hc))
    rw [List.getLast_of_getLast?_eq_some hc] at hlast
    simpa using hlast

theorem isName_topics : isName "topics".toList := isName_of_isWord (by decide)

/-- At the segment for topics, all dot segments of the way to the place have been resolved. -/
theorem resolve_topics {k : Kind} (hk : k ≠ .file) (way ss : List (List Char)) :
    resolve k [] (way ++ "topics".toList :: ss) =
      resolve k ("topics".toList :: way.foldl (walk k) []) ss := by
  rw [resolve_append_cons, resolve_name isName_topics, segment_eq_encode hk]
  rfl

/-- How the address of an errand is read, beside the address of the topics at its place. -/
structure Read (place : String) (e : Errand) (name : String) (port : Nat)
    (above : List (List Char)) (v u : Url) : Prop where
  topics : parse? (place ++ "/topics") = some v
  path_topics : isUnmarked place.toList → v.path = .rooted (above.reverse ++ ["topics".toList])
  scheme : u.scheme = v.scheme
  authority : u.authority = v.authority
  query : u.query = e.query?.map String.toList ∧ u.fragment = none ↔
    isUnmarked place.toList ∧ isUnmarked (e.heard name)
  path : isUnmarked place.toList → isUnmarked (e.heard name) → u.path =
    .rooted (resolve (.server port) ("topics".toList :: above)
      (segments (.server port) (e.heard name) ++ e.below.map String.toList))

theorem read {place scheme name : String} {port : Nat} {a : Authority} {way : List Char}
    {e : Errand} {u : Url} (h : Below place scheme port a way) (about : e.topic? = some name)
    (hu : parse? (place ++ e.place) = some u) : ∃ above v, Read place e name port above v u := by
  obtain ⟨rest, hplace, hrest⟩ := Errand.place_of_topic? about
  have hk : Kind.server port ≠ .file := by simp
  have hslash : (Kind.server port).isSlash '/' = true := rfl
  obtain ⟨v, hv, hvscheme, hvauthority, -, hvpath⟩ := h.parsed (by simp)
    (by decide : unbroken ("topics".toList.rdropWhile isBlank) = "topics".toList ++ queryText none)
  have hverbatim : ∀ q ∈ e.query?.map String.toList, q.all (inQuery (.server port)) := by
    cases e <;> simp only [Errand.query?, Option.map_some, Option.map_none, Option.mem_def,
      Option.some.injEq, reduceCtorEq, false_imp_iff, implies_true, forall_eq'] <;> rfl
  obtain ⟨u', hu', huscheme, huauthority, huquery, hupath⟩ :=
    h.parsed hverbatim (Errand.clean_rest about hrest)
  rw [String.append_assoc, ← hplace, hu] at hu'
  cases hu'
  have hunmarked : isUnmarked ("topics".toList ++ '/' :: (e.heard name ++
      (e.below.map String.toList).flatMap ('/' :: ·))) ↔ isUnmarked (e.heard name) := by
    have htopics (t : List Char) : isUnmarked ("topics".toList ++ '/' :: t) = isUnmarked t := by
      rw [isUnmarked_append]
      rfl
    rw [htopics, isUnmarked_append, isUnmarked_flatMap e.isWord_below, Bool.and_true]
  have hsegments : segments (.server port) ("topics".toList ++ '/' :: (e.heard name ++
      (e.below.map String.toList).flatMap ('/' :: ·))) = "topics".toList ::
        (segments (.server port) (e.heard name) ++ e.below.map String.toList) := by
    rw [segments_append_slash hslash, segments_flatMap e.isWord_below]
    rfl
  rw [hunmarked] at huquery hupath
  refine ⟨(wayPieces (.server port) way).foldl (walk (.server port)) [], v,
    by rwa [String.append_assoc] at hv, fun hplace => ?_, huscheme.trans hvscheme.symm,
    huauthority.trans hvauthority.symm, huquery, fun hplace hheard => ?_⟩
  · rw [hvpath hplace (by decide), show segments (.server port) "topics".toList =
      "topics".toList :: [] from rfl, resolve_topics hk, resolve, List.reverse_cons]
  · rw [hupath hplace hheard, hsegments, resolve_topics hk]

/-- An address leads to the topic that it was made for if and only if it can. -/
theorem Read.leads_iff {place name : String} {port : Nat} {above : List (List Char)} {e : Errand}
    {v u : Url} (h : Read place e name port above v u) :
    Leads place e name u ↔ Locatable place e name := by
  have hk : Kind.server port ≠ .file := by simp
  have hnames : ∀ n ∈ e.below.map String.toList, isName n :=
    fun n hn => isName_of_isWord (e.isWord_below n hn)
  have hverbatim : ∀ n ∈ e.below.map String.toList, Text.Percent.encode inPath n = n :=
    fun n hn => encode_of_isWord (e.isWord_below n hn)
  constructor
  · rintro ⟨v', above', s, hv, habove, hs, hu⟩
    cases h.topics.symm.trans hv
    obtain ⟨hplace, hheard⟩ := h.query.mp ⟨congrArg Url.query hu, congrArg Url.fragment hu⟩
    have hpath : u.path = .rooted (above' ++ "topics".toList :: s :: e.below.map String.toList) :=
      congrArg Url.path hu
    obtain ⟨rfl, -⟩ :=
      List.append_inj' (Path.rooted.inj ((h.path_topics hplace).symm.trans habove)) rfl
    have hresolve : resolve (.server port) ("topics".toList :: above)
        (segments (.server port) (e.heard name) ++ e.below.map String.toList) =
          ("topics".toList :: above).reverse ++ s :: e.below.map String.toList := by
      simpa using Path.rooted.inj ((h.path hplace hheard).symm.trans hpath)
    rcases resolve_eq_append_cons hk (segments_ne_nil _) hnames hverbatim hresolve with
      ⟨rfl, -⟩ | ⟨t, ht, hname, rfl⟩
    · have hempty := Text.Percent.eq_of_sublist (List.nil_sublist name.toList)
        (by rw [Text.Percent.octets_toList, ← hs]; exact Nat.le_refl 0)
      exact .of_empty hplace (String.toList_eq_nil_iff.mp hempty.symm)
    · rw [decode_encode_inPath] at hs
      exact .of_segment hplace hheard ht hname hs
  · intro hloc
    have hheard := hloc.heard
    have hunmarked : isUnmarked (e.heard name) := hheard ▸ hloc.plain.isUnmarked
    obtain ⟨hquery, hfragment⟩ := h.query.mpr ⟨hloc.unmarked, hunmarked⟩
    refine ⟨v, above.reverse, Text.Percent.encode inPath name.toList, h.topics,
      h.path_topics hloc.unmarked, ?_, ?_⟩
    · rw [decode_encode_inPath, (Text.Percent.decode_eq_octets _).mpr hloc.plain.literal,
        Text.Percent.octets_toList]
    · have hall : ∀ n ∈ name.toList :: e.below.map String.toList, isName n :=
        List.forall_mem_cons.mpr ⟨hloc.plain.isName, hnames⟩
      have hsame := (List.map_congr_left hverbatim).trans (List.map_id _)
      have hpath := h.path hloc.unmarked hunmarked
      rw [hheard, segments_of_no_slash hloc.plain.no_slash, List.singleton_append,
        resolve_names hk hall, List.map_cons, hsame, List.reverse_cons, List.append_assoc,
        List.singleton_append] at hpath
      simp only [Url.anonymous, h.scheme, h.authority, hpath, hquery, hfragment]

end Rest.Url

/-- Where a proxy at an endpoint keeps what belongs to the cluster it knows by an identifier. -/
def clusterPlace (base : String) (flavor : Flavor) (id : String) : String :=
  base ++ flavor.pathPrefix ++ "/clusters/" ++ id

theorem Errand.address_eq {e : Errand} {name : String} (about : e.topic? = some name)
    (base : String) (flavor : Flavor) (id : String) :
    e.address base flavor id = clusterPlace base flavor id ++ e.place := by
  cases e with
  | clusters | topics | create => cases about
  | _ => rfl

theorem toList_clusterPlace (base : String) (flavor : Flavor) (id : String) :
    (clusterPlace base flavor id).toList =
      (base ++ flavor.pathPrefix).toList ++ '/' :: ("clusters/".toList ++ id.toList) := by
  simp [clusterPlace]

/-- The topic that a call is about. -/
def TopicCall.topic? : TopicCall → Option String
  | describe name | lookFor name | delete name => some name
  | list _ | create _ => none

theorem TopicCall.Runs.topic? {call : TopicCall} {e : Errand} {name : String} (h : call.Runs e)
    (about : call.topic? = some name) : e.topic? = some name := by
  cases call with
  | list | create => cases about
  | describe =>
    cases about
    cases h <;> rfl
  | lookFor | delete =>
    cases about
    cases h
    rfl

/-- A request leads to the topic that it was made for if and only if it can. -/
theorem Rest.HttpRequest.leads_iff {base id name : String} {flavor : Flavor} {e : Errand}
    {own : Option String} {r : HttpRequest} (about : e.topic? = some name)
    (h : make e.method (e.address base flavor id) own e.body = .ok r) : r.method = e.method ∧
      (Leads (clusterPlace base flavor id) e name r.url ↔
        Locatable (clusterPlace base flavor id) e name) := by
  obtain ⟨whole, hmade⟩ := HttpRequest.made h
  obtain ⟨port, server⟩ := hmade.server
  have hparsed := hmade.parsed
  rw [Errand.address_eq about] at hparsed
  obtain ⟨rest, hplace, -⟩ := Errand.place_of_topic? about
  obtain ⟨a, way, hbelow⟩ := below (toList_clusterPlace base flavor id)
    (show 'c' ∈ _ by simp) (by decide)
    (by rwa [hplace, ← String.append_assoc] at hparsed) server
  obtain ⟨above, v, hread⟩ := read hbelow about hparsed
  have hanonymous : r.url.anonymous = whole.anonymous := by
    rw [hmade.url]
    split
    · simp [Url.anonymous, Function.comp_def]
    · rfl
  refine ⟨hmade.method, ?_⟩
  rw [← hread.leads_iff, Leads, Leads, hanonymous]

open Services

/-- Requests about a topic are for its cluster's place at the proxy, once a local proxy that is not
known yet was asked which clusters it has. One leads there to the topic's own segment, and to
nothing else, if and only if neither the place nor the name has anything in it that means something
to an address. Requests about two topics that lead there lead apart. -/
theorem topics_located (s : Services) (flavor : Flavor) (c : Cluster) {call : TopicCall}
    {name : String} (about : call.topic? = some name) :
    ∃ sent, (s.act (.topics (.rest flavor) c call)).web.sent = s.web.sent ++ sent ∧
      ∀ r ∈ sent, ∃ base, baseUrl c = .ok base ∧
        ((flavor = .localProxy ∧ s.proxyIds.find? c.clusterId = none ∧
            AsksForClusters base flavor r) ∨
          ∃ id e, (s.act (.topics (.rest flavor) c call)).Knows c flavor id ∧ call.Runs e ∧
            r.method = e.method ∧
            (Leads (clusterPlace base flavor id) e name r.url ↔
              Locatable (clusterPlace base flavor id) e name) ∧
            (Leads (clusterPlace base flavor id) e name r.url → ∀ e' name' u',
              Leads (clusterPlace base flavor id) e' name' u' → u'.path = r.url.path →
                name' = name)) := by
  obtain ⟨ds, hds, hall⟩ := s.proxied_topics flavor c call
  refine ⟨ds.map (·.request), hds.sent, fun r hr => ?_⟩
  obtain ⟨d, hd, rfl⟩ := List.mem_map.mp hr
  obtain ⟨before, after, hsplit⟩ := List.append_of_mem hd
  obtain ⟨mid, hbefore, hsends, hafter⟩ := hds.around hsplit
  obtain ⟨base, id, own, endpoint, -, hmake, hknows⟩ := hsends.made
  refine ⟨base, endpoint, ?_⟩
  rcases hall d hd with hclusters | hruns
  · obtain ⟨hdiscovers, hunknown⟩ := hsends.unknown hclusters
    refine .inl ⟨hsends.localProxy hclusters, ?_, own,
      by simpa [hclusters, Errand.method, Errand.address, Errand.body] using hmake⟩
    refine Option.eq_none_iff_forall_ne_some.mpr fun known hknown => ?_
    have hstill : mid.Knows c flavor known := hbefore.knows (by simpa [Knows, hdiscovers])
    simp [Knows, hdiscovers, hunknown] at hstill
  · have htopic := hruns.topic? about
    have hne : d.errand ≠ .clusters := by
      intro he
      rw [he] at htopic
      cases htopic
    obtain ⟨hmethod, hleads⟩ := HttpRequest.leads_iff htopic hmake
    refine .inr ⟨id, d.errand, ?_, hruns, hmethod, hleads, fun h e' name' u' h' same =>
      h'.name_eq h same⟩
    have hlearnt : (mid.heeding c d).Knows c flavor id := by
      simpa only [Knows, heeding_of_ne hne] using hknows hne
    exact hafter.knows hlearnt

/-- A proxy that does whatever it is asked. -/
def obedient : Web := ⟨fun _ _ => .answered 204 "", []⟩

/-- The development cluster is administered through it. -/
def development : Cluster := .proxiedAt "conn-1" "dev" "http://proxy"

/-- What is sent to delete a topic of that cluster. -/
def sentToDelete (name : String) : List HttpRequest :=
  (({ Services.idle with web := obedient }).act
    (.topics (.rest .legacy) development (.delete name))).web.sent

/-- A request to delete what is at a path. -/
def deletionAt (path : List String) : HttpRequest where
  method := .delete
  url := ⟨"http", some ⟨[], [], .name "proxy".toList, none⟩, .rooted (path.map String.toList), none,
    none⟩
  authorizations := []
  body := none

theorem sentToDelete_orders :
    sentToDelete "orders" = [deletionAt ["v3", "clusters", "dev", "topics", "orders"]] := by
  decide +kernel

theorem sentToDelete_up :
    sentToDelete "../acls" = [deletionAt ["v3", "clusters", "dev", "acls"]] := by
  decide +kernel

theorem not_asksForClusters_deletionAt (base : String) (flavor : Flavor) (path : List String) :
    ¬AsksForClusters base flavor (deletionAt path) := by
  rintro ⟨own, hmake⟩
  obtain ⟨whole, hmade⟩ := HttpRequest.made hmake
  cases (hmade.method : Method.delete = .get)

theorem baseUrl_development : baseUrl development = .ok "http://proxy" := rfl

/-- A plain name leads to its topic. -/
theorem topics_located_orders : ∃ id e, (TopicCall.delete "orders").Runs e ∧
    Leads (clusterPlace "http://proxy" .legacy id) e "orders"
      (deletionAt ["v3", "clusters", "dev", "topics", "orders"]).url := by
  obtain ⟨sent, hsent, hall⟩ := topics_located { Services.idle with web := obedient } .legacy
    development (rfl : (TopicCall.delete "orders").topic? = some "orders")
  obtain rfl : sentToDelete "orders" = sent := hsent
  obtain ⟨base, endpoint, h⟩ := hall _ (sentToDelete_orders ▸ List.mem_singleton_self _)
  cases baseUrl_development.symm.trans endpoint
  obtain ⟨id, e, hknows, hruns, -, hleads, -⟩ := h.resolve_left nofun
  obtain rfl : id = "dev" := hknows
  obtain rfl : e = .delete "orders" := hruns
  have hplain : Plain "orders" := ⟨by simp, by decide, by decide⟩
  refine ⟨_, _, rfl, hleads.mpr ⟨by decide, hplain, fun _ c hc => ?_⟩⟩
  obtain rfl : 's' = c := Option.some.inj hc
  rfl

/-- Not every name leads to its topic: one with dot segments in it leads elsewhere. -/
theorem topics_astray :
    ¬∀ (s : Services) (flavor : Flavor) (c : Cluster) (call : TopicCall) (name : String),
      call.topic? = some name → ∃ sent,
        (s.act (.topics (.rest flavor) c call)).web.sent = s.web.sent ++ sent ∧
        ∀ r ∈ sent, ∃ base, baseUrl c = .ok base ∧ (AsksForClusters base flavor r ∨
          ∃ id e, (s.act (.topics (.rest flavor) c call)).Knows c flavor id ∧ call.Runs e ∧
            r.method = e.method ∧ Leads (clusterPlace base flavor id) e name r.url) := by
  intro h
  obtain ⟨sent, hsent, hall⟩ := h { Services.idle with web := obedient } .legacy development
    (.delete "../acls") "../acls" rfl
  obtain rfl : sentToDelete "../acls" = sent := hsent
  obtain ⟨base, endpoint, hr⟩ := hall _ (sentToDelete_up ▸ List.mem_singleton_self _)
  cases baseUrl_development.symm.trans endpoint
  obtain ⟨id, e, hknows, hruns, -, v, above, s, hv, habove, -, hu⟩ :=
    hr.resolve_left (not_asksForClusters_deletionAt _ _ _)
  obtain rfl : id = "dev" := hknows
  obtain rfl : e = .delete "../acls" := hruns
  have htopics : (parse? (clusterPlace "http://proxy" .legacy "dev" ++ "/topics")).map (·.path) =
      some (.rooted (["v3", "clusters", "dev", "topics"].map String.toList)) := by decide +kernel
  rw [hv, Option.map_some, habove] at htopics
  have hpath : Path.rooted (["v3", "clusters", "dev", "acls"].map String.toList) =
      .rooted (above ++ "topics".toList :: s :: []) := congrArg Url.path hu
  have hlength := congrArg List.length (Path.rooted.inj (Option.some.inj htopics))
  have hlength' := congrArg List.length (Path.rooted.inj hpath)
  simp at hlength hlength'
  omega

end ClusterAdmin
