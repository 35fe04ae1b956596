import Mathlib.Data.List.DropRight
import ClusterAdmin.Services.Proxy

namespace ClusterAdmin

/-- A local cluster with its proxy at an endpoint. -/
def Cluster.proxiedAt (connectionId clusterId base : String) : Cluster :=
  ⟨connectionId, clusterId, .selfHostedLocal, [], some base, .nativeSockets⟩

namespace Rest

/-- The name and the password that a URL holds. -/
def Url.login? (u : Url) : Option (String × Option String) := u.authority.bind Authority.login?

/-- The login that an endpoint holds. -/
def endpointLogin? (base : String) : Option (String × Option String) :=
  (Url.parse? (base ++ "/")).bind Url.login?

/-- The header for a login in an address. -/
def loginHeader (login : String × Option String) : String := basic (login.1, login.2.getD "")

/-- What a request that can be made is. -/
structure HttpRequest.Made (m : Method) (address : String) (own : Option String)
    (body : Option Json) (whole : Url) (r : HttpRequest) : Prop where
  parsed : Url.parse? address = some whole
  method : r.method = m
  url : r.url = if whole.login?.isSome then whole.anonymous else whole
  authorizations : r.authorizations = (whole.login?.map loginHeader).toList ++ own.toList
  body : r.body = body
  sendable : isSendable r.url = true

theorem HttpRequest.made {m : Method} {address : String} {own : Option String} {body : Option Json}
    {r : HttpRequest} (h : make m address own body = .ok r) :
    ∃ whole, Made m address own body whole r := by
  cases hparse : Url.parse? address with
  | none => simp [make, hparse] at h
  | some whole =>
    simp only [make, hparse] at h
    generalize hu : (if (whole.authority.bind Authority.login?).isSome then whole.anonymous
      else whole) = u at h
    split at h
    · cases h
    · split at h
      · cases h
      · split at h
        · cases h
        · rename_i hsendable
          cases h
          exact ⟨whole, hparse, rfl, hu.symm, rfl, rfl, by simpa using hsendable⟩

/-- Requests go to servers only. -/
theorem HttpRequest.Made.server {m : Method} {address : String} {own : Option String}
    {body : Option Json} {whole : Url} {r : HttpRequest} (h : Made m address own body whole r) :
    ∃ port, Url.Kind.ofScheme whole.scheme = .server port := by
  have hscheme : r.url.scheme = whole.scheme := by
    rw [h.url]
    split <;> rfl
  have hsendable := h.sendable
  simp only [isSendable, hscheme, Bool.and_eq_true, Bool.or_eq_true, decide_eq_true_eq] at hsendable
  rcases hsendable.1.1 with h | h <;> rw [h] <;> exact ⟨_, rfl⟩

namespace Url

section Lists

variable {p : Char → Bool} {x : Char}

theorem dropWhile_append_cons (h : p x = false) (l r : List Char) :
    (l ++ x :: r).dropWhile p = l.dropWhile p ++ x :: r := by
  rw [List.dropWhile_append]
  split
  · rename_i hl
    simp [List.isEmpty_iff.mp hl, h]
  · rfl

theorem takeWhile_append_cons (h : p x = false) (l r : List Char) :
    (l ++ x :: r).takeWhile p = l.takeWhile p := by
  rw [List.takeWhile_append]
  split
  · rename_i hl
    rw [List.takeWhile_cons_of_neg (by simp [h]), List.append_nil]
    exact ((List.takeWhile_prefix p).eq_of_length hl).symm
  · rfl

theorem rdropWhile_append_cons (h : p x = false) (l r : List Char) :
    (l ++ x :: r).rdropWhile p = l ++ x :: r.rdropWhile p := by
  simp only [List.rdropWhile, List.reverse_append, List.reverse_cons, List.append_assoc,
    List.singleton_append, dropWhile_append_cons h]
  simp

end Lists

/-- A text without tabs and line ends. -/
def unbroken (t : List Char) : List Char := t.filter fun c => c ≠ '\t' ∧ c ≠ '\n' ∧ c ≠ '\r'

theorem unbroken_append (l r : List Char) : unbroken (l ++ r) = unbroken l ++ unbroken r :=
  List.filter_append ..

theorem clean_append_slash (l r : List Char) :
    clean (l ++ '/' :: r) =
      unbroken (l.dropWhile isBlank) ++ '/' :: unbroken (r.rdropWhile isBlank) := by
  have hslash : isBlank '/' = false := by decide
  rw [clean, ← List.rdropWhile, dropWhile_append_cons hslash, rdropWhile_append_cons hslash]
  simp [unbroken]

theorem cut?_append_cons {sep x : Char} (h : x ≠ sep) (l r : List Char) :
    Text.cut? sep (l ++ x :: r) =
      match Text.cut? sep l with
      | some (a, b) => some (a, b ++ x :: r)
      | none => (Text.cut? sep r).map fun (a, b) => (l ++ x :: a, b) := by
  induction l with
  | nil => simp [Text.cut?, h]
  | cons y l ih =>
    by_cases hy : y = sep
    · simp [Text.cut?, hy]
    · simp only [List.cons_append, Text.cut?, if_neg hy, ih]
      cases Text.cut? sep l with
      | some => rfl
      | none => cases Text.cut? sep r <;> rfl

/-- The scheme stands before the first slash. -/
theorem scheme?_append_slash (l r : List Char) :
    scheme? (l ++ '/' :: r) = (scheme? l).map fun (n, t) => (n, t ++ '/' :: r) := by
  simp only [scheme?, cut?_append_cons (by decide : '/' ≠ ':')]
  cases Text.cut? ':' l with
  | some x =>
    obtain ⟨a, b⟩ := x
    dsimp only
    split <;> rfl
  | none =>
    cases Text.cut? ':' r with
    | none => rfl
    | some x =>
      have hslash : (l ++ '/' :: x.1).all isSchemeChar = false := by
        simp only [List.all_append, List.all_cons]
        simp [show isSchemeChar '/' = false by decide]
      simp [hslash]

/-- The authority at the start of a text hangs on what names the host, and on whether anything
follows it. -/
theorem authority?_congr {k : Kind} {t t' : List Char}
    (host : t.takeWhile (!k.endsHost ·) = t'.takeWhile (!k.endsHost ·))
    (rest : t.dropWhile (!k.endsHost ·) = [] ↔ t'.dropWhile (!k.endsHost ·) = []) :
    (authority? k t).map (·.1) = (authority? k t').map (·.1) := by
  simp only [← List.isEmpty_iff, ← Bool.eq_iff_iff] at rest
  simp only [authority?, host, rest, bind, Option.bind]
  cases host? k _ with
  | none => rfl
  | some name =>
    cases port? k _ with
    | none => rfl
    | some port =>
      dsimp only
      split <;> rfl

theorem splitLogin_of_not_mem {t : List Char} (h : '@' ∉ t) : splitLogin t = (none, t) := by
  have hnone : t.reverse.dropWhile (· ≠ '@') = [] := by
    rw [List.dropWhile_eq_nil_iff]
    intro x hx
    simpa using fun he : x = '@' => h (he ▸ List.mem_reverse.mp hx)
  rw [splitLogin, hnone]

/-- Without an at sign before the path there is no login. -/
theorem login?_of_not_mem {k : Kind} {t rest : List Char} {a : Authority}
    (ha : authority? k t = some (a, rest)) (h : '@' ∉ t.takeWhile (!k.endsHost ·)) :
    a.login? = none := by
  simp only [authority?, splitLogin_of_not_mem h, Option.bind_eq_bind,
    Option.bind_eq_some_iff] at ha
  obtain ⟨name, -, port, -, ha⟩ := ha
  split at ha
  · cases ha
  · cases ha
    rfl

/-- A URL that names a host is of the scheme and the authority that it was read with. -/
theorem located?_eq_some {scheme : String} {t : List Char} {u : Url}
    (h : located? scheme t = some u) : u.scheme = scheme ∧
      u.authority = (authority? (Kind.ofScheme scheme) t).map (·.1) := by
  simp only [located?, Option.bind_eq_bind, Option.bind_eq_some_iff] at h
  obtain ⟨⟨a, rest⟩, ha, h⟩ := h
  cases h
  exact ⟨rfl, by simp [ha, finish]⟩

theorem scheme_fileAt (host : Host) (t : List Char) : (fileAt host t).scheme = "file" := by
  simp only [fileAt]
  split <;> rfl

theorem scheme_of_file? {t : List Char} {u : Url} (h : file? t = some u) : u.scheme = "file" := by
  simp only [file?] at h
  split at h
  · split at h
    · split at h
      · cases h
        exact scheme_fileAt _ _
      · split at h
        · cases h
          exact scheme_fileAt _ _
        · obtain ⟨host, -, h⟩ := Option.map_eq_some_iff.mp h
          rw [← h]
          split <;> exact scheme_fileAt _ _
    · cases h
      exact scheme_fileAt _ _
  all_goals
    cases h
    exact scheme_fileAt _ _

/-- A URL is of the kind that its scheme was read as. -/
theorem parse?_eq_some {s : String} {u : Url} {port : Nat} (h : parse? s = some u)
    (server : Kind.ofScheme u.scheme = .server port) : ∃ r,
      scheme? (clean s.toList) = some (u.scheme, r) ∧
      u.authority =
        (authority? (.server port) (r.dropWhile (Kind.server port).isSlash)).map (·.1) := by
  simp only [parse?, Option.bind_eq_bind, Option.bind_eq_some_iff] at h
  obtain ⟨⟨scheme, r⟩, hread, h⟩ := h
  have hother (hkind : Kind.ofScheme scheme = .other) : u.scheme ≠ scheme := by
    rintro rfl
    rw [hkind] at server
    cases server
  cases hkind : Kind.ofScheme scheme with
  | server p =>
    simp only [hkind] at h
    obtain ⟨rfl, hauthority⟩ := located?_eq_some h
    cases hkind.symm.trans server
    exact ⟨r, hread, hkind ▸ hauthority⟩
  | file =>
    simp only [hkind] at h
    rw [scheme_of_file? h] at server
    cases server
  | other =>
    simp only [hkind] at h
    refine absurd ?_ (hother hkind)
    split at h
    · exact (located?_eq_some h).1
    all_goals
      cases h
      rfl

theorem not_isSlash (k : Kind) {c : Char} (h : c.isAlphanum = true) : k.isSlash c = false := by
  have hslash : c ≠ '/' := by
    rintro rfl
    exact absurd h (by decide)
  have hbackslash : c ≠ '\\' := by
    rintro rfl
    exact absurd h (by decide)
  simp [Kind.isSlash, hslash, hbackslash]

/-- The login in a text from its authority on. -/
def loginFrom (port : Nat) (t : List Char) : Option (String × Option String) :=
  ((authority? (.server port) (t.dropWhile (Kind.server port).isSlash)).map (·.1)).bind
    Authority.login?

theorem loginFrom_of_not_mem {port : Nat} {t : List Char}
    (h : '@' ∉ (t.dropWhile (Kind.server port).isSlash).takeWhile
      (!(Kind.server port).endsHost ·)) : loginFrom port t = none := by
  rw [loginFrom]
  cases ha : authority? (.server port) (t.dropWhile (Kind.server port).isSlash) with
  | none => rfl
  | some x => exact login?_of_not_mem ha h

/-- The login does not hang on what follows a slash, as long as a name without an at sign stands
first there. -/
theorem loginFrom_append_slash (port : Nat) (t : List Char) {name : List Char}
    (alphanumeric : ∀ c ∈ name, c.isAlphanum = true) (nonempty : name ≠ []) (rest : List Char) :
    loginFrom port (t ++ '/' :: (name ++ '/' :: rest)) = loginFrom port (t ++ ['/']) := by
  have hslash : (Kind.server port).isSlash '/' = true := rfl
  have hends : (!(Kind.server port).endsHost '/') = false := rfl
  by_cases ht : (t.dropWhile (Kind.server port).isSlash).isEmpty = true
  · obtain ⟨c, cs, rfl⟩ := List.exists_cons_of_ne_nil nonempty
    have hc := not_isSlash (.server port) (alphanumeric c (by simp))
    rw [loginFrom_of_not_mem, loginFrom_of_not_mem]
    · simp [List.dropWhile_append, ht, hslash]
    · rw [List.dropWhile_append, if_pos ht, List.dropWhile_cons_of_pos hslash, List.cons_append,
        List.dropWhile_cons_of_neg (by simp [hc]), ← List.cons_append,
        takeWhile_append_cons hends]
      intro hat
      exact absurd (alphanumeric _ ((List.takeWhile_prefix _).subset hat)) (by decide)
  · simp only [loginFrom, List.dropWhile_append, if_neg ht]
    refine congrArg (·.bind Authority.login?) (authority?_congr ?_ ?_)
    · rw [takeWhile_append_cons hends, takeWhile_append_cons hends]
    · rw [dropWhile_append_cons hends, dropWhile_append_cons hends]
      simp

theorem login?_of_parse? {s : String} {u : Url} {port : Nat} (h : parse? s = some u)
    (server : Kind.ofScheme u.scheme = .server port) : ∃ r,
      scheme? (clean s.toList) = some (u.scheme, r) ∧ u.login? = loginFrom port r := by
  obtain ⟨r, hread, hauthority⟩ := parse?_eq_some h server
  exact ⟨r, hread, by rw [login?, hauthority, loginFrom]⟩

theorem bind_login?_parse? {s scheme : String} {port : Nat} {r : List Char}
    (hread : scheme? (clean s.toList) = some (scheme, r))
    (server : Kind.ofScheme scheme = .server port) :
    (parse? s).bind login? = loginFrom port r := by
  have hparse : parse? s = located? scheme (r.dropWhile (Kind.server port).isSlash) := by
    simp only [parse?, hread, Option.bind_eq_bind, Option.bind_some, server]
  rw [hparse, located?, server, loginFrom]
  cases authority? (.server port) (r.dropWhile (Kind.server port).isSlash) <;> rfl

/-- A login in an address is the one that the endpoint in front of it holds. -/
theorem login?_of_endpoint {base name rest : String} {u : Url} {port : Nat}
    (h : parse? (base ++ "/" ++ name ++ "/" ++ rest) = some u)
    (server : Kind.ofScheme u.scheme = .server port)
    (alphanumeric : ∀ c ∈ name.toList, c.isAlphanum = true) (nonempty : name.toList ≠ []) :
    u.login? = endpointLogin? base := by
  obtain ⟨r, hread, hlogin⟩ := login?_of_parse? h server
  have haddress : ∃ after, clean (base ++ "/" ++ name ++ "/" ++ rest).toList =
      unbroken (base.toList.dropWhile isBlank) ++ '/' :: (name.toList ++ '/' :: after) := by
    have hname : unbroken name.toList = name.toList := by
      refine List.filter_eq_self.mpr fun c hc => ?_
      have halpha := alphanumeric c hc
      by_contra hwhite
      simp only [decide_eq_true_eq, not_and_or, not_not] at hwhite
      rcases hwhite with rfl | rfl | rfl <;> exact absurd halpha (by decide)
    have hsplit : (base ++ "/" ++ name ++ "/" ++ rest).toList =
        base.toList ++ '/' :: (name.toList ++ '/' :: rest.toList) := by
      simp
    refine ⟨unbroken (rest.toList.rdropWhile isBlank), ?_⟩
    rw [hsplit, clean_append_slash, rdropWhile_append_cons (by decide)]
    rw [unbroken_append name.toList, hname]
    rfl
  have hendpoint : clean (base ++ "/").toList =
      unbroken (base.toList.dropWhile isBlank) ++ ['/'] := by
    rw [String.toList_append]
    exact clean_append_slash base.toList []
  obtain ⟨after, haddress⟩ := haddress
  rw [haddress, scheme?_append_slash] at hread
  obtain ⟨⟨scheme, t⟩, hfront, heq⟩ := Option.map_eq_some_iff.mp hread
  cases heq
  have hbase : scheme? (clean (base ++ "/").toList) = some (u.scheme, t ++ ['/']) := by
    rw [hendpoint, scheme?_append_slash, hfront]
    rfl
  rw [hlogin, endpointLogin?, bind_login?_parse? hbase server,
    loginFrom_append_slash port t alphanumeric nonempty]

end Url

end Rest

end ClusterAdmin
