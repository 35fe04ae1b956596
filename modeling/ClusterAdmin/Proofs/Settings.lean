import ClusterAdmin.Config.File
import ClusterAdmin.Proofs.Decoding
import ClusterAdmin.Proofs.Documents
import Mathlib.Data.List.Forall2

namespace ClusterAdmin

/-- What is left out of the settings: whole sections, and single settings of a section. -/
structure Omission where
  sections : String → Bool
  settings : String → String → Bool

/-- Whether a setting is still there. -/
def Omission.keeps (o : Omission) (table name : String) : Bool :=
  !o.sections table && !o.settings table name

/-- A section that is left out is one of which nothing is kept. -/
theorem Omission.ite_keeps {α : Type} (o : Omission) (table : String) (absent : α)
    (keeping : (String → Bool) → α) (nothing : keeping (fun _ => false) = absent) :
    (if !o.sections table then keeping (!o.settings table ·) else absent) =
      keeping (o.keeps table) := by
  have keeps : o.keeps table = fun name => !o.sections table && !o.settings table name := rfl
  cases h : o.sections table with
  | true => simp [keeps, h, nothing]
  | false => simp [keeps, h]

/-- The pool's settings, with defaults for those that are not kept. -/
def PoolConfig.keeping (c : PoolConfig) (p : String → Bool) : PoolConfig :=
  let d : PoolConfig := {}
  { idleTtlSecs := if p "idle_ttl_secs" then c.idleTtlSecs else d.idleTtlSecs
    reaperIntervalSecs :=
      if p "reaper_interval_secs" then c.reaperIntervalSecs else d.reaperIntervalSecs }

def AclCacheConfig.keeping (c : AclCacheConfig) (p : String → Bool) : AclCacheConfig :=
  let d : AclCacheConfig := {}
  { cacheTtlSecs := if p "cache_ttl_secs" then c.cacheTtlSecs else d.cacheTtlSecs }

def NativeConfig.keeping (c : NativeConfig) (p : String → Bool) : NativeConfig :=
  let d : NativeConfig := {}
  { clientId := if p "client_id" then c.clientId else d.clientId
    connectTimeoutMs := if p "connect_timeout_ms" then c.connectTimeoutMs else d.connectTimeoutMs
    requestTimeoutMs := if p "request_timeout_ms" then c.requestTimeoutMs else d.requestTimeoutMs
    topicOperationTimeoutMs :=
      if p "topic_operation_timeout_ms" then c.topicOperationTimeoutMs
      else d.topicOperationTimeoutMs
    maxResponseBytes := if p "max_response_bytes" then c.maxResponseBytes else d.maxResponseBytes }

def HttpConfig.keeping (c : HttpConfig) (p : String → Bool) : HttpConfig :=
  let d : HttpConfig := {}
  { requestTimeoutMs := if p "request_timeout_ms" then c.requestTimeoutMs else d.requestTimeoutMs
    userAgent := if p "user_agent" then c.userAgent else d.userAgent }

def LoggingConfig.keeping (c : LoggingConfig) (p : String → Bool) : LoggingConfig :=
  let d : LoggingConfig := {}
  { filter := if p "filter" then c.filter else d.filter
    json := if p "json" then c.json else d.json }

/-- The settings of a section that are numbers of 64 bits. -/
def PoolConfig.numbers (c : PoolConfig) : List Nat := [c.idleTtlSecs, c.reaperIntervalSecs]

def AclCacheConfig.numbers (c : AclCacheConfig) : List Nat := [c.cacheTtlSecs]

def NativeConfig.numbers (c : NativeConfig) : List Nat :=
  [c.connectTimeoutMs, c.requestTimeoutMs, c.maxResponseBytes]

def HttpConfig.numbers (c : HttpConfig) : List Nat := [c.requestTimeoutMs]

/-- All of them fit 64 bits with a sign. -/
def Fit (numbers : List Nat) : Prop := ∀ n ∈ numbers, (n : Int) ≤ Word.maxInt64

namespace AdminConfig

def numbers (c : AdminConfig) : List Nat :=
  c.pool.numbers ++ c.acl.numbers ++ c.native.numbers ++ c.http.numbers

/-- The settings, with defaults for those that are left out. -/
def without (c : AdminConfig) (o : Omission) : AdminConfig where
  pool := c.pool.keeping (o.keeps "pool")
  acl := c.acl.keeping (o.keeps "acl")
  native := c.native.keeping (o.keeps "native")
  http := c.http.keeping (o.keeps "http")
  logging := c.logging.keeping (o.keeps "logging")

/-- The sections and settings that are not left out. -/
def kept (c : AdminConfig) (o : Omission) : List (String × List (String × Json)) :=
  (c.sections.filter fun s => !o.sections s.1).map fun (table, settings) =>
    (table, settings.filter fun f => !o.settings table f.1)

/-- Sections as an object of objects. -/
def toObject (sections : List (String × List (String × Json))) : Json :=
  .object (sections.map fun (table, settings) => (table, .object settings))

/-- Sections as a text. -/
def written? (sections : List (String × List (String × Json))) : Option String :=
  (sections.mapM fun (table, settings) => writeSection? table settings).map ("\n".intercalate ·)

end AdminConfig

section Lists

variable {α β : Type} {f : α → Option β} {a : α} {xs ys : List α} {as bs : List β}

theorem mapM_cons_eq_some : (a :: xs).mapM f = some bs ↔
    ∃ b rest, f a = some b ∧ xs.mapM f = some rest ∧ bs = b :: rest := by
  simp only [List.mapM_cons, Option.bind_eq_bind, Option.bind_eq_some_iff]
  constructor
  · rintro ⟨b, hb, rest, hrest, ⟨⟩⟩
    exact ⟨b, rest, hb, hrest, rfl⟩
  · rintro ⟨b, rest, hb, hrest, rfl⟩
    exact ⟨b, hb, rest, hrest, rfl⟩

theorem mapM_sublist (h : xs.Sublist ys) (hx : xs.mapM f = some as) (hy : ys.mapM f = some bs) :
    as.Sublist bs := by
  induction h generalizing as bs with
  | slnil =>
    cases hx
    exact List.nil_sublist bs
  | cons y h ih =>
    obtain ⟨b, rest, -, hrest, rfl⟩ := mapM_cons_eq_some.mp hy
    exact (ih hx hrest).cons b
  | cons_cons y h ih =>
    obtain ⟨b, rest, hb, hrest, rfl⟩ := mapM_cons_eq_some.mp hy
    obtain ⟨a, more, ha, hmore, rfl⟩ := mapM_cons_eq_some.mp hx
    obtain rfl : a = b := Option.some.inj (ha.symm.trans hb)
    exact (ih hmore hrest).cons_cons a

theorem mapM_eq_none (h : a ∈ xs) (fails : f a = none) : xs.mapM f = none := by
  cases hxs : xs.mapM f with
  | none => rfl
  | some bs =>
    induction xs generalizing bs with
    | nil => cases h
    | cons x xs ih =>
      obtain ⟨b, rest, hb, hrest, rfl⟩ := mapM_cons_eq_some.mp hxs
      rcases List.mem_cons.mp h with rfl | h
      · rw [fails] at hb
        cases hb
      · exact nomatch ih h rest hrest

theorem intercalate_sublist {sep : List Char} {xs ys : List (List Char)}
    (h : List.SublistForall₂ List.Sublist xs ys) :
    (sep.intercalate xs).Sublist (sep.intercalate ys) := by
  induction h with
  | nil => simp
  | @cons x y xs ys hxy h ih =>
    cases xs with
    | nil =>
      cases ys with
      | nil => simpa using hxy
      | cons z ys =>
        rw [List.intercalate_cons_cons, List.append_assoc]
        simpa using hxy.trans (List.sublist_append_left y _)
    | cons w xs =>
      cases ys with
      | nil => cases h
      | cons z ys =>
        rw [List.intercalate_cons_cons, List.intercalate_cons_cons]
        exact (hxy.append (List.Sublist.refl sep)).append ih
  | @cons_right y xs ys h ih =>
    cases ys with
    | nil =>
      cases h
      simp
    | cons z ys =>
      rw [List.intercalate_cons_cons]
      exact ih.trans (List.sublist_append_right _ _)

end Lists

namespace Json

namespace Decoder

theorem text_text (s : String) : text (.text s) = some s := rfl

theorem bool_bool (b : Bool) : bool (.bool b) = some b := rfl

theorem nat64_of_fits {n : Nat} (fits : (n : Int) ≤ Word.maxInt64) : nat64 (.int n) = some n := by
  have range : 0 ≤ (n : Int) ∧ (n : Int) ≤ Word.maxNat64 := by
    simp only [Word.maxInt64] at fits
    simp only [Word.maxNat64]
    omega
  rw [nat64, if_pos range, Int.toNat_natCast]

theorem int32_toInt (x : Int32) : int32 (.int x.toInt) = some x := by
  have low := x.le_toInt
  have high := x.toInt_lt
  have range : Word.minInt32 ≤ x.toInt ∧ x.toInt ≤ Word.maxInt32 := by
    simp only [Word.minInt32, Word.maxInt32]
    omega
  rw [int32, intIn, if_pos range, Option.map_some, Int32.ofInt_toInt]

end Decoder

namespace Reader

variable {α β : Type} {fs : List (String × Json)} {n : String} {v : Json}

/-- A field that is given once has its value, and its default where it is not kept. -/
theorem run_withDefault_kept {decode : Decoder α} {a : α} (only : given [n] fs = [v])
    (reads : decode v = some a) (absent : α) (p : String → Bool) (next : α → Reader β) :
    (withDefault [n] decode absent >>= next).run (.fields (fs.filter (p ·.1))) =
      (next (if p n then a else absent)).run (.fields (fs.filter (p ·.1))) := by
  rw [withDefault, run_field_bind, pick, given_filter_names]
  by_cases h : p n = true
  · rw [List.filter_cons_of_pos h, List.filter_nil, only]
    simp [h, reads]
  · rw [List.filter_cons_of_neg h, List.filter_nil]
    simp [given, h]

end Reader

end Json

section Sections

open Json.Decoder Json.Reader

variable (p : String → Bool)

theorem PoolConfig.decoder_kept {c : PoolConfig} (fit : Fit c.numbers) :
    PoolConfig.decoder (.object (c.toFields.filter (p ·.1))) = some (c.keeping p) := by
  have idle := nat64_of_fits (fit c.idleTtlSecs (by simp [numbers]))
  have reaper := nat64_of_fits (fit c.reaperIntervalSecs (by simp [numbers]))
  rw [PoolConfig.decoder, record, run_withDefault_kept (by simp [toFields, given]) idle,
    run_withDefault_kept (by simp [toFields, given]) reaper]
  rfl

theorem AclCacheConfig.decoder_kept {c : AclCacheConfig} (fit : Fit c.numbers) :
    AclCacheConfig.decoder (.object (c.toFields.filter (p ·.1))) = some (c.keeping p) := by
  have ttl := nat64_of_fits (fit c.cacheTtlSecs (by simp [numbers]))
  rw [AclCacheConfig.decoder, record, run_withDefault_kept (by simp [toFields, given]) ttl]
  rfl

theorem NativeConfig.decoder_kept {c : NativeConfig} (fit : Fit c.numbers) :
    NativeConfig.decoder (.object (c.toFields.filter (p ·.1))) = some (c.keeping p) := by
  have connect := nat64_of_fits (fit c.connectTimeoutMs (by simp [numbers]))
  have request := nat64_of_fits (fit c.requestTimeoutMs (by simp [numbers]))
  have response := nat64_of_fits (fit c.maxResponseBytes (by simp [numbers]))
  rw [NativeConfig.decoder, record,
    run_withDefault_kept (by simp [toFields, given]) (text_text c.clientId),
    run_withDefault_kept (by simp [toFields, given]) connect,
    run_withDefault_kept (by simp [toFields, given]) request,
    run_withDefault_kept (by simp [toFields, given]) (int32_toInt c.topicOperationTimeoutMs),
    run_withDefault_kept (by simp [toFields, given]) response]
  rfl

theorem HttpConfig.decoder_kept {c : HttpConfig} (fit : Fit c.numbers) :
    HttpConfig.decoder (.object (c.toFields.filter (p ·.1))) = some (c.keeping p) := by
  have request := nat64_of_fits (fit c.requestTimeoutMs (by simp [numbers]))
  rw [HttpConfig.decoder, record, run_withDefault_kept (by simp [toFields, given]) request,
    run_withDefault_kept (by simp [toFields, given]) (text_text c.userAgent)]
  rfl

theorem LoggingConfig.decoder_kept (c : LoggingConfig) :
    LoggingConfig.decoder (.object (c.toFields.filter (p ·.1))) = some (c.keeping p) := by
  rw [LoggingConfig.decoder, record,
    run_withDefault_kept (by simp [toFields, given]) (text_text c.filter),
    run_withDefault_kept (by simp [toFields, given]) (bool_bool c.json)]
  rfl

end Sections

namespace AdminConfig

open Json.Decoder Json.Reader

variable {c : AdminConfig} {o : Omission}

/-- The object of what is kept, with the sections left out last: in this order a whole section is
left out like a setting of the record that it is a field of. -/
theorem toObject_kept (c : AdminConfig) (o : Omission) :
    toObject (c.kept o) = .object ((c.sections.map fun (table, settings) =>
      (table, Json.object (settings.filter fun f => !o.settings table f.1))).filter
        fun s => !o.sections s.1) := by
  rw [toObject, kept, List.map_map, List.filter_map]
  rfl

theorem decoder_toObject (fit : Fit c.numbers) (o : Omission) :
    decoder (toObject (c.kept o)) = some (c.without o) := by
  have pool := PoolConfig.decoder_kept (!o.settings "pool" ·) (c := c.pool) fun n h =>
    fit n (by simp [numbers, h])
  have acl := AclCacheConfig.decoder_kept (!o.settings "acl" ·) (c := c.acl) fun n h =>
    fit n (by simp [numbers, h])
  have native := NativeConfig.decoder_kept (!o.settings "native" ·) (c := c.native) fun n h =>
    fit n (by simp [numbers, h])
  have http := HttpConfig.decoder_kept (!o.settings "http" ·) (c := c.http) fun n h =>
    fit n (by simp [numbers, h])
  have logging := LoggingConfig.decoder_kept (!o.settings "logging" ·) c.logging
  rw [toObject_kept, decoder, record,
    run_withDefault_kept (p := (!o.sections ·)) (by simp [sections, given]) pool,
    run_withDefault_kept (p := (!o.sections ·)) (by simp [sections, given]) acl,
    run_withDefault_kept (p := (!o.sections ·)) (by simp [sections, given]) native,
    run_withDefault_kept (p := (!o.sections ·)) (by simp [sections, given]) http,
    run_withDefault_kept (p := (!o.sections ·)) (by simp [sections, given]) logging]
  let d : AdminConfig := {}
  rw [o.ite_keeps "pool" d.pool c.pool.keeping rfl, o.ite_keeps "acl" d.acl c.acl.keeping rfl,
    o.ite_keeps "native" d.native c.native.keeping rfl,
    o.ite_keeps "http" d.http c.http.keeping rfl,
    o.ite_keeps "logging" d.logging c.logging.keeping rfl]
  rfl

open Toml (BareKey Shows SettingLines SectionLines)

/-- A value that can stand on a line. -/
inductive Writable : Json → Prop where
  | text (s : String) : Writable (.text s)
  | bool (b : Bool) : Writable (.bool b)
  | int {n : Int} (fits : Word.minInt64 ≤ n ∧ n ≤ Word.maxInt64) : Writable (.int n)

variable {name : String} {v : Json} {settings : List (String × Json)}
  {tables : List (String × List (String × Json))}

/-- What is written for a value is read as that value at the end of its line. -/
theorem writeSetting?_of_writable (h : Writable v) (name : String) :
    ∃ text, writeSetting? name v = some (name ++ " = " ++ text ++ "\n") ∧ Shows text.toList v := by
  cases h with
  | text s => exact ⟨_, rfl, Toml.shows_text s⟩
  | bool b => exact ⟨_, rfl, Toml.shows_bool b⟩
  | int fits => exact ⟨_, if_pos fits.2, Toml.shows_int fits⟩

/-- Settings that can be written. -/
def Plain (settings : List (String × Json)) : Prop :=
  ∀ f ∈ settings, BareKey f.1 ∧ Writable f.2

theorem mapM_writeSetting? (plain : Plain settings) :
    ∃ lines, (settings.mapM fun (n, v) => writeSetting? n v) = some lines ∧
      SettingLines settings (String.join lines).toList := by
  induction settings with
  | nil => exact ⟨[], rfl, .nil⟩
  | cons f settings ih =>
    obtain ⟨name, v⟩ := f
    obtain ⟨bare, writable⟩ := plain _ (.head _)
    obtain ⟨text, one, shows'⟩ := writeSetting?_of_writable writable name
    obtain ⟨lines, more, rest⟩ := ih fun f h => plain f (.tail _ h)
    refine ⟨(name ++ " = " ++ text ++ "\n") :: lines, by simp [one, more], ?_⟩
    simpa using SettingLines.cons bare shows' rest

theorem writeSection?_of_plain (plain : Plain settings) (name : String) :
    ∃ text lines, writeSection? name settings = some text ∧ SettingLines settings lines ∧
      text.toList = '[' :: (name.toList ++ ']' :: '\n' :: lines) := by
  obtain ⟨lines, written, shows'⟩ := mapM_writeSetting? plain
  exact ⟨_, _, by rw [writeSection?, written]; rfl, shows', by simp⟩

theorem mapM_writeSection? (plain : ∀ s ∈ tables, BareKey s.1 ∧ Plain s.2) :
    ∃ texts, (tables.mapM fun (n, settings) => writeSection? n settings) = some texts ∧
      SectionLines tables ("\n".intercalate texts).toList := by
  induction tables with
  | nil => exact ⟨[], rfl, .nil⟩
  | cons s tables ih =>
    obtain ⟨name, settings⟩ := s
    obtain ⟨bare, plain'⟩ := plain _ (.head _)
    obtain ⟨text, ds, one, lines, htext⟩ := writeSection?_of_plain plain' name
    obtain ⟨texts, more, rest⟩ := ih fun s h => plain s (.tail _ h)
    refine ⟨text :: texts, by simp [one, more], ?_⟩
    cases texts with
    | nil =>
      have := SectionLines.cons bare lines rest
      simpa [htext] using this
    | cons u texts =>
      have := SectionLines.cons bare lines rest.blank
      simpa [htext, String.intercalate_cons_cons] using this

theorem sections_bare (c : AdminConfig) :
    ∀ s ∈ c.sections, BareKey s.1 ∧ ∀ f ∈ s.2, BareKey f.1 := by
  simp only [sections, PoolConfig.toFields, AclCacheConfig.toFields, NativeConfig.toFields,
    HttpConfig.toFields, LoggingConfig.toFields, List.forall_mem_cons]
  simp [BareKey, Toml.isBareKey]

theorem sections_writable (fit : Fit c.numbers) : ∀ s ∈ c.sections, ∀ f ∈ s.2, Writable f.2 := by
  have nat (n : Nat) (h : n ∈ c.numbers) : Writable (.int n) := by
    refine .int ⟨?_, fit n h⟩
    simp only [Word.minInt64]
    omega
  have int32 (x : Int32) : Writable (.int x.toInt) := by
    have low := x.le_toInt
    have high := x.toInt_lt
    refine .int ⟨?_, ?_⟩
    · simp only [Word.minInt64]
      omega
    · simp only [Word.maxInt64]
      omega
  simp only [numbers, PoolConfig.numbers, AclCacheConfig.numbers, NativeConfig.numbers,
    HttpConfig.numbers] at nat
  simp only [sections, PoolConfig.toFields, AclCacheConfig.toFields, NativeConfig.toFields,
    HttpConfig.toFields, LoggingConfig.toFields, List.forall_mem_cons]
  exact ⟨⟨nat _ (by simp), nat _ (by simp), by simp⟩, ⟨nat _ (by simp), by simp⟩,
    ⟨.text _, nat _ (by simp), nat _ (by simp), int32 _, nat _ (by simp), by simp⟩,
    ⟨nat _ (by simp), .text _, by simp⟩, ⟨.text _, .bool _, by simp⟩, by simp⟩

/-- What is kept of a section is settings of that section, in their order. -/
theorem exists_section_of_mem_kept (h : (name, settings) ∈ c.kept o) :
    ∃ all, (name, all) ∈ c.sections ∧ settings.Sublist all := by
  obtain ⟨⟨table, all⟩, hs, heq⟩ := List.mem_map.mp h
  cases heq
  exact ⟨all, List.mem_of_mem_filter hs, List.filter_sublist⟩

theorem kept_plain (fit : Fit c.numbers) (o : Omission) :
    ∀ s ∈ c.kept o, BareKey s.1 ∧ Plain s.2 := by
  intro s hs
  obtain ⟨all, h, fewer⟩ := exists_section_of_mem_kept hs
  obtain ⟨bare, keys⟩ := c.sections_bare _ h
  exact ⟨bare, fun f hf => ⟨keys f (fewer.subset hf),
    sections_writable fit _ h f (fewer.subset hf)⟩⟩

theorem kept_names (c : AdminConfig) (o : Omission) : ((c.kept o).map (·.1)).Nodup := by
  have all : (c.sections.map (·.1)).Nodup := by simp [sections]
  rw [kept, List.map_map]
  exact all.sublist (List.filter_sublist.map _)

theorem kept_keys (c : AdminConfig) (o : Omission) : ∀ s ∈ c.kept o, (s.2.map (·.1)).Nodup := by
  have all : ∀ s ∈ c.sections, (s.2.map (·.1)).Nodup := by
    simp [sections, PoolConfig.toFields, AclCacheConfig.toFields, NativeConfig.toFields,
      HttpConfig.toFields, LoggingConfig.toFields]
  intro s hs
  obtain ⟨_, h, fewer⟩ := exists_section_of_mem_kept hs
  exact (all _ h).sublist (fewer.map _)

theorem ofDocument?_toObject : ofDocument? (toObject tables) = decoder (toObject tables) := by
  have object (name : String) (fs : List (String × Json)) :
      trimSection name (.object fs) = .object fs := by simp [trimSection]
  rw [toObject, ofDocument?, List.map_map]
  simp only [Function.comp_def, object]

theorem ofToml_written? (fit : Fit c.numbers) (o : Omission) :
    ∃ text, written? (c.kept o) = some text ∧ ofToml text = .ok (c.without o) := by
  obtain ⟨texts, written, lines⟩ := mapM_writeSection? (kept_plain fit o)
  have parsed := lines.parse? (c.kept_names o) (c.kept_keys o)
  rw [String.ofList_toList] at parsed
  refine ⟨_, by rw [written?, written]; rfl, ?_⟩
  have decoded : ofDocument? (toObject (c.kept o)) = some (c.without o) := by
    rw [ofDocument?_toObject, decoder_toObject fit]
  rw [toObject] at decoded
  rw [ofToml, parsed, Option.bind_some, decoded]

theorem writeSection?_sublist {table short full : String} {q : String × Json → Bool}
    (hshort : writeSection? table (settings.filter q) = some short)
    (hfull : writeSection? table settings = some full) : short.toList.Sublist full.toList := by
  simp only [writeSection?, Option.bind_eq_bind, Option.bind_eq_some_iff] at hshort hfull
  obtain ⟨fewer, hfewer, hshort⟩ := hshort
  obtain ⟨lines, hlines, hfull⟩ := hfull
  cases hshort
  cases hfull
  simp only [String.toList_append, String.toList_join]
  exact (List.Sublist.refl _).append ((mapM_sublist List.filter_sublist hfewer hlines).flatMap _)

/-- What is written without some sections and settings is the whole text with parts left out. -/
theorem written?_sublist {short full : String} (hshort : written? (c.kept o) = some short)
    (hfull : written? c.sections = some full) : short.toList.Sublist full.toList := by
  simp only [written?, Option.map_eq_some_iff] at hshort hfull
  obtain ⟨shorts, hshorts, rfl⟩ := hshort
  obtain ⟨texts, htexts, rfl⟩ := hfull
  rw [String.toList_intercalate, String.toList_intercalate]
  apply intercalate_sublist
  rw [kept] at hshorts
  generalize c.sections = tables at hshorts htexts
  induction tables generalizing shorts texts with
  | nil =>
    cases hshorts
    exact .nil
  | cons s tables ih =>
    obtain ⟨text, rest, htext, hrest, rfl⟩ := mapM_cons_eq_some.mp htexts
    by_cases gone : o.sections s.1 = true
    · rw [List.filter_cons_of_neg (by simpa using gone)] at hshorts
      exact (ih shorts rest hshorts hrest).cons_right
    · rw [List.filter_cons_of_pos (by simpa using gone), List.map_cons] at hshorts
      obtain ⟨short, more, hshort, hmore, rfl⟩ := mapM_cons_eq_some.mp hshorts
      exact .cons (writeSection?_sublist hshort htext) (ih more rest hmore hrest)

theorem toToml_eq (c : AdminConfig) : c.toToml =
    match written? c.sections with
    | some text => .ok text
    | none => .error ((Failure.invalid
        "Failed to serialize config: out-of-range value for u64 type").causedBy
          "out-of-range value for u64 type") := by
  rw [toToml, written?]
  cases c.sections.mapM fun (name, fields) => writeSection? name fields <;> rfl

theorem exists_setting {n : Nat} (h : n ∈ c.numbers) :
    ∃ s ∈ c.sections, ∃ f ∈ s.2, f.2 = .int n := by
  simp only [numbers, List.mem_append] at h
  rcases h with ((h | h) | h) | h
  · refine ⟨("pool", c.pool.toFields), by simp [sections], ?_⟩
    simp only [PoolConfig.numbers, List.mem_cons, List.not_mem_nil, or_false] at h
    rcases h with rfl | rfl <;> simp [PoolConfig.toFields]
  · refine ⟨("acl", c.acl.toFields), by simp [sections], ?_⟩
    simp only [AclCacheConfig.numbers, List.mem_cons, List.not_mem_nil, or_false] at h
    subst h
    simp [AclCacheConfig.toFields]
  · refine ⟨("native", c.native.toFields), by simp [sections], ?_⟩
    simp only [NativeConfig.numbers, List.mem_cons, List.not_mem_nil, or_false] at h
    rcases h with rfl | rfl | rfl <;> simp [NativeConfig.toFields]
  · refine ⟨("http", c.http.toFields), by simp [sections], ?_⟩
    simp only [HttpConfig.numbers, List.mem_cons, List.not_mem_nil, or_false] at h
    subst h
    simp [HttpConfig.toFields]

theorem written?_eq_none (large : ¬Fit c.numbers) : written? c.sections = none := by
  obtain ⟨n, hn, large⟩ : ∃ n ∈ c.numbers, ¬(n : Int) ≤ Word.maxInt64 := by
    simpa [Fit] using large
  obtain ⟨⟨table, settings⟩, hs, ⟨name, v⟩, hf, rfl⟩ := exists_setting hn
  have line : writeSetting? name (.int n) = none := if_neg large
  have lines := mapM_eq_none (f := fun (n, v) => writeSetting? n v) hf line
  have text : writeSection? table settings = none := by rw [writeSection?, lines]; rfl
  rw [written?, mapM_eq_none (f := fun (table, settings) => writeSection? table settings) hs text]
  rfl

/-- Leaves nothing out. -/
def nothing : Omission := ⟨fun _ => false, fun _ _ => false⟩

theorem kept_nothing (c : AdminConfig) : c.kept nothing = c.sections := by
  simp [kept, nothing]

theorem without_nothing (c : AdminConfig) : c.without nothing = c := rfl

/-- Settings whose numbers fit are read back from the text that is written for them and from their
object. Where sections and settings are left out of these, the rest is read back with defaults for
what was left out. No text is written for a number that does not fit. -/
theorem read_back (c : AdminConfig) :
    (Fit c.numbers →
      (∃ text, c.toToml = .ok text ∧ ofToml text = .ok c ∧
        ∀ o, ∃ rest, written? (c.kept o) = some rest ∧ rest.toList.Sublist text.toList ∧
          ofToml rest = .ok (c.without o)) ∧
      decoder c.toJson = some c ∧ ∀ o, decoder (toObject (c.kept o)) = some (c.without o)) ∧
    (¬Fit c.numbers → ∃ f, c.toToml = .error f ∧ f.category = .invalid) := by
  constructor
  · intro fit
    obtain ⟨text, written, read⟩ := ofToml_written? fit nothing
    rw [kept_nothing] at written
    rw [without_nothing] at read
    refine ⟨⟨text, by rw [toToml_eq, written], read, fun o => ?_⟩, ?_, decoder_toObject fit⟩
    · obtain ⟨rest, shorter, reads⟩ := ofToml_written? fit o
      exact ⟨rest, shorter, written?_sublist shorter written, reads⟩
    · have whole := decoder_toObject fit nothing
      rwa [kept_nothing, without_nothing] at whole
  · intro large
    exact ⟨_, by rw [toToml_eq, written?_eq_none large], rfl⟩

/-- Settings with texts that no single form of quotes can show as they are. -/
def quoted : AdminConfig where
  pool := { idleTtlSecs := 5 }
  native :=
    { clientId := "a\"\"\"b\x27\x27\x27c\\\n\x01"
      requestTimeoutMs := 1
      topicOperationTimeoutMs := -7 }
  http := { userAgent := "it's \"so\"\n" }
  logging := { json := true }

/-- Settings with the least number that does not fit. -/
def overlong : AdminConfig where
  acl := { cacheTtlSecs := 9223372036854775808 }

/-- Leaves out the pool's section and one of the broker's settings. -/
def poolAndRequests : Omission where
  sections table := table == "pool"
  settings table name := table == "native" && name == "request_timeout_ms"

theorem read_back_quoted :
    Fit quoted.numbers ∧
    (∃ text, quoted.toToml = .ok text ∧ ofToml text = .ok quoted ∧
      ∃ rest, written? (quoted.kept poolAndRequests) = some rest ∧
        rest.toList.Sublist text.toList ∧
        ofToml rest = .ok
          { quoted with
            pool := { idleTtlSecs := 300 }
            native := { quoted.native with requestTimeoutMs := 30000 } }) ∧
    decoder quoted.toJson = some quoted ∧
    ¬Fit overlong.numbers ∧ ∃ f, overlong.toToml = .error f ∧ f.category = .invalid := by
  have fit : Fit quoted.numbers := by unfold Fit; decide
  have large : ¬Fit overlong.numbers := by unfold Fit; decide
  obtain ⟨⟨text, written, read, omitted⟩, object, -⟩ := (read_back quoted).1 fit
  exact ⟨fit, ⟨text, written, read, omitted poolAndRequests⟩, object, large,
    (read_back overlong).2 large⟩

end AdminConfig

end ClusterAdmin
