import ClusterAdmin.Scram.Client

namespace ClusterAdmin.Scram

/-- A part is an attribute of some letter if it starts with it and an equals sign. -/
theorem map_filter_cut? {letter : Char} (h : letter ≠ '=') (part : List Char) :
    ((Text.cut? '=' part).filter (fun a => a.1 = [letter])).map (·.2) =
      Text.after? [letter, '='] part := by
  match part with
  | [] => rfl
  | [c] => by_cases hc : c = '=' <;> simp [Text.cut?, Text.after?, hc]
  | c :: d :: r =>
    by_cases hc : c = '='
    · simp [Text.cut?, Text.after?, hc, h]
    · by_cases hd : d = '='
      · by_cases hl : letter = c
        · simp [Text.cut?, Text.after?, hc, hd, hl]
        · simp [Text.cut?, Text.after?, hc, hd, hl, Ne.symm hl]
      · cases hcut : Text.cut? '=' r <;>
          simp [Text.cut?, Text.after?, hc, hd, hcut, Ne.symm hd]

theorem lastValue?_attributes {letter : Char} (h : letter ≠ '=') (message : List Char) :
    lastValue? letter (attributes message) =
      (Text.pieces ',' message).reverse.findSome? (Text.after? [letter, '=']) := by
  rw [lastValue?, attributes, ← List.filterMap_reverse]
  induction (Text.pieces ',' message).reverse with
  | nil => rfl
  | cons part parts ih =>
    have hpart := map_filter_cut? h part
    cases hcut : Text.cut? '=' part with
    | none =>
      rw [hcut] at hpart
      rw [List.filterMap_cons_none hcut, List.findSome?_cons, ← hpart]
      exact ih
    | some a =>
      rw [hcut] at hpart
      rw [List.filterMap_cons_some hcut, List.find?_cons, List.findSome?_cons, ← hpart]
      by_cases ha : a.1 = [letter]
      · simp [Option.filter, ha]
      · simp only [Option.filter, ha, decide_false]
        exact ih

theorem refusal?_attributes (message : List Char) :
    refusal? (attributes message) = none ↔ ∀ part ∈ Text.pieces ',' message,
      Text.after? ['e', '='] part = none ∧ Text.after? ['m', '='] part = none := by
  rw [attributes]
  induction Text.pieces ',' message with
  | nil => simp [refusal?]
  | cons part parts ih =>
    rw [List.forall_mem_cons, ← ih, ← map_filter_cut? (by decide), ← map_filter_cut? (by decide)]
    cases hcut : Text.cut? '=' part with
    | none => simp [List.filterMap_cons_none hcut]
    | some a =>
      rw [List.filterMap_cons_some hcut, refusal?]
      by_cases he : a.1 = ['e']
      · simp [he]
      · by_cases hm : a.1 = ['m'] <;> simp [he, hm]
/-- What a server's answer to a first message with that nonce says. It neither reports an error nor
asks for an extension. Of several parts that start alike the last counts; the nonce begins with the
client's and is longer. -/
structure ServerFirst.Said (clientNonce message : List Char) (said : ServerFirst) : Prop where
  accepted : ∀ part ∈ Text.pieces ',' message,
    Text.after? ['e', '='] part = none ∧ Text.after? ['m', '='] part = none
  nonce : (Text.pieces ',' message).reverse.findSome? (Text.after? ['r', '=']) = some said.nonce
  begins : clientNonce <+: said.nonce
  longer : said.nonce ≠ clientNonce
  salt : ((Text.pieces ',' message).reverse.findSome? (Text.after? ['s', '='])).bind
    Text.Base64.decode? = some said.salt
  iterations : ((Text.pieces ',' message).reverse.findSome? (Text.after? ['i', '='])).bind
    count? = some said.iterations

theorem ServerFirst.ofText_eq_ok_iff {clientNonce message : List Char} {said : ServerFirst} :
    ofText clientNonce message = .ok said ↔ Said clientNonce message said := by
  have hr := lastValue?_attributes (by decide : 'r' ≠ '=') message
  have hs := lastValue?_attributes (by decide : 's' ≠ '=') message
  have hi := lastValue?_attributes (by decide : 'i' ≠ '=') message
  constructor
  · intro h
    cases hrefusal : refusal? (attributes message) with
    | some r =>
      simp only [ofText, hrefusal] at h
      cases h
    | none =>
      cases hnonce : lastValue? 'r' (attributes message) with
      | none =>
        simp only [ofText, hrefusal, hnonce] at h
        cases h
      | some nonce =>
        simp only [ofText, hrefusal, hnonce] at h
        split at h
        · cases h
        · rename_i hforeign
          obtain ⟨hbegins, hlonger⟩ := not_or.mp hforeign
          split at h
          · rename_i salt hsalt
            split at h
            · rename_i iterations hiterations
              cases h
              exact ⟨(refusal?_attributes message).mp hrefusal, hr ▸ hnonce,
                Decidable.not_not.mp hbegins, hlonger, hs ▸ hsalt, hi ▸ hiterations⟩
            · cases h
          · cases h
  · rintro ⟨haccepted, hnonce, hbegins, hlonger, hsalt, hiterations⟩
    have hrefusal := (refusal?_attributes message).mpr haccepted
    have hforeign : ¬(¬(clientNonce <+: said.nonce) ∨ said.nonce = clientNonce) := by
      simp [hbegins, hlonger]
    rw [← hr] at hnonce
    rw [← hs] at hsalt
    rw [← hi] at hiterations
    simp only [ofText, hrefusal, hnonce, if_neg hforeign, hsalt, hiterations]
    rfl

/-- A last answer shows a signature if its first part that starts as one is one, and it reports no
error. -/
structure Shows (message : List Char) (signature : Bytes) : Prop where
  accepted : Text.after? ['e', '='] message = none
  verifier : ((Text.pieces ',' message).findSome? (Text.after? ['v', '='])).bind
    Text.Base64.decode? = some signature

theorem Shows.unique {message : List Char} {a b : Bytes} (h : Shows message a)
    (h' : Shows message b) : a = b :=
  Option.some.inj (h.verifier.symm.trans h'.verifier)

/-- A signature alone, written in base64, is shown. -/
theorem shows_signature (signature : Bytes) :
    Shows (['v', '='] ++ Text.Base64.encode signature) signature := by
  have hpieces : Text.pieces ',' (['v', '='] ++ Text.Base64.encode signature) =
      [['v', '='] ++ Text.Base64.encode signature] :=
    Text.pieces_of_not_mem (by simp [Text.Base64.comma_not_mem_encode])
  refine ⟨by simp [Text.after?], ?_⟩
  rw [hpieces, List.findSome?_cons, Text.after?_append, Option.bind_some,
    Text.Base64.decode?_encode]

theorem verifierOf_eq_ok_iff {message : List Char} {signature : Bytes} :
    verifierOf message = .ok signature ↔ Shows message signature := by
  constructor
  · intro h
    cases herror : Text.after? ['e', '='] message with
    | some text =>
      simp only [verifierOf, herror] at h
      cases h
    | none =>
      simp only [verifierOf, herror] at h
      split at h
      · rename_i hverifier
        cases h
        exact ⟨herror, hverifier⟩
      · cases h
  · rintro ⟨herror, hverifier⟩
    simp only [verifierOf, herror, hverifier]
    rfl

/-- An answer that cannot be read is not refused for its signature. -/
theorem verifierOf_ne_mismatch (message : List Char) :
    verifierOf message ≠ .error .signatureMismatch := by
  intro h
  simp only [verifierOf] at h
  split at h
  · cases h
  · split at h
    · cases h
    · cases h

/-- What is signed in an exchange that began so and was answered so. -/
def signedOctets (bare answer : List Char) (said : ServerFirst) : Bytes :=
  Bytes.ofText (String.ofList (signedText bare answer (unprovenFinal said.nonce)))

namespace Client

/-- The proof for a server that answered a first message so. -/
def proven (c : Client) (bare answer : List Char) (said : ServerFirst) : Bytes :=
  proof c.hash (saltedPassword c.hash (Bytes.ofText c.password) said.salt said.iterations)
    (signedOctets bare answer said)

/-- The signature that a server has to show which answered a first message so. The password,
stretched over salt and count, is the key under which a fixed text gives the server's key, and that
is the key under which the three messages, joined by commas, give the signature: the first message
without its header, the answer to it, and the last message without its proof. -/
def awaited (c : Client) (bare answer : List Char) (said : ServerFirst) : Bytes :=
  let salted := Hash.stretch c.hash (Bytes.ofText c.password) said.salt said.iterations
  let serverKey := Hash.hmac c.hash salted (Bytes.ofText "Server Key")
  let unproven := "c=biws,r=".toList ++ said.nonce
  Hash.hmac c.hash serverKey
    (Bytes.ofText (String.ofList (bare ++ ',' :: answer ++ ',' :: unproven)))

theorem awaited_eq (c : Client) (bare answer : List Char) (said : ServerFirst) :
    c.awaited bare answer said =
      serverSignature c.hash
        (saltedPassword c.hash (Bytes.ofText c.password) said.salt said.iterations)
        (signedOctets bare answer said) := by
  have hunproven : "c=biws,r=".toList ++ said.nonce = unprovenFinal said.nonce := by
    have hbound : "c=biws,r=".toList = ['c', '='] ++
        Text.Base64.encode (Bytes.ofText (String.ofList header)) ++ [',', 'r', '='] := by
      decide +kernel
    rw [unprovenFinal, hbound]
  simp only [awaited, hunproven, serverSignature, serverKey, saltedPassword, signedOctets,
    signedText, List.append_assoc, List.nil_append, List.cons_append]

theorem onServerFirst_eq_ok_iff {c c' : Client} {message : Bytes} {last : String} :
    c.onServerFirst message = .ok (last, c') ↔
      ∃ bare text said, c.stage = .firstSent bare ∧ message.toText? = some text ∧
        ServerFirst.Said c.nonce.toList text.toList said ∧
        last = String.ofList (provenFinal said.nonce (c.proven bare text.toList said)) ∧
        c' = { c with stage := .finalSent (c.awaited bare text.toList said) } := by
  constructor
  · intro h
    simp only [onServerFirst] at h
    split at h
    · rename_i bare hstage
      split at h
      · rename_i text htext
        cases hsaid : ServerFirst.ofText c.nonce.toList text.toList with
        | error r =>
          rw [hsaid] at h
          cases h
        | ok said =>
          rw [hsaid] at h
          cases h
          exact ⟨bare, text, said, hstage, htext, ServerFirst.ofText_eq_ok_iff.mp hsaid, rfl,
            by rw [awaited_eq]; rfl⟩
      · cases h
    · cases h
  · rintro ⟨bare, text, said, hstage, htext, hsaid, rfl, rfl⟩
    simp only [onServerFirst, hstage, htext, ServerFirst.ofText_eq_ok_iff.mpr hsaid, awaited_eq]
    rfl

/-- An answer that shows a signature is judged by that signature alone. -/
theorem onServerFinal_of_shows {c : Client} {message signature shown : Bytes} {text : String}
    (hstage : c.stage = .finalSent signature) (htext : message.toText? = some text)
    (hshown : Shows text.toList shown) :
    c.onServerFinal message =
      if shown = signature then .ok { c with stage := .complete }
      else .error .signatureMismatch := by
  simp only [onServerFinal, hstage, htext, verifierOf_eq_ok_iff.mpr hshown, bind, Except.bind,
    sameOctets_iff]
  rfl

/-- Any other answer is refused for something else. -/
theorem onServerFinal_cases (c : Client) (message : Bytes) :
    (∃ signature text shown, c.stage = .finalSent signature ∧ message.toText? = some text ∧
      Shows text.toList shown) ∨
      ∃ r, r ≠ .signatureMismatch ∧ c.onServerFinal message = .error r := by
  cases hstage : c.stage with
  | finalSent signature =>
    cases htext : message.toText? with
    | none => exact .inr ⟨.finalNotText, nofun, by simp only [onServerFinal, hstage, htext]; rfl⟩
    | some text =>
      cases hshown : verifierOf text.toList with
      | ok shown => exact .inl ⟨signature, text, shown, rfl, rfl, verifierOf_eq_ok_iff.mp hshown⟩
      | error r =>
        refine .inr ⟨r, ?_, by simp only [onServerFinal, hstage, htext, hshown]; rfl⟩
        rintro rfl
        exact verifierOf_ne_mismatch _ hshown
  | initial | firstSent | complete =>
    exact .inr ⟨.finalOutOfOrder, nofun, by simp only [onServerFinal, hstage]; rfl⟩

theorem onServerFinal_eq_ok_iff {c c' : Client} {message : Bytes} :
    c.onServerFinal message = .ok c' ↔
      ∃ signature text, c.stage = .finalSent signature ∧ message.toText? = some text ∧
        Shows text.toList signature ∧ c' = { c with stage := .complete } := by
  constructor
  · intro h
    obtain ⟨signature, text, shown, hstage, htext, hshown⟩ | ⟨r, -, hr⟩ :=
      c.onServerFinal_cases message
    · rw [onServerFinal_of_shows hstage htext hshown] at h
      split at h
      · rename_i hsame
        cases h
        exact ⟨signature, text, hstage, htext, hsame ▸ hshown, rfl⟩
      · cases h
    · rw [hr] at h
      cases h
  · rintro ⟨signature, text, hstage, htext, hshown, rfl⟩
    rw [onServerFinal_of_shows hstage htext hshown, if_pos rfl]

theorem onServerFinal_eq_mismatch_iff {c : Client} {message : Bytes} :
    c.onServerFinal message = .error .signatureMismatch ↔
      ∃ signature text shown, c.stage = .finalSent signature ∧ message.toText? = some text ∧
        Shows text.toList shown ∧ shown ≠ signature := by
  constructor
  · intro h
    obtain ⟨signature, text, shown, hstage, htext, hshown⟩ | ⟨r, hother, hr⟩ :=
      c.onServerFinal_cases message
    · rw [onServerFinal_of_shows hstage htext hshown] at h
      split at h
      · cases h
      · rename_i hdiffer
        exact ⟨signature, text, shown, hstage, htext, hshown, hdiffer⟩
    · rw [hr] at h
      cases h
      exact absurd rfl hother
  · rintro ⟨signature, text, shown, hstage, htext, hshown, hdiffer⟩
    rw [onServerFinal_of_shows hstage htext hshown, if_neg hdiffer]

/-- Octets shown alone are accepted by a client that waits for them, and by no other. -/
theorem onServerFinal_alone_iff {c : Client} {octets : Bytes} :
    (∃ c', c.onServerFinal
      (Bytes.ofText (String.ofList (['v', '='] ++ Text.Base64.encode octets))) = .ok c') ↔
        c.stage = .finalSent octets := by
  constructor
  · rintro ⟨c', h⟩
    obtain ⟨signature, text, hstage, htext, hshown, -⟩ := onServerFinal_eq_ok_iff.mp h
    rw [Bytes.toText?_ofText, Option.some.injEq] at htext
    subst htext
    rw [String.toList_ofList] at hshown
    rw [hstage, hshown.unique (shows_signature octets)]
  · intro hstage
    refine ⟨_, onServerFinal_eq_ok_iff.mpr ⟨octets, _, hstage, Bytes.toText?_ofText _, ?_, rfl⟩⟩
    rw [String.toList_ofList]
    exact shows_signature octets

/-- The comparison that looks at all differences at once finds out whether two octet strings are the
same. So a client accepts a last answer exactly if this shows the signature that the client waits
for, and refuses one for its signature exactly if it shows another. Whatever octets are shown alone,
they are accepted exactly if they are that signature. -/
theorem signature_recognized :
    (∀ a b : Bytes, sameOctets a b = true ↔ a = b) ∧
      ∀ c : Client,
        (∀ message c', c.onServerFinal message = .ok c' ↔
          ∃ signature text, c.stage = .finalSent signature ∧ message.toText? = some text ∧
            Shows text.toList signature ∧ c' = { c with stage := .complete }) ∧
        (∀ message, c.onServerFinal message = .error .signatureMismatch ↔
          ∃ signature text shown, c.stage = .finalSent signature ∧
            message.toText? = some text ∧ Shows text.toList shown ∧ shown ≠ signature) ∧
        ∀ octets, (∃ c', c.onServerFinal
          (Bytes.ofText (String.ofList (['v', '='] ++ Text.Base64.encode octets))) = .ok c') ↔
            c.stage = .finalSent octets :=
  ⟨sameOctets_iff, fun _ => ⟨fun _ _ => onServerFinal_eq_ok_iff,
    fun _ => onServerFinal_eq_mismatch_iff, fun _ => onServerFinal_alone_iff⟩⟩

/-- The first message without its header: the user name, in which the two characters that structure
a message are spelled out, and the client's nonce. -/
def bare (c : Client) : List Char :=
  let name := c.username.toList.flatMap fun x =>
    if x = '=' then "=3D".toList else if x = ',' then "=2C".toList else [x]
  "n=".toList ++ name ++ ",r=".toList ++ c.nonce.toList

/-- The client after some calls, of which some may have failed. -/
def run (c : Client) (calls : List Call) : Client := calls.foldl (fun c k => (c.step k).2) c

/-- Those of some calls that succeed, in their order. -/
def successes : Client → List Call → List Call
  | _, [] => []
  | c, k :: ks =>
    match c.step k with
    | (.ok _, c) => k :: c.successes ks
    | (.error _, c) => c.successes ks

/-- The server's two answers show that it knows the key of the client's password: the first says how
to derive it and goes on from the client's nonce, the last is signed with it, over the client's
first message, the answer to it and the nonce of both. -/
def Verifies (c : Client) (answer final : Bytes) : Prop :=
  ∃ text text' said, answer.toText? = some text ∧ final.toText? = some text' ∧
    ServerFirst.Said c.nonce.toList text.toList said ∧
    Shows text'.toList (c.awaited c.bare text.toList said)

/-- How far an exchange has come by calls that succeeded. -/
inductive Progress (c : Client) : List Call → Stage → Prop
  | initial : Progress c [] .initial
  | first (done : List Call) : Progress c (done ++ [.first]) (.firstSent c.bare)
  | answered (done : List Call) {answer : Bytes} {text : String} {said : ServerFirst}
      (read : answer.toText? = some text)
      (content : ServerFirst.Said c.nonce.toList text.toList said) :
    Progress c (done ++ [.first, .serverFirst answer])
      (.finalSent (c.awaited c.bare text.toList said))
  | complete (done : List Call) {answer final : Bytes} (verifies : c.Verifies answer final) :
    Progress c (done ++ [.first, .serverFirst answer, .serverFinal final]) .complete

/-- The same client at some stage. -/
def atStage (c : Client) (stage : Stage) : Client := { c with stage }

theorem step_of_error {c : Client} {k : Call} {r : Refusal} (h : (c.step k).1 = .error r) :
    (c.step k).2 = c := by
  cases k with
  | first => cases h
  | serverFirst m =>
    simp only [step] at h ⊢
    split <;> simp_all
  | serverFinal m =>
    simp only [step] at h ⊢
    split <;> simp_all

/-- A call that succeeds takes an exchange from each stage to the next, or back to the first. -/
theorem Progress.step {c c' : Client} {done : List Call} {s : Stage} {k : Call} {o : Option String}
    (p : Progress c done s) (h : (c.atStage s).step k = (.ok o, c')) :
    ∃ s', c' = c.atStage s' ∧ Progress c (done ++ [k]) s' := by
  cases k with
  | first =>
    cases h
    exact ⟨_, rfl, .first done⟩
  | serverFirst m =>
    simp only [Client.step] at h
    split at h
    · rename_i last c'' hanswer
      cases h
      obtain ⟨bare, text, said, hstage, htext, hsaid, -, rfl⟩ := onServerFirst_eq_ok_iff.mp hanswer
      cases p with
      | first done =>
        cases hstage
        rw [List.append_assoc]
        exact ⟨_, rfl, .answered done htext hsaid⟩
      | initial | answered | complete => cases hstage
    · cases h
  | serverFinal m =>
    simp only [Client.step] at h
    split at h
    · rename_i c'' hfinal
      cases h
      obtain ⟨signature, text, hstage, htext, hshows, rfl⟩ := onServerFinal_eq_ok_iff.mp hfinal
      cases p with
      | answered done read content =>
        cases hstage
        rw [List.append_assoc]
        exact ⟨_, rfl, .complete done ⟨_, text, _, read, htext, content, hshows⟩⟩
      | initial | first | complete => cases hstage
    · cases h

/-- Calls that fail change nothing, so an exchange has come as far as the others took it. -/
theorem Progress.run {c : Client} {done : List Call} {s : Stage} (p : Progress c done s)
    (calls : List Call) : ∃ s', (c.atStage s).run calls = c.atStage s' ∧
      Progress c (done ++ (c.atStage s).successes calls) s' := by
  induction calls generalizing done s with
  | nil => exact ⟨s, rfl, by simpa [successes] using p⟩
  | cons k ks ih =>
    have hrun : (c.atStage s).run (k :: ks) = ((c.atStage s).step k).2.run ks := rfl
    rw [hrun, successes]
    cases hk : (c.atStage s).step k with
    | mk r c' =>
      cases r with
      | error r =>
        have hc : c' = c.atStage s := by
          have h := step_of_error (c := c.atStage s) (k := k) (r := r) (by rw [hk])
          rwa [hk] at h
        subst hc
        exact ih p
      | ok o =>
        obtain ⟨s', rfl, p'⟩ := p.step hk
        obtain ⟨s'', hr, p''⟩ := ih p'
        refine ⟨s'', hr, ?_⟩
        rwa [List.append_assoc] at p''

/-- An exchange is complete after those successful calls that end in a first message and two
answers that show the server's knowledge of the key. -/
theorem Progress.complete_iff {c : Client} {done : List Call} {s : Stage} (p : Progress c done s) :
    s = .complete ↔ ∃ before answer final,
      done = before ++ [.first, .serverFirst answer, .serverFinal final] ∧
        c.Verifies answer final := by
  constructor
  · rintro rfl
    cases p with
    | complete before verifies => exact ⟨before, _, _, rfl, verifies⟩
  · rintro ⟨before, answer, final, hdone, -⟩
    have hlast : done.getLast? = some (.serverFinal final) := by simp [hdone]
    cases p with
    | complete => rfl
    | initial | first | answered => simp at hlast

/-- A call that fails leaves a client as it was. And a client is complete after some calls exactly
if the last three of them that succeeded were the first message, a first answer and a last one, in
this order, where the two answers show the server's knowledge of the key. -/
theorem isComplete_iff {config : SaslConfig} {nonce : String} {c : Client}
    (made : ofConfig config nonce = .ok c) (calls : List Call) :
    (∀ k r, ((c.run calls).step k).1 = .error r → ((c.run calls).step k).2 = c.run calls) ∧
      ((c.run calls).isComplete = true ↔ ∃ before answer final,
        c.successes calls = before ++ [.first, .serverFirst answer, .serverFinal final] ∧
          c.Verifies answer final) := by
  refine ⟨fun k r h => step_of_error h, ?_⟩
  have hinitial : c = c.atStage .initial := by
    simp only [ofConfig] at made
    split at made
    · cases made
      rfl
    · cases made
  have p : Progress c [] .initial := .initial
  obtain ⟨s, hrun, hprogress⟩ := p.run calls
  rw [← hinitial] at hrun hprogress
  rw [hrun, isComplete, decide_eq_true_eq]
  exact hprogress.complete_iff

/-- Whatever a client did before, two answers that show the server's knowledge of the key are
accepted right after a first message. -/
theorem Verifies.accepted {c : Client} {answer final : Bytes} (h : c.Verifies answer final) :
    c.successes [.first, .serverFirst answer, .serverFinal final] =
      [.first, .serverFirst answer, .serverFinal final] := by
  obtain ⟨text, text', said, hanswer, hfinal, hsaid, hshows⟩ := h
  let signature := c.awaited c.bare text.toList said
  have hlast : c.first.2.onServerFirst answer = .ok (_, c.atStage (.finalSent signature)) :=
    onServerFirst_eq_ok_iff.mpr ⟨c.bare, text, said, rfl, hanswer, hsaid, rfl, rfl⟩
  have hdone : (c.atStage (.finalSent signature)).onServerFinal final =
      .ok (c.atStage .complete) :=
    onServerFinal_eq_ok_iff.mpr ⟨signature, text', rfl, hfinal, hshows, rfl⟩
  simp only [successes, step, hlast, hdone]

/-- A server that shows the signature of the password's key completes the exchange. If the client
starts over before it hears the last answer, then the same answer is refused. -/
theorem isComplete_iff_signed :
    let c : Client := ⟨Hash.sha256, "a=b", "pencil", "fyko", .initial⟩
    let answer := Bytes.ofText "r=fykoNM,s=QQ==,i=2"
    let salted := Hash.stretch Hash.sha256 (Bytes.ofText "pencil") [0x41] 2
    let serverKey := Hash.hmac Hash.sha256 salted (Bytes.ofText "Server Key")
    let signature := Hash.hmac Hash.sha256 serverKey
      (Bytes.ofText "n=a=3Db,r=fyko,r=fykoNM,s=QQ==,i=2,c=biws,r=fykoNM")
    let final := Bytes.ofText (String.ofList (['v', '='] ++ Text.Base64.encode signature))
    ofConfig ⟨.scramSha256, "a=b", "pencil"⟩ "fyko" = .ok c ∧
      (c.run [.first, .serverFirst answer, .serverFinal final]).isComplete = true ∧
      (c.run [.first, .serverFirst answer, .first, .serverFinal final]).isComplete = false := by
  intro c answer salted serverKey signature final
  have hcomplete := fun calls =>
    (@isComplete_iff ⟨.scramSha256, "a=b", "pencil"⟩ "fyko" c rfl calls).2
  have hverifies : c.Verifies answer final := by
    let said : ServerFirst := ⟨"fykoNM".toList, [0x41], 2⟩
    have hsaid : said.Said c.nonce.toList "r=fykoNM,s=QQ==,i=2".toList := by
      constructor <;> decide +kernel
    have hsignature : c.awaited c.bare "r=fykoNM,s=QQ==,i=2".toList said = signature := by
      have hsigned : String.ofList (c.bare ++ ',' :: "r=fykoNM,s=QQ==,i=2".toList ++
          ',' :: ("c=biws,r=".toList ++ said.nonce)) =
          "n=a=3Db,r=fyko,r=fykoNM,s=QQ==,i=2,c=biws,r=fykoNM" := by
        decide +kernel
      rw [awaited, hsigned]
    refine ⟨_, _, said, Bytes.toText?_ofText _, Bytes.toText?_ofText _, hsaid, ?_⟩
    rw [hsignature, String.toList_ofList]
    exact shows_signature signature
  refine ⟨rfl, (hcomplete _).mpr ⟨[], answer, final, hverifies.accepted, hverifies⟩, ?_⟩
  have hrestarted : c.successes [.first, .serverFirst answer, .first, .serverFinal final] =
      [.first, .serverFirst answer, .first] := by
    decide +kernel
  rw [Bool.eq_false_iff, Ne, hcomplete, hrestarted]
  rintro ⟨before, a, b, h, -⟩
  have hlast := congrArg List.getLast? h
  simp at hlast

end Client

end ClusterAdmin.Scram
