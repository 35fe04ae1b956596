import ClusterAdmin.Proofs.Exchanges

namespace ClusterAdmin.Scram

/-- Reads a user name. An equals sign stands for nothing but the two characters that are spelled
with one. -/
def unescape? : List Char → Option (List Char)
  | [] => some []
  | '=' :: '3' :: 'D' :: r => (unescape? r).map ('=' :: ·)
  | '=' :: '2' :: 'C' :: r => (unescape? r).map (',' :: ·)
  | c :: r => if c = '=' ∨ c = ',' then none else (unescape? r).map (c :: ·)

theorem unescape?_cons {c : Char} (h : c ≠ '=') (h' : c ≠ ',') (r : List Char) :
    unescape? (c :: r) = (unescape? r).map (c :: ·) := by
  rw [unescape?.eq_4]
  · rw [if_neg (by simp [h, h'])]
  · rintro _ rfl
    exact absurd rfl h
  · rintro _ rfl
    exact absurd rfl h

theorem unescape?_escape (name : List Char) : unescape? (escape name) = some name := by
  induction name with
  | nil => rfl
  | cons c r ih =>
    rw [escape, List.flatMap_cons, ← escape]
    split
    · rename_i h
      rw [h]
      simp [unescape?, ih]
    · split
      · rename_i h
        rw [h]
        simp [unescape?, ih]
      · rename_i h h'
        rw [List.singleton_append, unescape?_cons h h', ih]
        rfl

/-- What a server keeps of a user. -/
structure Account where
  hash : Hash.Algorithm
  salt : Bytes
  iterations : Nat
  storedKey : Bytes
  serverKey : Bytes

def Account.ofPassword (h : Hash.Algorithm) (password salt : Bytes) (iterations : Nat) : Account :=
  let salted := Hash.stretch h password salt iterations
  { hash := h, salt, iterations
    storedKey := h.digest (Hash.hmac h salted (Bytes.ofText "Client Key"))
    serverKey := Hash.hmac h salted (Bytes.ofText "Server Key") }

/-- A client's first message: all of it but the header, and the user name and the nonce in it. -/
structure ClientFirst where
  bare : List Char
  username : List Char
  nonce : List Char
  deriving DecidableEq, Repr

def ClientFirst.ofBytes? (message : Bytes) : Option ClientFirst := do
  let text ← message.toText?
  let bare ← Text.after? ['n', ',', ','] text.toList
  match Text.pieces ',' bare with
  | name :: nonce :: _ =>
    let username ← (Text.after? ['n', '='] name).bind unescape?
    return ⟨bare, username, ← Text.after? ['r', '='] nonce⟩
  | _ => none

/-- A client's last message: all of it but the proof, and what its attributes say. -/
structure ClientFinal where
  unproven : List Char
  binding : Bytes
  nonce : List Char
  proof : Bytes
  deriving DecidableEq, Repr

def ClientFinal.ofBytes? (message : Bytes) : Option ClientFinal := do
  let text ← message.toText?
  match Text.pieces ',' text.toList with
  | [binding, nonce, proof] =>
    let bound ← (Text.after? ['c', '='] binding).bind Text.Base64.decode?
    let both ← Text.after? ['r', '='] nonce
    return ⟨binding ++ ',' :: nonce, bound, both,
      ← (Text.after? ['p', '='] proof).bind Text.Base64.decode?⟩
  | _ => none

/-- A server in the middle of a login, as RFC 5802 has it: the account, the message that began it,
and the server's own part of the nonce. -/
structure Server where
  account : Account
  first : ClientFirst
  suffix : List Char

namespace Server

/-- The nonce of both sides. -/
def nonce (s : Server) : List Char := s.first.nonce ++ s.suffix

/-- The answer to the first message. -/
def answer (s : Server) : List Char :=
  ['r', '='] ++ s.nonce ++ [',', 's', '='] ++ Text.Base64.encode s.account.salt ++
    [',', 'i', '='] ++ Nat.toDigits 10 s.account.iterations

/-- What both sides sign. -/
def signed (s : Server) (final : ClientFinal) : Bytes :=
  Bytes.ofText (String.ofList (s.first.bare ++ ',' :: s.answer ++ ',' :: final.unproven))

/-- What the client masked its key with, if it has the right one. -/
def mask (s : Server) (final : ClientFinal) : Bytes :=
  Hash.hmac s.account.hash s.account.storedKey (s.signed final)

/-- The client's key under the mask of its proof. -/
def clientKey (s : Server) (final : ClientFinal) : Bytes := Hash.xor final.proof (s.mask final)

/-- Whether the last message fits the ones before it and proves that its writer has the client's
key. -/
def accepts (s : Server) (final : ClientFinal) : Bool :=
  final.binding = Bytes.ofText "n,," && final.nonce = s.nonce &&
    final.proof.length = (s.mask final).length &&
    s.account.hash.digest (s.clientKey final) = s.account.storedKey

/-- The answer to the last message, for a client that is accepted. -/
def verdict? (s : Server) (message : Bytes) : Option Bytes := do
  let final ← ClientFinal.ofBytes? message
  if s.accepts final then
    let signature := Hash.hmac s.account.hash s.account.serverKey (s.signed final)
    return Bytes.ofText (String.ofList (['v', '='] ++ Text.Base64.encode signature))
  else none

end Server

theorem ofBytes?_first (username nonce : List Char) (hn : ',' ∉ nonce) :
    ClientFirst.ofBytes? (Bytes.ofText (String.ofList (header ++ bareFirst username nonce))) =
      some ⟨bareFirst username nonce, username, nonce⟩ := by
  have hname : ',' ∉ ['n', '='] ++ escape username := by
    simp [comma_not_mem_escape]
  have hnonce : ',' ∉ ['r', '='] ++ nonce := by
    simp [hn]
  have hpieces : Text.pieces ',' (bareFirst username nonce) =
      [['n', '='] ++ escape username, ['r', '='] ++ nonce] := by
    have hbare : bareFirst username nonce =
        (['n', '='] ++ escape username) ++ ',' :: (['r', '='] ++ nonce) := by
      simp [bareFirst]
    rw [hbare, Text.pieces_append hname, Text.pieces_of_not_mem hnonce]
  simp only [ClientFirst.ofBytes?, Bytes.toText?_ofText, String.toList_ofList, header,
    Text.after?_append, hpieces, unescape?_escape, Option.bind_eq_bind, Option.bind_some,
    Option.pure_def]

theorem ofBytes?_final (nonce : List Char) (hn : ',' ∉ nonce) (proof : Bytes) :
    ClientFinal.ofBytes? (Bytes.ofText (String.ofList (provenFinal nonce proof))) =
      some ⟨unprovenFinal nonce, Bytes.ofText (String.ofList header), nonce, proof⟩ := by
  let bound := ['c', '='] ++ Text.Base64.encode (Bytes.ofText (String.ofList header))
  have hbound : ',' ∉ bound := by
    simp [bound, Text.Base64.comma_not_mem_encode]
  have hnonce : ',' ∉ ['r', '='] ++ nonce := by
    simp [hn]
  have hproof : ',' ∉ ['p', '='] ++ Text.Base64.encode proof := by
    simp [Text.Base64.comma_not_mem_encode]
  have hunproven : unprovenFinal nonce = bound ++ ',' :: (['r', '='] ++ nonce) := by
    simp [unprovenFinal, bound]
  have hpieces : Text.pieces ',' (provenFinal nonce proof) =
      [bound, ['r', '='] ++ nonce, ['p', '='] ++ Text.Base64.encode proof] := by
    have hproven : provenFinal nonce proof =
        bound ++ ',' :: ((['r', '='] ++ nonce) ++ ',' ::
          (['p', '='] ++ Text.Base64.encode proof)) := by
      simp [provenFinal, hunproven]
    rw [hproven, Text.pieces_append hbound, Text.pieces_append hnonce,
      Text.pieces_of_not_mem hproof]
  simp only [ClientFinal.ofBytes?, Bytes.toText?_ofText, String.toList_ofList, hpieces, hunproven,
    Option.bind_eq_bind, Option.bind_some, bound, Text.after?_append,
    Text.Base64.decode?_encode, Option.pure_def]

theorem said_answer {s : Server} {clientNonce : List Char}
    (hfirst : s.first.nonce = clientNonce) (hn : ',' ∉ clientNonce) (hs : s.suffix ≠ [])
    (hc : ',' ∉ s.suffix) (hpos : 0 < s.account.iterations)
    (hmax : s.account.iterations ≤ Word.maxNat32) :
    ServerFirst.Said clientNonce s.answer ⟨s.nonce, s.account.salt, s.account.iterations⟩ := by
  have hnonce : s.nonce = clientNonce ++ s.suffix := by rw [Server.nonce, hfirst]
  have hpieces : Text.pieces ',' s.answer =
      [['r', '='] ++ s.nonce, ['s', '='] ++ Text.Base64.encode s.account.salt,
        ['i', '='] ++ Nat.toDigits 10 s.account.iterations] := by
    have hr : ',' ∉ ['r', '='] ++ s.nonce := by
      simp [hnonce, hn, hc]
    have hsalt : ',' ∉ ['s', '='] ++ Text.Base64.encode s.account.salt := by
      simp [Text.Base64.comma_not_mem_encode]
    have hi : ',' ∉ ['i', '='] ++ Nat.toDigits 10 s.account.iterations := by
      simp [comma_not_mem_toDigits]
    have hanswer : s.answer = (['r', '='] ++ s.nonce) ++ ',' ::
        ((['s', '='] ++ Text.Base64.encode s.account.salt) ++ ',' ::
          (['i', '='] ++ Nat.toDigits 10 s.account.iterations)) := by
      simp [Server.answer]
    rw [hanswer, Text.pieces_append hr, Text.pieces_append hsalt, Text.pieces_of_not_mem hi]
  constructor
  · simp [hpieces, Text.after?]
  · simp [hpieces, Text.after?]
  · simp [hnonce]
  · simp [hnonce, hs]
  · simp [hpieces, Text.after?]
  · simp [hpieces, Text.after?, count?_toDigits hpos hmax]

/-- Both hashes have digests of one length, whatever is digested. -/
theorem length_digest_of_hash? {m : Mechanism} {h : Hash.Algorithm} (hm : m.hash? = some h) :
    ∃ n, ∀ b, (h.digest b).length = n := by
  cases m with
  | plain => cases hm
  | scramSha256 =>
    cases hm
    exact ⟨32, Hash.Sha256.length_digest⟩
  | scramSha512 =>
    cases hm
    exact ⟨64, Hash.Sha512.length_digest⟩

namespace Server

variable {h : Hash.Algorithm} {n : Nat} {password salt : Bytes} {iterations : Nat} {s : Server}
  {final : ClientFinal}

/-- The mask is as long as what is under it, and so comes off. -/
theorem clientKey_of_proof (hd : ∀ b, (h.digest b).length = n)
    (account : s.account = Account.ofPassword h password salt iterations)
    (shown : final.proof = proof h (saltedPassword h password salt iterations) (s.signed final)) :
    s.clientKey final = Scram.clientKey h (saltedPassword h password salt iterations) ∧
      final.proof.length = (s.mask final).length := by
  have hmask : s.mask final = Hash.hmac h
      (storedKey h (saltedPassword h password salt iterations)) (s.signed final) := by
    rw [mask, account]
    rfl
  have hlength : (Scram.clientKey h (saltedPassword h password salt iterations)).length = n :=
    Hash.length_hmac hd _ _
  rw [clientKey, hmask, shown, proof]
  refine ⟨Hash.xor_xor (Nat.le_of_eq (hlength.trans (Hash.length_hmac hd _ _).symm)), ?_⟩
  rw [Hash.xor, List.length_zipWith, hlength, Hash.length_hmac hd, Nat.min_self]

theorem accepts_of_proof (hd : ∀ b, (h.digest b).length = n)
    (account : s.account = Account.ofPassword h password salt iterations)
    (shown : final.proof = proof h (saltedPassword h password salt iterations) (s.signed final))
    (binding : final.binding = Bytes.ofText "n,,") (nonce : final.nonce = s.nonce) :
    s.accepts final = true ∧
      s.account.hash.digest (s.clientKey final) = s.account.storedKey := by
  obtain ⟨hkey, hlength⟩ := clientKey_of_proof hd account shown
  have hstored : s.account.hash.digest (s.clientKey final) = s.account.storedKey := by
    rw [hkey, account]
    rfl
  exact ⟨by simp [accepts, binding, nonce, hlength, hstored], hstored⟩

end Server

/-- A client and a server of the same password finish the login. The server reads who logs in,
finds the client's key under the proof and accepts it, and the client accepts the server. -/
theorem login_completes {config : SaslConfig} {h : Hash.Algorithm} {nonce : String}
    {salt : Bytes} {iterations : Nat} {suffix : List Char}
    (mechanism : config.mechanism.hash? = some h) (nonceSays : ',' ∉ nonce.toList)
    (positive : 0 < iterations) (bounded : iterations ≤ Word.maxNat32) (longer : suffix ≠ [])
    (suffixSays : ',' ∉ suffix) :
    ∃ client first, Client.ofConfig config nonce = .ok client ∧
      ClientFirst.ofBytes? (Bytes.ofText client.first.1) = some first ∧
      first.username = config.username.toList ∧ first.nonce = nonce.toList ∧
      let account := Account.ofPassword h (Bytes.ofText config.password) salt iterations
      let server : Server := ⟨account, first, suffix⟩
      ∃ last client', client.first.2.onServerFirst (Bytes.ofText (String.ofList server.answer)) =
          .ok (last, client') ∧
        ∃ final, ClientFinal.ofBytes? (Bytes.ofText last) = some final ∧
          h.digest (server.clientKey final) = account.storedKey ∧
          ∃ reply, server.verdict? (Bytes.ofText last) = some reply ∧
            ∃ done, client'.onServerFinal reply = .ok done ∧ done.isComplete = true := by
  obtain ⟨n, hd⟩ := length_digest_of_hash? mechanism
  let client : Client := ⟨h, config.username, config.password, nonce, .initial⟩
  let first : ClientFirst := ⟨client.bare, config.username.toList, nonce.toList⟩
  refine ⟨client, first, ?_, ofBytes?_first _ _ nonceSays, rfl, rfl, ?_⟩
  · rw [Client.ofConfig, mechanism]
  intro account server
  let said : ServerFirst := ⟨server.nonce, salt, iterations⟩
  have hsaid : said.Said nonce.toList server.answer :=
    said_answer rfl nonceSays longer suffixSays positive bounded
  have hboth : ',' ∉ server.nonce := by
    simp [Server.nonce, server, first, nonceSays, suffixSays]
  let final : ClientFinal := ⟨unprovenFinal server.nonce, Bytes.ofText (String.ofList header),
    server.nonce, client.proven client.bare server.answer said⟩
  have hfinal : ClientFinal.ofBytes? (Bytes.ofText (String.ofList
      (provenFinal server.nonce (client.proven client.bare server.answer said)))) = some final :=
    ofBytes?_final _ hboth _
  -- The two sides put the same text together, each from its own pieces.
  have hsigned : server.signed final = signedOctets client.bare server.answer said := by
    simp [Server.signed, signedOctets, signedText, final, server, first, said]
  have hshown : final.proof =
      proof h (saltedPassword h (Bytes.ofText config.password) salt iterations)
        (server.signed final) := by
    rw [hsigned]
    rfl
  obtain ⟨haccepts, hstored⟩ := Server.accepts_of_proof hd rfl hshown rfl rfl
  let signature := client.awaited client.bare server.answer said
  have hverdict : server.verdict? (Bytes.ofText (String.ofList
      (provenFinal server.nonce (client.proven client.bare server.answer said)))) =
      some (Bytes.ofText (String.ofList (['v', '='] ++ Text.Base64.encode signature))) := by
    simp only [Server.verdict?, hfinal, Option.bind_eq_bind, Option.bind_some, haccepts,
      hsigned, ↓reduceIte, signature, Client.awaited_eq]
    rfl
  refine ⟨_, client.atStage (.finalSent signature), ?_, final, hfinal, hstored, _, hverdict,
    client.atStage .complete, ?_, rfl⟩
  · exact Client.onServerFirst_eq_ok_iff.mpr ⟨client.bare, String.ofList server.answer, said, rfl,
      Bytes.toText?_ofText _, by rwa [String.toList_ofList], by rw [String.toList_ofList]; rfl,
      by rw [String.toList_ofList]; rfl⟩
  · exact Client.onServerFinal_eq_ok_iff.mpr ⟨signature, _, rfl, Bytes.toText?_ofText _,
      by rw [String.toList_ofList]; exact shows_signature _, rfl⟩

/-- A user name of nothing but the two characters that structure a message, with no salt, is read
back and let in. -/
theorem login_completes_escaped :
    let config : SaslConfig := ⟨.scramSha512, "=,", "pencil"⟩
    ∃ client first, Client.ofConfig config "" = .ok client ∧
      ClientFirst.ofBytes? (Bytes.ofText client.first.1) = some first ∧
      first.username = ['=', ','] ∧
      ∃ last client' reply done,
        client.first.2.onServerFirst (Bytes.ofText (String.ofList (Server.answer
          ⟨Account.ofPassword Hash.sha512 (Bytes.ofText "pencil") [] 4096, first, ['=']⟩))) =
          .ok (last, client') ∧
        client'.onServerFinal reply = .ok done ∧ done.isComplete = true := by
  intro config
  obtain ⟨client, first, hmade, hfirst, hname, -, last, client', hlast, -, -, -, reply, -, done,
    hdone, hcomplete⟩ :=
    @login_completes config Hash.sha512 "" [] 4096 ['='] rfl (by decide) (by decide) (by decide)
      (by decide) (by decide)
  exact ⟨client, first, hmade, hfirst, hname.trans (by decide), last, client', reply, done, hlast,
    hdone, hcomplete⟩

end ClusterAdmin.Scram
