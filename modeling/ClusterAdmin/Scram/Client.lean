import ClusterAdmin.Hash.Keyed
import ClusterAdmin.Sasl
import ClusterAdmin.Scram.Message

namespace ClusterAdmin

/-- The hash under a SCRAM mechanism. -/
def Mechanism.hash? : Mechanism → Option Hash.Algorithm
  | .plain => none
  | .scramSha256 => some Hash.sha256
  | .scramSha512 => some Hash.sha512

namespace Scram

/-- How far an exchange has come. -/
inductive Stage where
  | initial
  /-- The first message is out; its text without the header. -/
  | firstSent (bare : List Char)
  /-- The proof is out; the signature that the server must show. -/
  | finalSent (signature : Bytes)
  | complete
  deriving DecidableEq, Repr

structure Client where
  hash : Hash.Algorithm
  username : String
  password : String
  nonce : String
  stage : Stage

/-- The key that both sides derive from the password. -/
def saltedPassword (h : Hash.Algorithm) (password salt : Bytes) (iterations : Nat) : Bytes :=
  Hash.stretch h password salt iterations

def clientKey (h : Hash.Algorithm) (salted : Bytes) : Bytes :=
  Hash.hmac h salted (Bytes.ofText "Client Key")

/-- What a server keeps of the client's key. -/
def storedKey (h : Hash.Algorithm) (salted : Bytes) : Bytes := h.digest (clientKey h salted)

def serverKey (h : Hash.Algorithm) (salted : Bytes) : Bytes :=
  Hash.hmac h salted (Bytes.ofText "Server Key")

/-- The client's key under a mask that whoever holds the stored key can take off. -/
def proof (h : Hash.Algorithm) (salted signed : Bytes) : Bytes :=
  Hash.xor (clientKey h salted) (Hash.hmac h (storedKey h salted) signed)

/-- What only a server that knows the password's key can show. -/
def serverSignature (h : Hash.Algorithm) (salted signed : Bytes) : Bytes :=
  Hash.hmac h (serverKey h salted) signed

/-- Equality of octet strings that looks at every octet whatever the earlier ones were. -/
def sameOctets (a b : Bytes) : Bool :=
  a.length = b.length && (List.zip a b).foldl (fun seen (x, y) => seen ||| (x ^^^ y)) 0 = 0

/-- Side by side, two strings show no difference exactly if one of them begins the other: what the
longer one has beyond that stands beside nothing and is not looked at. -/
theorem foldl_zip_eq_zero_iff (a b : Bytes) (seen : UInt8) :
    (List.zip a b).foldl (fun seen (x, y) => seen ||| (x ^^^ y)) seen = 0 ↔
      seen = 0 ∧ (a <+: b ∨ b <+: a) := by
  induction a generalizing b seen with
  | nil => simp
  | cons x a ih =>
    cases b with
    | nil => simp
    | cons y b =>
      rw [List.zip_cons_cons, List.foldl_cons, ih, UInt8.or_eq_zero_iff, UInt8.xor_eq_zero_iff,
        and_assoc, List.cons_prefix_cons, List.cons_prefix_cons, eq_comm (a := y), and_or_left]

/-- With their lengths the same, neither of two strings has more than the other. -/
theorem sameOctets_iff (a b : Bytes) : sameOctets a b = true ↔ a = b := by
  rw [sameOctets, Bool.and_eq_true, decide_eq_true_eq, decide_eq_true_eq, foldl_zip_eq_zero_iff]
  constructor
  · rintro ⟨hlength, -, hbegins | hbegins⟩
    · exact hbegins.eq_of_length hlength
    · exact (hbegins.eq_of_length hlength.symm).symm
  · rintro rfl
    exact ⟨rfl, rfl, .inl (List.prefix_refl a)⟩

namespace Client

/-- A client for a login over SCRAM, with the nonce it is to use. -/
def ofConfig (c : SaslConfig) (nonce : String) : Except Failure Client :=
  match c.mechanism.hash? with
  | some h => .ok ⟨h, c.username, c.password, nonce, .initial⟩
  | none => .error (Failure.invalid s!"{c.mechanism.wireName} is not a SCRAM mechanism")

def isComplete (c : Client) : Bool := c.stage = .complete

/-- The first message. It may be written at any time and starts the exchange over. -/
def first (c : Client) : String × Client :=
  let bare := bareFirst c.username.toList c.nonce.toList
  (String.ofList (header ++ bare), { c with stage := .firstSent bare })

/-- The last message, in answer to the server's first. -/
def onServerFirst (c : Client) (message : Bytes) : Except Refusal (String × Client) := do
  let .firstSent bare := c.stage | throw .firstOutOfOrder
  let some text := message.toText? | throw .firstNotText
  let said ← ServerFirst.ofText c.nonce.toList text.toList
  let signed :=
    Bytes.ofText (String.ofList (signedText bare text.toList (unprovenFinal said.nonce)))
  let salted := saltedPassword c.hash (Bytes.ofText c.password) said.salt said.iterations
  return (String.ofList (provenFinal said.nonce (proof c.hash salted signed)),
    { c with stage := .finalSent (serverSignature c.hash salted signed) })

/-- Ends the exchange if the server's last answer shows the expected signature. -/
def onServerFinal (c : Client) (message : Bytes) : Except Refusal Client := do
  let .finalSent signature := c.stage | throw .finalOutOfOrder
  let some text := message.toText? | throw .finalNotText
  let shown ← verifierOf text.toList
  if sameOctets shown signature then return { c with stage := .complete }
  else throw .signatureMismatch

/-- One call on a client. -/
inductive Call where
  | first
  | serverFirst (message : Bytes)
  | serverFinal (message : Bytes)
  deriving DecidableEq, Repr

/-- What a call answers, a message to send if there is one, and the client after it. -/
def step (c : Client) : Call → Except Refusal (Option String) × Client
  | .first => (.ok (some c.first.1), c.first.2)
  | .serverFirst m =>
    match c.onServerFirst m with
    | .ok (text, c') => (.ok (some text), c')
    | .error r => (.error r, c)
  | .serverFinal m =>
    match c.onServerFinal m with
    | .ok c' => (.ok none, c')
    | .error r => (.error r, c)

end Client

end Scram

end ClusterAdmin
