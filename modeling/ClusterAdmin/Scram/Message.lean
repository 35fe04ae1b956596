import ClusterAdmin.Failure
import ClusterAdmin.Text.Base64
import ClusterAdmin.Text.Basic
import ClusterAdmin.Word

namespace ClusterAdmin.Scram

/-- Why an exchange cannot go on. -/
inductive Refusal where
  | firstOutOfOrder
  | firstNotText
  | serverError (text : String)
  | extensionRequired
  | nonceMissing
  | nonceForeign
  | saltUnreadable
  | iterationsUnreadable
  | finalOutOfOrder
  | finalNotText
  | verifierMissing
  | signatureMismatch
  deriving DecidableEq, Repr

namespace Refusal

def message : Refusal → String
  | firstOutOfOrder => "SCRAM server-first received out of order"
  | firstNotText => "SCRAM server-first is not valid UTF-8"
  | serverError text => s!"SCRAM server error: {text}"
  | extensionRequired => "SCRAM mandatory extension not supported"
  | nonceMissing => "SCRAM server-first missing nonce"
  | nonceForeign => "SCRAM server nonce does not extend the client nonce"
  | saltUnreadable => "SCRAM server-first has a missing or invalid salt"
  | iterationsUnreadable => "SCRAM server-first has a missing or invalid iteration count"
  | finalOutOfOrder => "SCRAM server-final received out of order"
  | finalNotText => "SCRAM server-final is not valid UTF-8"
  | verifierMissing => "SCRAM server-final missing verifier"
  | signatureMismatch => "SCRAM server signature mismatch"

/-- Every refusal is a failure to authenticate. -/
def toFailure (r : Refusal) : Failure := Failure.auth r.message

end Refusal

/-- A user name as an attribute's value: the two characters that structure a message are spelled
with an equals sign and their code. -/
def escape (name : List Char) : List Char :=
  name.flatMap fun c =>
    if c = '=' then ['=', '3', 'D'] else if c = ',' then ['=', '2', 'C'] else [c]

/-- The header that says the client binds no channel. -/
def header : List Char := ['n', ',', ',']

/-- The first message without its header. -/
def bareFirst (username nonce : List Char) : List Char :=
  ['n', '='] ++ escape username ++ [',', 'r', '='] ++ nonce

/-- The last message without its proof: the header again, and the nonce of both sides. -/
def unprovenFinal (nonce : List Char) : List Char :=
  ['c', '='] ++ Text.Base64.encode (Bytes.ofText (String.ofList header)) ++ [',', 'r', '='] ++ nonce

/-- The last message. -/
def provenFinal (nonce : List Char) (proof : Bytes) : List Char :=
  unprovenFinal nonce ++ [',', 'p', '='] ++ Text.Base64.encode proof

/-- What both sides sign: the first message, the server's answer to it and the last message, each
without what comes around it. -/
def signedText (bare serverFirst unproven : List Char) : List Char :=
  bare ++ [','] ++ serverFirst ++ [','] ++ unproven

/-- The attributes of a message in order. Parts without an equals sign say nothing. -/
def attributes (message : List Char) : List (List Char × List Char) :=
  (Text.pieces ',' message).filterMap (Text.cut? '=')

/-- The value of the last attribute of that letter. -/
def lastValue? (letter : Char) (as : List (List Char × List Char)) : Option (List Char) :=
  (as.reverse.find? fun a => a.1 = [letter]).map (·.2)

/-- The first attribute that ends an exchange: an error, or an extension that must be understood. -/
def refusal? : List (List Char × List Char) → Option Refusal
  | [] => none
  | (name, value) :: rest =>
    if name = ['e'] then some (.serverError (String.ofList value))
    else if name = ['m'] then some .extensionRequired
    else refusal? rest

/-- A positive count below 2³² in decimal digits, a plus sign allowed before them. -/
def count? (t : List Char) : Option Nat :=
  let digits := match t with
    | '+' :: r => r
    | _ => t
  if digits.isEmpty || !digits.all Char.isDigit then none
  else
    let n := digits.foldl (fun n c => 10 * n + (c.toNat - 48)) 0
    if 0 < n ∧ n ≤ Word.maxNat32 then some n else none

/-- The server's answer to the first message. -/
structure ServerFirst where
  nonce : List Char
  salt : Bytes
  iterations : Nat
  deriving DecidableEq, Repr

/-- Reads the answer to a first message with that nonce. The answer's nonce must start with it and
go on. -/
def ServerFirst.ofText (clientNonce message : List Char) : Except Refusal ServerFirst := do
  let as := attributes message
  if let some r := refusal? as then throw r
  let some nonce := lastValue? 'r' as | throw .nonceMissing
  if ¬(clientNonce <+: nonce) ∨ nonce = clientNonce then throw .nonceForeign
  let some salt := (lastValue? 's' as).bind Text.Base64.decode? | throw .saltUnreadable
  let some iterations := (lastValue? 'i' as).bind count? | throw .iterationsUnreadable
  return ⟨nonce, salt, iterations⟩

/-- Reads the signature out of the server's last answer: the first part that starts as one. -/
def verifierOf (message : List Char) : Except Refusal Bytes := do
  if let some text := Text.after? ['e', '='] message then
    throw (.serverError (String.ofList text))
  let first := (Text.pieces ',' message).findSome? (Text.after? ['v', '='])
  let some signature := first.bind Text.Base64.decode? | throw .verifierMissing
  return signature

theorem comma_not_mem_escape (name : List Char) : ',' ∉ escape name := by
  induction name with
  | nil => simp [escape]
  | cons c r ih =>
    simp only [escape, List.flatMap_cons, List.mem_append, not_or] at ih ⊢
    refine ⟨?_, ih⟩
    split
    · decide
    · split
      · decide
      · rename_i h
        simpa using Ne.symm h

theorem count?_toDigits {n : Nat} (hpos : 0 < n) (hmax : n ≤ Word.maxNat32) :
    count? (Nat.toDigits 10 n) = some n := by
  have hdigits : ∀ c ∈ Nat.toDigits 10 n, c.isDigit = true := fun c hc =>
    Nat.isDigit_of_mem_toDigits (by decide) (by decide) hc
  have hvalue : (Nat.toDigits 10 n).foldl (fun n c => 10 * n + (c.toNat - 48)) 0 = n := by
    have h := Nat.ofDigitChars_ten_toDigits (n := n)
    rwa [Nat.ofDigitChars_eq_foldl] at h
  have hne : Nat.toDigits 10 n ≠ [] := Nat.toDigits_ne_nil
  cases ht : Nat.toDigits 10 n with
  | nil => exact absurd ht hne
  | cons c r =>
    rw [ht] at hdigits hvalue
    have hplus : c ≠ '+' := by
      rintro rfl
      exact absurd (hdigits '+' (List.mem_cons_self ..)) (by decide)
    have hall : (c :: r).all Char.isDigit = true := List.all_eq_true.mpr hdigits
    unfold count?
    split 
    rename_i heq
    · cases heq; exact absurd rfl hplus
    · simp [hall, hvalue, hpos, hmax]

theorem comma_not_mem_toDigits (n : Nat) : ',' ∉ Nat.toDigits 10 n := by
  intro h
  exact absurd (Nat.isDigit_of_mem_toDigits (by decide) (by decide) h) (by decide)

end ClusterAdmin.Scram
