import ClusterAdmin.Hash.Sha256
import ClusterAdmin.Hash.Sha512

namespace ClusterAdmin.Hash

/-- A digest with the block size that keying needs. -/
structure Algorithm where
  digest : Bytes → Bytes
  blockSize : Nat

def sha256 : Algorithm := ⟨Sha256.digest, 64⟩

def sha512 : Algorithm := ⟨Sha512.digest, 128⟩

/-- Octet by octet, to the shorter of the two. -/
def xor (a b : Bytes) : Bytes := List.zipWith (· ^^^ ·) a b

/-- The key as one block: a long key is digested first, then zeros follow. -/
def keyBlock (h : Algorithm) (key : Bytes) : Bytes :=
  let short := if key.length > h.blockSize then h.digest key else key
  short ++ List.replicate (h.blockSize - short.length) 0

/-- Keyed hashing (HMAC). -/
def hmac (h : Algorithm) (key message : Bytes) : Bytes :=
  let block := keyBlock h key
  h.digest (block.map (· ^^^ 0x5c) ++ h.digest (block.map (· ^^^ 0x36) ++ message))

/-- Adds `n` further rounds to the running key, each keyed over the last round's output. -/
def stretchFrom (h : Algorithm) (password : Bytes) : Nat → Bytes → Bytes → Bytes
  | 0, _, key => key
  | n + 1, last, key =>
    let next := hmac h password last
    stretchFrom h password n next (xor key next)

/-- The key that `iterations` rounds of keyed hashing give for a password and a salt: PBKDF2 with
one block of output. -/
def stretch (h : Algorithm) (password salt : Bytes) (iterations : Nat) : Bytes :=
  let first := hmac h password (salt ++ Bytes.ofUInt32 1)
  stretchFrom h password (iterations - 1) first first

example : Bytes.toHex (stretch sha256 (Bytes.ofText "password") (Bytes.ofText "salt") 2) =
    "ae4d0c95af6b46d32d0adff928f06dd02a303f8ef3c251dfd6e2d85a95474c43" := by
  decide +kernel

/-- A mask put on twice is off. -/
theorem xor_xor {a b : Bytes} (h : a.length ≤ b.length) : xor (xor a b) b = a := by
  induction a generalizing b with
  | nil => rfl
  | cons x a ih =>
    cases b with
    | nil => simp at h
    | cons y b =>
      have hab : xor (xor a b) b = a := ih (by simpa using h)
      simp only [xor, List.zipWith_cons_cons] at hab ⊢
      rw [hab, UInt8.xor_assoc, UInt8.xor_self, UInt8.xor_zero]

theorem length_hmac {h : Algorithm} {n : Nat} (hd : ∀ m, (h.digest m).length = n) (key m : Bytes) :
    (hmac h key m).length = n :=
  hd _

end ClusterAdmin.Hash
