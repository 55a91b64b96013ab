import SmartWallet.AccountRef
import SmartWallet.Sha256

/-!
# Signed challenges

A P-256 authority signs the digest of a challenge: the instruction's discriminator and body, the
payer, every account with its flags, a recent slot, and a counter. `Challenge.bytes` is what is
hashed, and `SignedProof` is how slot, counter and signature travel.
-/

namespace SmartWallet

structure Challenge where
  discriminator : List UInt8
  body : List UInt8
  payer : Key
  accounts : List AccountRef
  slot : UInt64
  counter : UInt32
deriving DecidableEq

namespace Challenge

def flagByte (b : Bool) : UInt8 := if b then 1 else 0

/-- An account as it is signed: its key, then whether it is writable and whether it signs. -/
def accountBytes (a : AccountRef) : List UInt8 :=
  a.key.toList ++ [flagByte a.writable, flagByte a.signer]

/-- The bytes that are hashed. -/
def bytes (c : Challenge) : List UInt8 :=
  c.discriminator ++ c.body ++ c.payer.toList ++ c.accounts.flatMap accountBytes ++
    bytesOfUInt64 c.slot ++ bytesOfUInt32 c.counter

def digest (c : Challenge) : Key := Sha256.hash c.bytes

end Challenge

/-- Tells whether a signature of a digest is valid under a key. -/
abbrev Verifier := CompressedKey → Key → Signature → Bool

namespace Verifier

/-- Rejects every signature. -/
def rejectAll : Verifier := fun _ _ _ => false

/-- The digest written twice. -/
def echoSignature (digest : Key) : Signature :=
  ⟨digest.toList ++ digest.toList, by simp [digest.length_toList]⟩

/-- Accepts the digest written twice, whatever the key. -/
def echo : Verifier := fun _ digest signature => signature == echoSignature digest

end Verifier

/-- The proof that a P-256 authority sends. -/
structure SignedProof where
  slot : UInt64
  counter : UInt32
  signature : Signature
deriving DecidableEq

namespace SignedProof

def size : Nat := 76

def encode (p : SignedProof) : List UInt8 :=
  bytesOfUInt64 p.slot ++ bytesOfUInt32 p.counter ++ p.signature.toList

/-- Reads a proof that fills the bytes exactly. -/
def decode? (bs : List UInt8) : Option SignedProof := do
  let (slot, rest) ← Bytes.split? 8 bs
  let (counter, rest) ← Bytes.split? 4 rest
  let signature ← Bytes.ofList? 64 rest
  pure ⟨slot.toUInt64, counter.toUInt32, signature⟩

end SignedProof

end SmartWallet
