import SmartWallet.Bytes

/-!
# Account references

How a call names the accounts it touches: each with its key and the privileges asked for.
-/

namespace SmartWallet

structure AccountRef where
  key : Key
  signer : Bool
  writable : Bool
deriving DecidableEq

/-- A call of a program: the accounts it is given, in order, and its instruction bytes. -/
structure Call where
  program : Key
  accounts : List AccountRef
  data : List UInt8
deriving DecidableEq

/-- The address of the system program. -/
def systemProgram : Key := .replicate 32 0

/-- Whether both byte strings have the given length and are equal. -/
def equalAt (length : Nat) (left right : List UInt8) : Bool :=
  left.length == length && right.length == length && left == right

namespace AccountRef

/-- The position of the first signer with the given key bytes. -/
def signerIndex? (accounts : List AccountRef) (key : List UInt8) : Option Nat :=
  accounts.findIdx? fun a => a.signer && equalAt 32 a.key.toList key

/-- Whether an account with the key is a signer. -/
def signs (accounts : List AccountRef) (key : Key) : Bool :=
  (signerIndex? accounts key.toList).isSome

theorem equalAt_key (a b : Key) : equalAt 32 a.toList b.toList = true ↔ a = b := by
  simp [equalAt, a.length_toList, b.length_toList, Bytes.ext_iff]

theorem signs_iff {accounts : List AccountRef} {key : Key} :
    signs accounts key = true ↔ ∃ a ∈ accounts, a.signer = true ∧ a.key = key := by
  simp [signs, signerIndex?, List.findIdx?_isSome, List.any_eq_true, equalAt_key]

end AccountRef

end SmartWallet
