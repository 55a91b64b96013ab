import SmartWallet.Client.PreparedInstruction
import SmartWallet.Client.Transaction

/-!
# Drafts

A draft collects what a request needs, in any order. It prepares an instruction once nothing is
missing; among several missing fields the first one in the order of use is reported. This module
holds what the drafts of the several kinds share.
-/

namespace SmartWallet

/-- A field of a draft that must be given. -/
def required {α : Type} (field : RequiredField) (value : Option α) : Except ClientError α :=
  orError (.missing field) value

/-- Who acts on a wallet, and how it proves itself. -/
structure Acting where
  /-- The seed of the acting authority. -/
  seed : Option Key
  signers : List Key
  proof : List UInt8
deriving DecidableEq

namespace Acting

def empty : Acting := ⟨none, [], []⟩

/-- An Ed25519 key is its own seed and signs the transaction. -/
def withKey (a : Acting) (key : Key) : Acting :=
  { a with seed := some key, signers := a.signers ++ [key] }

def withSeed (a : Acting) (seed : Key) : Acting := { a with seed := some seed }

def withProof (a : Acting) (proof : List UInt8) : Acting := { a with proof := proof }

end Acting

/-- Installs a proof that was given beforehand; an empty one leaves the instruction as it is. -/
def PreparedInstruction.withGivenProof (p : PreparedInstruction) (proof : List UInt8) :
    PreparedInstruction :=
  if proof.isEmpty then p else p.withProof proof

/-- The unsigned transaction of one prepared instruction. -/
def PreparedInstruction.toTransaction (p : PreparedInstruction) (deployment : Deployment)
    (c : Connection) : Except ClientError Transaction := do
  let call ← ClientError.ofProgram (p.toCall deployment)
  Transaction.assemble c p.payer [call]

end SmartWallet
