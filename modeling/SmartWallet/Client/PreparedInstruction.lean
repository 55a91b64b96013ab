import SmartWallet.Address
import SmartWallet.Batch.Packing
import SmartWallet.Challenge
import SmartWallet.Client.Error
import SmartWallet.Instruction

/-!
# Prepared instructions

An instruction beside the accounts it takes, still open for a proof. `PreparedInstruction.digest` is
what a P-256 authority signs; it covers the account list as it stands, so that extra signers must be
in it before.
-/

namespace SmartWallet

structure PreparedInstruction where
  payer : Key
  instruction : Instruction
  accounts : List AccountRef
deriving DecidableEq

namespace PreparedInstruction

def withProof (p : PreparedInstruction) (proof : List UInt8) : PreparedInstruction :=
  { p with instruction := p.instruction.withProof proof }

/-- What the acting authority commits to. A removal commits to its target and refund accounts, which
its data does not name. -/
def signedBody (p : PreparedInstruction) : Except ProgramError (List UInt8) :=
  match p.instruction with
  | .removeAuthority _ =>
    .ok (((p.accounts.drop 3).take 2).flatMap fun a => a.key.toList)
  | ix => ix.signedBody

def challenge (p : PreparedInstruction) (deployment : Deployment) (slot : UInt64)
    (counter : UInt32) : Except ProgramError Challenge := do
  let body ← p.signedBody
  let discriminator := p.instruction.kind.discriminator deployment.profile
  pure ⟨discriminator, body, p.payer, p.accounts, slot, counter⟩

/-- What a P-256 authority signs. The counter must be one more than the stored one, and the slot a
recent one. -/
def digest (p : PreparedInstruction) (deployment : Deployment) (slot : UInt64) (counter : UInt32) :
    Except ProgramError Key :=
  (p.challenge deployment slot counter).map Challenge.digest

/-- Has the digest signed and installs the proof. -/
def sign (p : PreparedInstruction) (deployment : Deployment)
    (signDigest : Key → Except String Signature) (slot : UInt64) (counter : UInt32) :
    Except ClientError PreparedInstruction := do
  let digest ← ClientError.ofProgram (p.digest deployment slot counter)
  let signature ← (signDigest digest).mapError .signing
  pure (p.withProof (SignedProof.encode ⟨slot, counter, signature⟩))

/-- The call of the wallet program. It fails when a batch does not fit its format. -/
def toCall (p : PreparedInstruction) (deployment : Deployment) : Except ProgramError Call := do
  let data ← p.instruction.encode deployment.profile
  pure ⟨deployment.program, p.accounts, data⟩

end PreparedInstruction

/-!
## Account layouts

One function per kind of instruction: it derives the addresses and lists the accounts in the order
in which the program reads them. Further signers follow, and the proof is left empty.
-/

namespace PreparedInstruction

/-- Further signers, which are only read. -/
def signerRefs (signers : List Key) : List AccountRef := signers.map fun key => ⟨key, true, false⟩

def createWallet (deployment : Deployment) (payer walletId : Key) (owner : AuthorityPayload) :
    Except ProgramError PreparedInstruction := do
  let wallet ← ofRecord ((Recipe.wallet walletId.toList).address deployment)
  let vault ← ofRecord ((Recipe.vault wallet).address deployment)
  let marker ← ofRecord ((Recipe.authority wallet owner.seed).derive deployment)
  pure ⟨payer, .createWallet walletId marker.bump owner,
    [⟨payer, true, true⟩, ⟨wallet, false, true⟩, ⟨vault, false, true⟩, ⟨marker.key, false, true⟩,
      ⟨systemProgram, false, false⟩]⟩

def addAuthority (deployment : Deployment) (payer wallet actingSeed : Key) (role : Role)
    (authority : AuthorityPayload) (signers : List Key) :
    Except ProgramError PreparedInstruction := do
  let acting ← ofRecord ((Recipe.authority wallet actingSeed).address deployment)
  let marker ← ofRecord ((Recipe.authority wallet authority.seed).address deployment)
  pure ⟨payer, .addAuthority role authority [],
    [⟨payer, true, true⟩, ⟨wallet, false, true⟩, ⟨acting, false, false⟩, ⟨marker, false, true⟩,
      ⟨systemProgram, false, false⟩] ++ signerRefs signers⟩

def removeAuthority (deployment : Deployment) (payer wallet actingSeed targetSeed refund : Key)
    (signers : List Key) : Except ProgramError PreparedInstruction := do
  let acting ← ofRecord ((Recipe.authority wallet actingSeed).address deployment)
  let target ← ofRecord ((Recipe.authority wallet targetSeed).address deployment)
  pure ⟨payer, .removeAuthority [],
    [⟨payer, true, true⟩, ⟨wallet, false, true⟩, ⟨acting, false, false⟩, ⟨target, false, true⟩,
      ⟨refund, false, true⟩] ++ signerRefs signers⟩

def transferOwnership (deployment : Deployment) (payer wallet ownerSeed : Key)
    (newOwner : AuthorityPayload) (signers : List Key) :
    Except ProgramError PreparedInstruction := do
  let current ← ofRecord ((Recipe.authority wallet ownerSeed).address deployment)
  let next ← ofRecord ((Recipe.authority wallet newOwner.seed).address deployment)
  pure ⟨payer, .transferOwnership newOwner [],
    [⟨payer, true, true⟩, ⟨wallet, false, true⟩, ⟨current, false, true⟩, ⟨next, false, true⟩,
      ⟨systemProgram, false, false⟩] ++ signerRefs signers⟩

def createSession (deployment : Deployment) (payer wallet actingSeed sessionKey : Key)
    (expiresAt : UInt64) (signers : List Key) : Except ProgramError PreparedInstruction := do
  let acting ← ofRecord ((Recipe.authority wallet actingSeed).address deployment)
  let session ← ofRecord ((Recipe.session wallet sessionKey).address deployment)
  pure ⟨payer, .createSession sessionKey expiresAt [],
    [⟨payer, true, true⟩, ⟨wallet, false, false⟩, ⟨acting, false, false⟩, ⟨session, false, true⟩,
      ⟨systemProgram, false, false⟩] ++ signerRefs signers⟩

/-- Packs calls behind payer, wallet, caller and vault. The caller is the account of an authority or
of a session. -/
def execute (deployment : Deployment) (payer wallet caller : Key) (calls : List Call)
    (signers : List Key) : Except ProgramError PreparedInstruction := do
  let vault ← ofRecord ((Recipe.vault wallet).address deployment)
  let packed ← Batch.pack calls [payer, wallet, caller, vault]
  let (packedCalls, _) ← Batch.read packed.bytes
  pure ⟨payer, .execute packedCalls [],
    [⟨payer, true, true⟩, ⟨wallet, false, true⟩, ⟨caller, false, true⟩, ⟨vault, false, true⟩] ++
      packed.remaining ++ signerRefs signers⟩

end PreparedInstruction

end SmartWallet
