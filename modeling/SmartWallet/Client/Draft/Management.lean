import SmartWallet.Client.Draft
import SmartWallet.Client.PolicyChoice
import SmartWallet.Client.WalletHandle

/-!
# Drafts of management instructions

Creating a wallet, adding and removing authorities, moving the ownership and opening a session.
-/

namespace SmartWallet

structure WalletDraft where
  deployment : Deployment
  payer : Option Key
  walletId : Option Key
  owner : Option AuthorityPayload
  /-- The authority that the default policy is bound to. -/
  policyAuthority : Option Key
  /-- A policy call of the caller's own, which is preferred. -/
  policyCall : Option Call
deriving DecidableEq

namespace WalletDraft

def new (deployment : Deployment) : WalletDraft := ⟨deployment, none, none, none, none, none⟩

/-- The handle of the wallet to be created. -/
def handle (d : WalletDraft) : Except ClientError WalletHandle := do
  let walletId ← required .walletId d.walletId
  WalletHandle.new d.deployment walletId

def policy? (d : WalletDraft) : Option PolicyChoice :=
  match d.policyCall, d.policyAuthority with
  | some call, _ => some (.provided call)
  | none, some authority => some (.standard authority [])
  | none, none => none

/-- The call that creates the wallet, then that of its policy, if one is asked for. -/
def calls (d : WalletDraft) : Except ClientError (List Call) := do
  let payer ← required .payer d.payer
  let walletId ← required .walletId d.walletId
  let owner ← required .owner d.owner
  let prepared ← ClientError.ofProgram
    (PreparedInstruction.createWallet d.deployment payer walletId owner)
  let create ← ClientError.ofProgram (prepared.toCall d.deployment)
  match d.policy? with
  | none => pure [create]
  | some choice => do
    let handle ← d.handle
    let policy ← choice.creationCall d.deployment payer handle.address
    pure [create, policy]

def transaction (d : WalletDraft) (c : Connection) : Except ClientError Transaction := do
  let payer ← required .payer d.payer
  let calls ← d.calls
  Transaction.assemble c payer calls

end WalletDraft

structure AdditionDraft where
  wallet : WalletHandle
  acting : Acting
  authority : Option AuthorityPayload
  role : Role
deriving DecidableEq

namespace AdditionDraft

/-- A new authority is a spender unless another role is given. -/
def new (wallet : WalletHandle) : AdditionDraft := ⟨wallet, .empty, none, .spender⟩

def prepare (d : AdditionDraft) (payer : Key) : Except ClientError PreparedInstruction := do
  let authority ← required .newAuthority d.authority
  let seed ← required .actingAuthority d.acting.seed
  let prepared ← ClientError.ofProgram
    (PreparedInstruction.addAuthority d.wallet.deployment payer d.wallet.address seed d.role
      authority d.acting.signers)
  pure (prepared.withGivenProof d.acting.proof)

end AdditionDraft

structure RemovalDraft where
  wallet : WalletHandle
  acting : Acting
  targetSeed : Option Key
  refund : Option Key
deriving DecidableEq

namespace RemovalDraft

def new (wallet : WalletHandle) : RemovalDraft := ⟨wallet, .empty, none, none⟩

/-- The refund goes to the payer unless another account is given. -/
def prepare (d : RemovalDraft) (payer : Key) : Except ClientError PreparedInstruction := do
  let target ← required .targetAuthority d.targetSeed
  let seed ← required .actingAuthority d.acting.seed
  let prepared ← ClientError.ofProgram
    (PreparedInstruction.removeAuthority d.wallet.deployment payer d.wallet.address seed target
      (d.refund.getD payer) d.acting.signers)
  pure (prepared.withGivenProof d.acting.proof)

end RemovalDraft

structure TransferDraft where
  wallet : WalletHandle
  acting : Acting
  newOwner : Option AuthorityPayload
deriving DecidableEq

namespace TransferDraft

def new (wallet : WalletHandle) : TransferDraft := ⟨wallet, .empty, none⟩

def prepare (d : TransferDraft) (payer : Key) : Except ClientError PreparedInstruction := do
  let newOwner ← required .newOwner d.newOwner
  let seed ← required .actingAuthority d.acting.seed
  let prepared ← ClientError.ofProgram
    (PreparedInstruction.transferOwnership d.wallet.deployment payer d.wallet.address seed newOwner
      d.acting.signers)
  pure (prepared.withGivenProof d.acting.proof)

end TransferDraft

/-- When a session is to expire. -/
inductive Expiry
  | atSlot (slot : UInt64)
  /-- A number of slots after the current one. -/
  | after (slots : UInt64)
deriving DecidableEq

/-- The expiry slot. A lifetime beyond the last slot ends at the last slot. -/
def Expiry.slot (expiry : Expiry) (c : Connection) : Except ClientError UInt64 :=
  match expiry with
  | atSlot slot => .ok slot
  | after slots => do
    let now ← Connection.answer c.slot
    pure (if now.toNat + slots.toNat < UInt64.size then now + slots else 0xffffffffffffffff)

structure SessionDraft where
  wallet : WalletHandle
  acting : Acting
  sessionKey : Option Key
  expiry : Option Expiry
deriving DecidableEq

namespace SessionDraft

def new (wallet : WalletHandle) : SessionDraft := ⟨wallet, .empty, none, none⟩

def prepare (d : SessionDraft) (c : Connection) (payer : Key) :
    Except ClientError PreparedInstruction := do
  let sessionKey ← required .sessionKey d.sessionKey
  let seed ← required .actingAuthority d.acting.seed
  let expiry ← required .expiry d.expiry
  let expiresAt ← expiry.slot c
  let prepared ← ClientError.ofProgram
    (PreparedInstruction.createSession d.wallet.deployment payer d.wallet.address seed sessionKey
      expiresAt d.acting.signers)
  pure (prepared.withGivenProof d.acting.proof)

end SessionDraft

end SmartWallet
