import SmartWallet.Client.Draft
import SmartWallet.Client.PolicyChoice
import SmartWallet.Client.WalletHandle

/-!
# Drafts of executions

Calls for the vault to sign, with the authority or the session that calls them and the policy that
clears them.
-/

namespace SmartWallet

/-- Who calls an execution. -/
inductive CallerSource
  /-- The authority under a seed. -/
  | authority (seed : Key)
  /-- The session of a session key. -/
  | session (sessionKey : Key)
deriving DecidableEq

structure ExecutionDraft where
  wallet : WalletHandle
  calls : List Call
  caller : Option CallerSource
  signers : List Key
  proof : List UInt8
  policy : Option PolicyChoice
deriving DecidableEq

namespace ExecutionDraft

def new (wallet : WalletHandle) : ExecutionDraft := ⟨wallet, [], none, [], [], none⟩

def withCall (d : ExecutionDraft) (call : Call) : ExecutionDraft :=
  { d with calls := d.calls ++ [call] }

def withSigner (d : ExecutionDraft) (key : Key) : ExecutionDraft :=
  { d with signers := d.signers ++ [key] }

/-- An Ed25519 authority, which signs the transaction. -/
def withAuthority (d : ExecutionDraft) (key : Key) : ExecutionDraft :=
  { d.withSigner key with caller := some (.authority key) }

/-- A session, whose key signs the transaction. -/
def withSession (d : ExecutionDraft) (sessionKey : Key) : ExecutionDraft :=
  { d.withSigner sessionKey with caller := some (.session sessionKey) }

/-- The account of the caller. -/
def callerAddress (d : ExecutionDraft) : Except ClientError Key := do
  let caller ← required .caller d.caller
  match caller with
  | .authority seed => d.wallet.authorityAddress seed
  | .session sessionKey => d.wallet.sessionAddress sessionKey

def prepare (d : ExecutionDraft) (payer : Key) : Except ClientError PreparedInstruction := do
  let caller ← d.callerAddress
  let prepared ← ClientError.ofProgram
    (PreparedInstruction.execute d.wallet.deployment payer d.wallet.address caller d.calls
      d.signers)
  pure (prepared.withGivenProof d.proof)

/-- The policy's call, if one is asked for, then that of the prepared execution. -/
def outerCalls (d : ExecutionDraft) (prepared : PreparedInstruction) :
    Except ClientError (List Call) := do
  let policy ←
    match d.policy with
    | none => pure []
    | some choice => do
      let call ← choice.executionCall d.wallet.deployment d.wallet.address
      pure [call]
  let execute ← ClientError.ofProgram (prepared.toCall d.wallet.deployment)
  pure (policy ++ [execute])

def transaction (d : ExecutionDraft) (c : Connection) (payer : Key) :
    Except ClientError Transaction := do
  let prepared ← d.prepare payer
  let calls ← d.outerCalls prepared
  Transaction.assemble c payer calls

end ExecutionDraft

end SmartWallet
