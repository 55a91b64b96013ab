import SmartWallet.Instruction
import SmartWallet.Ledger
import SmartWallet.Program.Context
import SmartWallet.Program.Dispatch

/-!
# Executing calls

A batch runs with the wallet's vault as a signer. The caller is an authority of the wallet or one of
its sessions; everything is authorised and resolved before the first call is handed over.
-/

namespace SmartWallet

/-- Who authorised an execution. -/
inductive Caller
  | authority (id : UInt8) (role : Role) (viaSession : Bool)
  | session (authorizerId : UInt8)
deriving DecidableEq

/-- Spenders and session keys must be cleared by the wallet's policy. -/
def Caller.policyRequired : Caller → Bool
  | .authority _ role viaSession => viaSession || role == .spender
  | .session _ => true

structure ExecutionPlan where
  caller : Caller
  policyRequired : Bool
  calls : List Call
deriving DecidableEq

/-- An execution that is authorised and resolved, ready to be handed over. -/
structure PreparedExecution where
  delta : Delta
  plan : ExecutionPlan
  /-- The seeds of the vault. -/
  seeds : List (List UInt8)
deriving DecidableEq

namespace PreparedExecution

/-- The calls as they are handed over. -/
def dispatches (p : PreparedExecution) : List Dispatch := p.plan.calls.map fun c => ⟨c, p.seeds⟩

end PreparedExecution

namespace Context

/-- The authorizer of a live session at a key, whose session key signs and whose opener is still
registered and manages the wallet. -/
def authorizeSession (c : Context) (walletKey : Key) (wallet : Wallet) (key : Key) :
    Except ProgramError Caller := do
  let data ← orError .unauthorized (c.data? key)
  let session ← orError .unauthorized (SessionRecord.decode? data)
  ensure (session.wallet = walletKey) .unauthorized
  let address ← c.derive (.session walletKey session.sessionKey)
  ensure (key = address.key) .addressMismatch
  ensure (session.isLive c.slot) .sessionExpired
  ensure ((wallet.authority? session.authorizerId).any
    fun a => a.seed == session.authorizerSeed && a.role.manages) .unauthorized
  ensure (AccountRef.signs c.accounts session.sessionKey) .unauthorized
  pure (.session session.authorizerId)

/-- The caller behind the account at a key, told by the kind of its record, with the wallet write
that a signed challenge brings. -/
def authorizeCaller (c : Context) (walletKey : Key) (wallet : Wallet) (key : Key)
    (auth : Authorization) : Except ProgramError (Caller × Delta) := do
  let tag? := (c.data? key).bind List.head?
  if tag? = some RecordKind.session.tag then
    let caller ← c.authorizeSession walletKey wallet key
    pure (caller, [])
  else if tag? = some RecordKind.authority.tag then
    let a ← c.resolveAuthority walletKey wallet key
    let outcome ← c.authenticate a auth true
    let counted ← ofRecord (wallet.recordCounter a.id outcome)
    let delta := if outcome.newCounter.isSome then [.store walletKey counted.encode] else []
    pure (.authority a.id a.role outcome.viaSession, delta)
  else
    .error .unauthorized

/-- An account of an inner call beside the outer account at its index. The vault always signs; any
other account may ask for no privilege that the outer one lacks. -/
def promote (vault : Key) (inner outer : AccountRef) : Except ProgramError AccountRef :=
  if inner.key = vault then .ok { inner with signer := true }
  else if (inner.signer && !outer.signer) || (inner.writable && !outer.writable) then
    .error .unauthorized
  else .ok inner

/-- Resolves a packed call against the outer accounts. The wallet program itself is not called. -/
def resolveInner (c : Context) (vault : Key) (packed : PackedCall) : Except ProgramError Call := do
  let call ← packed.resolve c.accounts
  ensure (call.program ≠ c.deployment.program) .selfReentrancy
  let accounts ← (call.accounts.zip packed.accounts).mapM fun (inner, index) => do
    let outer ← c.account index.toNat
    promote vault inner outer
  pure { call with accounts := accounts }

/-- Authorises and resolves a batch. Accounts: payer, wallet, caller, vault, and those that the
batch refers to. -/
def prepareExecution (c : Context) (calls : List PackedCall) (auth : Authorization) :
    Except ProgramError PreparedExecution := do
  c.requireAccounts 4
  let _ ← c.payer
  let walletRef ← c.account 1
  let callerRef ← c.account 2
  let vaultRef ← c.account 3
  let wallet ← c.loadWallet walletRef.key
  let vault ← c.derive (.vault walletRef.key)
  ensure (vaultRef.key = vault.key) .addressMismatch
  ensure (vault.bump = wallet.vaultBump) .addressMismatch
  let (caller, delta) ← c.authorizeCaller walletRef.key wallet callerRef.key auth
  let resolved ← calls.mapM (c.resolveInner vault.key)
  pure ⟨delta, ⟨caller, caller.policyRequired, resolved⟩,
    [Recipe.vaultTag, walletRef.key.toList, [vault.bump]]⟩

end Context

end SmartWallet
