import SmartWallet.Instruction
import SmartWallet.Ledger
import SmartWallet.Program.Context

/-!
# Managing a wallet

The instructions that create a wallet, change its authorities, move its ownership and open sessions.
Each reads the accounts at fixed positions, after payer, wallet and acting authority, and returns
the writes to commit.
-/

namespace SmartWallet.Context

/-- Creates a wallet with its owner. Accounts: payer, wallet, vault, owner's marker, system
program. -/
def createWallet (c : Context) (walletId : Key) (ownerBump : UInt8) (owner : AuthorityPayload) :
    Except ProgramError Delta := do
  c.requireAccounts 5
  let _ ← c.payer
  c.checkSystemProgram 4
  let walletRef ← c.account 1
  let wallet ← c.derive (.wallet walletId.toList)
  ensure (walletRef.key = wallet.key) .addressMismatch
  ensure (c.isVacant wallet.key) .alreadyInitialized
  let vault ← c.derive (.vault wallet.key)
  let vaultRef ← c.account 2
  ensure (vaultRef.key = vault.key) .addressMismatch
  let marker ← c.derive (.authority wallet.key owner.seed)
  let markerRef ← c.account 3
  ensure (markerRef.key = marker.key) .addressMismatch
  ensure (marker.bump = ownerBump) .addressMismatch
  ensure (c.isVacant marker.key) .alreadyInitialized
  let record ← ofRecord (Wallet.new walletId wallet.bump vault.bump owner.seed owner.credential)
  pure [
    .store wallet.key record.encode,
    .store marker.key (AuthorityMarker.encode ⟨marker.bump, 0, wallet.key, owner.seed⟩)]

/-- Whether a role may add an authority of another role. An owner is never added. -/
def mayAdd : Role → Role → Bool
  | .owner, .admin | .owner, .spender | .admin, .spender => true
  | _, _ => false

/-- Registers an authority. Accounts: payer, wallet, acting authority, new marker, system
program. -/
def addAuthority (c : Context) (role : Role) (authority : AuthorityPayload) (auth : Authorization) :
    Except ProgramError Delta := do
  c.requireAccounts 5
  let _ ← c.payer
  c.checkSystemProgram 4
  let walletRef ← c.account 1
  let wallet ← c.loadWallet walletRef.key
  let actingRef ← c.account 2
  let acting ← c.resolveAuthority walletRef.key wallet actingRef.key
  let outcome ← c.authenticate acting auth false
  ensure (mayAdd acting.role role) .unauthorized
  let marker ← c.derive (.authority walletRef.key authority.seed)
  let markerRef ← c.account 3
  ensure (markerRef.key = marker.key) .addressMismatch
  ensure (c.isVacant marker.key) .alreadyInitialized
  let wallet ← ofRecord (wallet.recordCounter acting.id outcome)
  let (wallet, id) ← ofRecord (wallet.insert role authority.seed authority.credential)
  pure [
    .store walletRef.key wallet.encode,
    .store marker.key (AuthorityMarker.encode ⟨marker.bump, id, walletRef.key, authority.seed⟩)]

/-- Whether a role may remove an authority of another role, which is not the owner's. -/
def mayRemove : Role → Role → Bool
  | .owner, _ => true
  | .admin, .spender => true
  | _, _ => false

/-- Removes an authority and closes its marker. Accounts: payer, wallet, acting authority, target
marker, refund. A signature covers the target and the refund in place of a body. -/
def removeAuthority (c : Context) (auth : Authorization) : Except ProgramError Delta := do
  c.requireAccounts 5
  let _ ← c.payer
  let walletRef ← c.account 1
  let targetRef ← c.account 3
  let refundRef ← c.account 4
  ensure refundRef.writable .unauthorized
  let wallet ← c.loadWallet walletRef.key
  let actingRef ← c.account 2
  let acting ← c.resolveAuthority walletRef.key wallet actingRef.key
  let body := targetRef.key.toList ++ refundRef.key.toList
  let outcome ← c.authenticate acting { auth with body := body } false
  let target ← c.resolveAuthority walletRef.key wallet targetRef.key
  ensure (target.role ≠ .owner) .cannotRemoveOwner
  ensure (mayRemove acting.role target.role) .unauthorized
  let wallet ← ofRecord (wallet.recordCounter acting.id outcome)
  let (wallet, _) ← ofRecord (wallet.remove target.id)
  pure [.store walletRef.key wallet.encode, .close targetRef.key refundRef.key]

/-- Gives the owner's entry to a new key. Accounts: payer, wallet, current marker, new marker,
system program. When both markers are one account it is overwritten, else the current one is
closed in favour of the payer. -/
def transferOwnership (c : Context) (newOwner : AuthorityPayload) (auth : Authorization) :
    Except ProgramError Delta := do
  c.requireAccounts 5
  let payer ← c.payer
  c.checkSystemProgram 4
  let walletRef ← c.account 1
  let currentRef ← c.account 2
  let wallet ← c.loadWallet walletRef.key
  let current ← c.resolveAuthority walletRef.key wallet currentRef.key
  let outcome ← c.authenticate current auth false
  ensure (current.role = .owner) .unauthorized
  let marker ← c.derive (.authority walletRef.key newOwner.seed)
  let markerRef ← c.account 3
  ensure (markerRef.key = marker.key) .addressMismatch
  let wallet ← ofRecord (wallet.recordCounter current.id outcome)
  let (wallet, _) ← ofRecord (wallet.replaceOwner newOwner.seed newOwner.credential)
  ensure (marker.key = currentRef.key ∨ c.isVacant marker.key) .alreadyInitialized
  let closing := if marker.key = currentRef.key then [] else [.close currentRef.key payer.key]
  let record : AuthorityMarker := ⟨marker.bump, current.id, walletRef.key, newOwner.seed⟩
  pure (.store walletRef.key wallet.encode :: closing ++ [.store marker.key record.encode])

/-- Opens a session. Accounts: payer, wallet, authorizer, session, system program. -/
def createSession (c : Context) (sessionKey : Key) (expiresAt : UInt64) (auth : Authorization) :
    Except ProgramError Delta := do
  c.requireAccounts 5
  let _ ← c.payer
  c.checkSystemProgram 4
  let walletRef ← c.account 1
  let wallet ← c.loadWallet walletRef.key
  let authorizerRef ← c.account 2
  let authorizer ← c.resolveAuthority walletRef.key wallet authorizerRef.key
  let outcome ← c.authenticate authorizer auth false
  ensure authorizer.role.manages .unauthorized
  let session ← c.derive (.session walletRef.key sessionKey)
  let sessionRef ← c.account 3
  ensure (sessionRef.key = session.key) .addressMismatch
  ensure (c.data? session.key = none) .sessionAlreadyExists
  ensure (c.slot < expiresAt) .invalidExpiry
  ensure (expiresAt - c.slot ≤ c.deployment.maxSessionSlots) .invalidExpiry
  let counted ← ofRecord (wallet.recordCounter authorizer.id outcome)
  let walletWrites :=
    if outcome.newCounter.isSome then [.store walletRef.key counted.encode] else []
  let record : SessionRecord :=
    ⟨session.bump, authorizer.id, walletRef.key, sessionKey, authorizer.seed, expiresAt⟩
  pure (walletWrites ++ [.store session.key record.encode])

end SmartWallet.Context
