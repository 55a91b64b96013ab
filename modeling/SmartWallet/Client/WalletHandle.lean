import SmartWallet.Address
import SmartWallet.Client.Connection
import SmartWallet.Wallet

/-!
# Wallet handles

What a client holds of a wallet, the addresses that follow from it, and what it can read through a
connection.
-/

namespace SmartWallet

structure WalletHandle where
  deployment : Deployment
  walletId : Key
  address : Key
  vault : Key
deriving DecidableEq

namespace WalletHandle

/-- The handle of a wallet id. Nothing is read. -/
def new (deployment : Deployment) (walletId : Key) : Except ClientError WalletHandle := do
  let address ← ClientError.ofRecord ((Recipe.wallet walletId.toList).address deployment)
  let vault ← ClientError.ofRecord ((Recipe.vault address).address deployment)
  pure ⟨deployment, walletId, address, vault⟩

def authorityAddress (h : WalletHandle) (seed : Key) : Except ClientError Key :=
  ClientError.ofRecord ((Recipe.authority h.address seed).address h.deployment)

def sessionAddress (h : WalletHandle) (sessionKey : Key) : Except ClientError Key :=
  ClientError.ofRecord ((Recipe.session h.address sessionKey).address h.deployment)

def policyAddress (h : WalletHandle) : Except ClientError Key :=
  ClientError.ofRecord ((Recipe.policy h.address).address h.deployment)

end WalletHandle

/-- Reads a wallet record that a cluster returned. -/
def Wallet.ofAccountData (data : List UInt8) : Except ClientError Wallet :=
  (Wallet.decode data).mapError (.unreadableRecord .wallet)

/-- Reads a session record that a cluster returned. -/
def SessionRecord.ofAccountData (data : List UInt8) : Except ClientError SessionRecord :=
  (SessionRecord.decode data).mapError (.unreadableRecord .session)

namespace Connection

/-- The wallet record at an address. -/
def wallet (c : Connection) (deployment : Deployment) (address : Key) :
    Except ClientError Wallet := do
  let data ← c.programData deployment.program address
  Wallet.ofAccountData data

/-- The session record at an address. -/
def session (c : Connection) (deployment : Deployment) (address : Key) :
    Except ClientError SessionRecord := do
  let data ← c.programData deployment.program address
  SessionRecord.ofAccountData data

end Connection

namespace WalletHandle

/-- The handle of the wallet at an address, whose record must lie where its id leads. -/
def fetch (c : Connection) (deployment : Deployment) (address : Key) :
    Except ClientError WalletHandle := do
  let wallet ← c.wallet deployment address
  let handle ← new deployment wallet.walletId
  ensure (handle.address = address) (ClientError.misplacedWallet address)
  pure handle

/-- The wallet's record. -/
def fetchWallet (h : WalletHandle) (c : Connection) : Except ClientError Wallet :=
  c.wallet h.deployment h.address

/-- The authority under an id. -/
def fetchAuthority (h : WalletHandle) (c : Connection) (id : UInt8) :
    Except ClientError Authority := do
  let wallet ← h.fetchWallet c
  orError (.authorityNotFound id) (wallet.authority? id)

/-- The address and the record of a session. -/
def fetchSession (h : WalletHandle) (c : Connection) (sessionKey : Key) :
    Except ClientError (Key × SessionRecord) := do
  let address ← h.sessionAddress sessionKey
  let session ← c.session h.deployment address
  pure (address, session)

end WalletHandle

/-- Whether an authority's session key may still be used. -/
def Authority.hasLiveSession (a : Authority) (slot : UInt64) : Bool :=
  a.credential.session?.any fun s => slot < s.2

end SmartWallet
