import SmartWallet.Address
import SmartWallet.Authentication
import SmartWallet.Wallet

/-!
# What an instruction sees

The steps that the instructions share: the payer signs, the wallet record lies at its own address,
the acting authority's marker leads to an entry of that wallet, and the entry authenticates.
-/

namespace SmartWallet

/-- The inputs of one instruction. -/
structure Context where
  deployment : Deployment
  /-- The data of the accounts that have some. -/
  data? : Key → Option (List UInt8)
  accounts : List AccountRef
  slot : UInt64
  verify : Verifier

/-- How an instruction is authorised: its discriminator, the bytes that a signature covers, and the
proof that was sent. -/
structure Authorization where
  discriminator : List UInt8
  body : List UInt8
  proof : List UInt8
deriving DecidableEq

/-- Stores the counter of a signed challenge, if there was one. -/
def Wallet.recordCounter (w : Wallet) (id : UInt8) (outcome : AuthOutcome) :
    Except RecordError Wallet :=
  match outcome.newCounter with
  | none => .ok w
  | some counter => w.setCounter id counter

namespace Context

def requireAccounts (c : Context) (count : Nat) : Except ProgramError Unit :=
  ensure (count ≤ c.accounts.length) .notEnoughAccounts

def account (c : Context) (index : Nat) : Except ProgramError AccountRef :=
  orError .notEnoughAccounts c.accounts[index]?

def derive (c : Context) (recipe : Recipe) : Except ProgramError DerivedAddress :=
  ofRecord (recipe.derive c.deployment)

/-- Whether nothing is stored at a key. -/
def isVacant (c : Context) (key : Key) : Bool := ((c.data? key).getD []).isEmpty

/-- The first account, which must sign. -/
def payer (c : Context) : Except ProgramError AccountRef := do
  let payer ← c.account 0
  ensure payer.signer .unauthorized
  pure payer

def checkSystemProgram (c : Context) (index : Nat) : Except ProgramError Unit := do
  let a ← c.account index
  ensure (a.key = systemProgram) .addressMismatch

/-- The wallet record of an account, which must lie at the address that its id derives. -/
def loadWallet (c : Context) (key : Key) : Except ProgramError Wallet := do
  let data ← orError .invalidAccountData (c.data? key)
  let wallet ← ofRecord (Wallet.decode data)
  let address ← c.derive (.wallet wallet.walletId.toList)
  ensure (key = address.key) .addressMismatch
  ensure (wallet.bump = address.bump) .addressMismatch
  pure wallet

/-- The entry of a wallet that the marker at a key points to. -/
def resolveAuthority (c : Context) (walletKey : Key) (wallet : Wallet) (key : Key) :
    Except ProgramError Authority := do
  let data ← orError .unauthorized (c.data? key)
  let marker ← orError .unauthorized (AuthorityMarker.decode? data)
  ensure (marker.wallet = walletKey) .unauthorized
  let address ← c.derive (.authority walletKey marker.seed)
  ensure (key = address.key) .addressMismatch
  orError .unauthorized ((wallet.authority? marker.authorityId).filter (·.seed == marker.seed))

/-- What an authority is asked to authorise in this context. -/
def request (c : Context) (payer : Key) (auth : Authorization) (allowSession : Bool) :
    AuthRequest :=
  ⟨c.accounts, auth.proof, auth.body, auth.discriminator, payer, c.slot, allowSession⟩

/-- Authenticates an entry of the wallet. -/
def authenticate (c : Context) (a : Authority) (auth : Authorization) (allowSession : Bool) :
    Except ProgramError AuthOutcome := do
  let payer ← c.account 0
  (c.request payer.key auth allowSession).authenticate c.verify a

end Context

end SmartWallet
