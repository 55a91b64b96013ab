import SmartWallet.Record

/-!
# Wallets

A wallet record is a header of 40 bytes and the records of its authorities:

```text
1 1 bump vault-bump count 0[3] wallet-id[32] authority*
```

The rule layer (`new`, `insert`, `remove`, `replaceOwner`, `setCounter`) keeps the authorities
ascending by id, their seeds apart, and exactly one of them the owner.
-/

namespace SmartWallet

structure Wallet where
  bump : UInt8
  vaultBump : UInt8
  walletId : Key
  authorities : List Authority
deriving DecidableEq

namespace Wallet

def headerLength : Nat := 40

/-- A wallet whose only authority is its owner, under id 0. -/
def new (walletId : Key) (bump vaultBump : UInt8) (seed : Key) (credential : Credential) :
    Except RecordError Wallet := do
  let owner ← Authority.new 0 .owner seed credential
  pure ⟨bump, vaultBump, walletId, [owner]⟩

def authority? (w : Wallet) (id : UInt8) : Option Authority :=
  w.authorities.find? fun a => a.id == id

def authorityBySeed? (w : Wallet) (seed : Key) : Option Authority :=
  w.authorities.find? fun a => a.seed == seed

def owner? (w : Wallet) : Option Authority :=
  w.authorities.find? fun a => a.role == .owner

/-- The first number from `candidate` on at which the ascending ids leave a gap. -/
def firstGap : Nat → List Authority → Nat
  | candidate, [] => candidate
  | candidate, a :: rest =>
    if a.id.toNat = candidate then firstGap (candidate + 1) rest else candidate

/-- The smallest id not in use, unless all 256 are. -/
def nextFreeId? (w : Wallet) : Option UInt8 :=
  let gap := firstGap 0 w.authorities
  if gap < 256 then some (UInt8.ofNat gap) else none

/-- Puts an authority in front of the first one with a larger id. -/
def insertById (a : Authority) : List Authority → List Authority
  | [] => [a]
  | b :: rest => if b.id > a.id then a :: b :: rest else b :: insertById a rest

/-- Registers an authority under the smallest free id and returns that id. -/
def insert (w : Wallet) (role : Role) (seed : Key) (credential : Credential) :
    Except RecordError (Wallet × UInt8) := do
  ensure (role ≠ .owner) .ownerAlreadyExists
  ensure ((w.authorityBySeed? seed).isNone) .duplicateAuthority
  let id ← orError .authorityLimitReached w.nextFreeId?
  let a ← Authority.new id role seed credential
  pure ({ w with authorities := insertById a w.authorities }, id)

/-- Removes an authority that is not the owner, which frees its id, and returns it. -/
def remove (w : Wallet) (id : UInt8) : Except RecordError (Wallet × Authority) := do
  let a ← orError .authorityNotFound (w.authority? id)
  ensure (a.role ≠ .owner) .cannotRemoveOwner
  pure ({ w with authorities := w.authorities.eraseP fun b => b.id == id }, a)

/-- Applies a change to the first authority that meets a condition. -/
def updateFirst (p : Authority → Bool) (f : Authority → Authority) : List Authority → List Authority
  | [] => []
  | a :: rest => if p a then f a :: rest else a :: updateFirst p f rest

/-- Gives the owner's entry new key material; its id stays, its counter restarts, and the old entry
is returned. -/
def replaceOwner (w : Wallet) (seed : Key) (credential : Credential) :
    Except RecordError (Wallet × Authority) := do
  let owner ← orError .invalidAccountData w.owner?
  ensure ((w.authorityBySeed? seed).all fun a => a.id == owner.id) .duplicateAuthority
  let a ← Authority.new owner.id .owner seed credential
  pure ({ w with authorities := updateFirst (·.role == .owner) (fun _ => a) w.authorities }, owner)

/-- Stores the counter of an authority. -/
def setCounter (w : Wallet) (id : UInt8) (counter : UInt32) : Except RecordError Wallet := do
  ensure ((w.authority? id).isSome) .authorityNotFound
  pure { w with
    authorities := updateFirst (·.id == id) (fun a => { a with counter := counter }) w.authorities }

/-- The length of the record. -/
def size (w : Wallet) : Nat := headerLength + w.authorities.foldr (·.size + ·) 0

/-- The record. The count is one byte, so that a full wallet of 256 authorities counts zero. -/
def encode (w : Wallet) : List UInt8 :=
  [RecordKind.wallet.tag, recordVersion, w.bump, w.vaultBump, UInt8.ofNat w.authorities.length,
    0, 0, 0] ++ w.walletId.toList ++ w.authorities.flatMap Authority.encode

/-- Reads authority records to the end of the bytes. Each id must be above the one before, which is
given for the first. The first argument bounds the number of records. -/
def readAuthorities : Nat → Option UInt8 → List UInt8 → Except RecordError (List Authority)
  | _, _, [] => .ok []
  | 0, _, _ => .error .invalidAccountData
  | fuel + 1, last?, bs => do
    let (a, rest) ← Authority.read bs
    ensure (last?.all (· < a.id)) .invalidAccountData
    let more ← readAuthorities fuel (some a.id) rest
    pure (a :: more)

/-- Reads a wallet record; the three padding bytes may be anything. -/
def decode : List UInt8 → Except RecordError Wallet
  | tag :: version :: bump :: vaultBump :: count :: _ :: _ :: _ :: rest => do
    ensure (tag = RecordKind.wallet.tag ∧ version = recordVersion) .invalidAccountData
    let (walletId, rest) ← orError .invalidAccountData (Bytes.split? 32 rest)
    let authorities ← readAuthorities rest.length none rest
    ensure (UInt8.ofNat authorities.length = count) .invalidAccountData
    ensure (authorities.countP (·.role == .owner) = 1) .invalidAccountData
    pure ⟨bump, vaultBump, walletId, authorities⟩
  | _ => .error .invalidAccountData

end Wallet

end SmartWallet
