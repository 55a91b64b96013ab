import SmartWallet.Authority

/-!
# Records

Every record starts with a byte for its kind and a byte for its layout version. This module holds
the two records of fixed length: the marker at an authority's address, which points back into the
wallet's registry, and the session record.

```text
2 1 bump authority-id 0[4] wallet[32] seed[32]
3 1 bump authorizer-id 0[4] wallet[32] session-key[32] authorizer-seed[32] expiry[8]
```
-/

namespace SmartWallet

/-- The kinds of record that a first byte can announce. -/
inductive RecordKind
  | wallet
  | authority
  | session
deriving DecidableEq

namespace RecordKind

def tag : RecordKind → UInt8
  | wallet => 1
  | authority => 2
  | session => 3

def ofTag (b : UInt8) : Except RecordError RecordKind :=
  if b = 1 then .ok wallet
  else if b = 2 then .ok authority
  else if b = 3 then .ok session
  else .error .invalidAccountData

end RecordKind

instance : Named RecordKind where
  all := [.wallet, .authority, .session]
  name
    | .wallet => "Wallet"
    | .authority => "Authority"
    | .session => "Session"
  mem_all a := by cases a <;> decide

/-- The layout version of every record. -/
def recordVersion : UInt8 := 1

/-- The record at an authority's address. -/
structure AuthorityMarker where
  bump : UInt8
  authorityId : UInt8
  wallet : Key
  seed : Key
deriving DecidableEq

namespace AuthorityMarker

def encode (m : AuthorityMarker) : List UInt8 :=
  [RecordKind.authority.tag, recordVersion, m.bump, m.authorityId, 0, 0, 0, 0] ++
    m.wallet.toList ++ m.seed.toList

/-- Reads a marker; the four padding bytes may be anything. -/
def decode? : List UInt8 → Option AuthorityMarker
  | tag :: version :: bump :: authorityId :: _ :: _ :: _ :: _ :: rest => do
    guard (tag = RecordKind.authority.tag ∧ version = recordVersion)
    let (wallet, rest) ← Bytes.split? 32 rest
    let seed ← Bytes.ofList? 32 rest
    pure ⟨bump, authorityId, wallet, seed⟩
  | _ => none

def decode (bs : List UInt8) : Except RecordError AuthorityMarker :=
  orError .invalidAccountData (decode? bs)

end AuthorityMarker

/-- A session key that may execute calls until its expiry, as long as the authority that opened it
is registered. -/
structure SessionRecord where
  bump : UInt8
  authorizerId : UInt8
  wallet : Key
  sessionKey : Key
  authorizerSeed : Key
  expiresAt : UInt64
deriving DecidableEq

namespace SessionRecord

/-- A session is live strictly before its expiry slot. -/
def isLive (s : SessionRecord) (slot : UInt64) : Bool := slot < s.expiresAt

def encode (s : SessionRecord) : List UInt8 :=
  [RecordKind.session.tag, recordVersion, s.bump, s.authorizerId, 0, 0, 0, 0] ++
    s.wallet.toList ++ s.sessionKey.toList ++ s.authorizerSeed.toList ++
    bytesOfUInt64 s.expiresAt

/-- Reads a session record; the four padding bytes may be anything. -/
def decode? : List UInt8 → Option SessionRecord
  | tag :: version :: bump :: authorizerId :: _ :: _ :: _ :: _ :: rest => do
    guard (tag = RecordKind.session.tag ∧ version = recordVersion)
    let (wallet, rest) ← Bytes.split? 32 rest
    let (sessionKey, rest) ← Bytes.split? 32 rest
    let (authorizerSeed, rest) ← Bytes.split? 32 rest
    let expiry ← Bytes.ofList? 8 rest
    pure ⟨bump, authorizerId, wallet, sessionKey, authorizerSeed, expiry.toUInt64⟩
  | _ => none

def decode (bs : List UInt8) : Except RecordError SessionRecord :=
  orError .invalidAccountData (decode? bs)

end SessionRecord

end SmartWallet
