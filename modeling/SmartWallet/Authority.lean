import SmartWallet.Bytes
import SmartWallet.Error

/-!
# Authorities

An authority is one key, or a key with a session key beside it, that may act for a wallet in some
role. Its record is a header of 40 bytes followed by the key material:

```text
id kind role 0 counter[4] seed[32] credential
```
-/

namespace SmartWallet

/-- What kind of key material an authority holds. -/
inductive AuthorityKind
  | ed25519
  | secp256r1
  | ed25519Session
  | secp256r1Session
deriving DecidableEq

namespace AuthorityKind

def tag : AuthorityKind → UInt8
  | ed25519 => 0
  | secp256r1 => 1
  | ed25519Session => 2
  | secp256r1Session => 3

def ofTag (b : UInt8) : Except RecordError AuthorityKind :=
  if b = 0 then .ok ed25519
  else if b = 1 then .ok secp256r1
  else if b = 2 then .ok ed25519Session
  else if b = 3 then .ok secp256r1Session
  else .error .invalidAuthorityData

/-- The exact length of the stored key material. -/
def dataLength : AuthorityKind → Nat
  | ed25519 => 32
  | secp256r1 => 33
  | ed25519Session => 72
  | secp256r1Session => 73

def hasSession : AuthorityKind → Bool
  | ed25519Session | secp256r1Session => true
  | _ => false

def usesSecp256r1 : AuthorityKind → Bool
  | secp256r1 | secp256r1Session => true
  | _ => false

end AuthorityKind

instance : Named AuthorityKind where
  all := [.ed25519, .secp256r1, .ed25519Session, .secp256r1Session]
  name
    | .ed25519 => "Ed25519"
    | .secp256r1 => "Secp256r1"
    | .ed25519Session => "Ed25519Session"
    | .secp256r1Session => "Secp256r1Session"
  mem_all a := by cases a <;> decide

/-- What an authority may do: an owner everything, an admin all but moving the ownership and
managing admins, a spender only executing calls. -/
inductive Role
  | owner
  | admin
  | spender
deriving DecidableEq

namespace Role

def tag : Role → UInt8
  | owner => 0
  | admin => 1
  | spender => 2

def ofTag (b : UInt8) : Except RecordError Role :=
  if b = 0 then .ok owner
  else if b = 1 then .ok admin
  else if b = 2 then .ok spender
  else .error .invalidRoleData

/-- Whether the role manages authorities and sessions. -/
def manages : Role → Bool
  | owner | admin => true
  | spender => false

end Role

instance : Named Role where
  all := [.owner, .admin, .spender]
  name
    | .owner => "Owner"
    | .admin => "Admin"
    | .spender => "Spender"
  mem_all a := by cases a <;> decide

/-- Key material. A session key may stand in for the master key until its expiry slot. -/
inductive Credential
  | ed25519 (key : Key)
  | secp256r1 (key : CompressedKey)
  | ed25519Session (master sessionKey : Key) (expiresAt : UInt64)
  | secp256r1Session (master : CompressedKey) (sessionKey : Key) (expiresAt : UInt64)
deriving DecidableEq

namespace Credential

def kind : Credential → AuthorityKind
  | ed25519 .. => .ed25519
  | secp256r1 .. => .secp256r1
  | ed25519Session .. => .ed25519Session
  | secp256r1Session .. => .secp256r1Session

def encode : Credential → List UInt8
  | ed25519 key => key.toList
  | secp256r1 key => key.toList
  | ed25519Session master sessionKey expiresAt =>
    master.toList ++ sessionKey.toList ++ bytesOfUInt64 expiresAt
  | secp256r1Session master sessionKey expiresAt =>
    master.toList ++ sessionKey.toList ++ bytesOfUInt64 expiresAt

/-- The Ed25519 key with full control. -/
def ed25519Master? : Credential → Option Key
  | ed25519 key => some key
  | ed25519Session master _ _ => some master
  | _ => none

/-- The P-256 key with full control. -/
def secp256r1Master? : Credential → Option CompressedKey
  | secp256r1 key => some key
  | secp256r1Session master _ _ => some master
  | _ => none

/-- The session key and the slot at which it expires. -/
def session? : Credential → Option (Key × UInt64)
  | ed25519Session _ sessionKey expiresAt => some (sessionKey, expiresAt)
  | secp256r1Session _ sessionKey expiresAt => some (sessionKey, expiresAt)
  | _ => none

/-- A compressed point starts with `2` or `3`. -/
def isCompressed (key : CompressedKey) : Bool :=
  key.toList.head? == some 2 || key.toList.head? == some 3

/-- The P-256 key, if there is one, is in compressed form. -/
def isWellFormed (c : Credential) : Bool := c.secp256r1Master?.all isCompressed

/-- Splits key material of the given kind off the front, without looking at what it holds. -/
def split? (kind : AuthorityKind) (bs : List UInt8) : Option (Credential × List UInt8) :=
  match kind with
  | .ed25519 => do
    let (key, rest) ← Bytes.split? 32 bs
    pure (ed25519 key, rest)
  | .secp256r1 => do
    let (key, rest) ← Bytes.split? 33 bs
    pure (secp256r1 key, rest)
  | .ed25519Session => do
    let (master, rest) ← Bytes.split? 32 bs
    let (sessionKey, rest) ← Bytes.split? 32 rest
    let (expiry, rest) ← Bytes.split? 8 rest
    pure (ed25519Session master sessionKey expiry.toUInt64, rest)
  | .secp256r1Session => do
    let (master, rest) ← Bytes.split? 33 bs
    let (sessionKey, rest) ← Bytes.split? 32 rest
    let (expiry, rest) ← Bytes.split? 8 rest
    pure (secp256r1Session master sessionKey expiry.toUInt64, rest)

/-- Reads key material that fills the bytes exactly. -/
def decode (kind : AuthorityKind) (bs : List UInt8) : Except RecordError Credential :=
  match split? kind bs with
  | some (c, []) => if c.isWellFormed then .ok c else .error .invalidAuthorityData
  | _ => .error .invalidAuthorityData

/-- Whether the credential may stand under the seed: that of an Ed25519 authority is its key. -/
def matchesSeed (c : Credential) (seed : Key) : Bool := c.ed25519Master?.all (· == seed)

end Credential

/-- One registered authority. The counter is that of the last signed message it accepted. -/
structure Authority where
  id : UInt8
  role : Role
  seed : Key
  counter : UInt32
  credential : Credential
deriving DecidableEq

namespace Authority

def headerLength : Nat := 40

/-- A new authority, with its counter at zero. -/
def new (id : UInt8) (role : Role) (seed : Key) (credential : Credential) :
    Except RecordError Authority :=
  if credential.matchesSeed seed then .ok ⟨id, role, seed, 0, credential⟩
  else .error .invalidAuthorityData

def kind (a : Authority) : AuthorityKind := a.credential.kind

/-- The length of the record. -/
def size (a : Authority) : Nat := headerLength + a.kind.dataLength

def encode (a : Authority) : List UInt8 :=
  [a.id, a.kind.tag, a.role.tag, 0] ++ bytesOfUInt32 a.counter ++ a.seed.toList ++
    a.credential.encode

/-- Reads one record and returns what follows it. The reserved byte may be anything, and every
fault is reported alike. -/
def read (bs : List UInt8) : Except RecordError (Authority × List UInt8) :=
  let fault := RecordError.invalidAccountData
  match bs with
  | id :: kindTag :: roleTag :: _ :: rest => do
    let (counter, rest) ← orError fault (Bytes.split? 4 rest)
    let (seed, rest) ← orError fault (Bytes.split? 32 rest)
    let kind ← (AuthorityKind.ofTag kindTag).mapError fun _ => fault
    let role ← (Role.ofTag roleTag).mapError fun _ => fault
    let (credential, rest) ← orError fault (Credential.split? kind rest)
    ensure (credential.isWellFormed && credential.matchesSeed seed) fault
    pure (⟨id, role, seed, counter.toUInt32, credential⟩, rest)
  | _ => .error fault

end Authority

end SmartWallet
