import SmartWallet.Authority
import SmartWallet.Batch
import SmartWallet.Deployment
import SmartWallet.Sha256

/-!
# Instructions

An instruction is a discriminator, a body, and, except when a wallet is created, a proof in the
rest of the bytes: whatever the acting authority sends to show who it is. `Instruction.encode` and
`Instruction.decode` are the wire format; `Instruction.signedBody` is what a signature covers of it.
-/

namespace SmartWallet

/-- A credential with the seed of its address, as it is enrolled. -/
structure AuthorityPayload where
  seed : Key
  credential : Credential
deriving DecidableEq

namespace AuthorityPayload

/-- An Ed25519 key is its own seed. -/
def ofKey (key : Key) : AuthorityPayload := ⟨key, .ed25519 key⟩

def kind (p : AuthorityPayload) : AuthorityKind := p.credential.kind

/-- The seed is sent for the P-256 kinds only. -/
def wireLength (kind : AuthorityKind) : Nat :=
  if kind.usesSecp256r1 then 32 + kind.dataLength else kind.dataLength

def encode (p : AuthorityPayload) : List UInt8 :=
  (if p.kind.usesSecp256r1 then p.seed.toList else []) ++ p.credential.encode

/-- Reads a payload of the given kind and returns what follows it. -/
def read (kind : AuthorityKind) (bs : List UInt8) :
    Except ProgramError (AuthorityPayload × List UInt8) := do
  let (payload, rest) ← orError .malformedInstruction (splitBytes? (wireLength kind) bs)
  if kind.usesSecp256r1 then
    let (seed, data) ← orError .malformedInstruction (Bytes.split? 32 payload)
    let credential ← ofRecord (Credential.decode kind data)
    pure (⟨seed, credential⟩, rest)
  else
    let credential ← ofRecord (Credential.decode kind payload)
    let seed ← orError .invalidAuthorityData credential.ed25519Master?
    pure (⟨seed, credential⟩, rest)

end AuthorityPayload

/-- The kinds of instruction, in the order of their numbers. -/
inductive InstructionKind
  | createWallet
  | addAuthority
  | removeAuthority
  | transferOwnership
  | execute
  | createSession
deriving DecidableEq

instance : Named InstructionKind where
  all := [
    .createWallet, .addAuthority, .removeAuthority, .transferOwnership, .execute, .createSession]
  name
    | .createWallet => "CreateWallet"
    | .addAuthority => "AddAuthority"
    | .removeAuthority => "RemoveAuthority"
    | .transferOwnership => "TransferOwnership"
    | .execute => "Execute"
    | .createSession => "CreateSession"
  mem_all a := by cases a <;> decide

namespace InstructionKind

def number : InstructionKind → UInt8
  | createWallet => 0
  | addAuthority => 1
  | removeAuthority => 2
  | transferOwnership => 3
  | execute => 4
  | createSession => 5

/-- The bytes in front of an instruction: its number, or the start of the hash of its name. -/
def discriminator (kind : InstructionKind) : DiscriminatorProfile → List UInt8
  | .compact => [kind.number]
  | .hashed => (Sha256.hash (bytesOfText ("global:" ++ Named.name kind))).toList.take 8

/-- The length of every discriminator. -/
def discriminatorLength : DiscriminatorProfile → Nat
  | .compact => 1
  | .hashed => 8

/-- Splits the discriminator off the front. -/
def split (profile : DiscriminatorProfile) (bs : List UInt8) :
    Except ProgramError (InstructionKind × List UInt8) := do
  let (tag, rest) ← orError .malformedInstruction (splitBytes? (discriminatorLength profile) bs)
  let kind ← orError .unknownInstruction
    (Named.all.find? fun kind : InstructionKind => kind.discriminator profile == tag)
  pure (kind, rest)

end InstructionKind

inductive Instruction
  | createWallet (walletId : Key) (ownerBump : UInt8) (owner : AuthorityPayload)
  | addAuthority (role : Role) (authority : AuthorityPayload) (proof : List UInt8)
  | removeAuthority (proof : List UInt8)
  | transferOwnership (newOwner : AuthorityPayload) (proof : List UInt8)
  | execute (calls : List PackedCall) (proof : List UInt8)
  | createSession (sessionKey : Key) (expiresAt : UInt64) (proof : List UInt8)
deriving DecidableEq

namespace Instruction

def kind : Instruction → InstructionKind
  | createWallet .. => .createWallet
  | addAuthority .. => .addAuthority
  | removeAuthority .. => .removeAuthority
  | transferOwnership .. => .transferOwnership
  | execute .. => .execute
  | createSession .. => .createSession

/-- The proof in the rest of the bytes; creating a wallet has none. -/
def proof : Instruction → List UInt8
  | createWallet .. => []
  | addAuthority _ _ proof => proof
  | removeAuthority proof => proof
  | transferOwnership _ proof => proof
  | execute _ proof => proof
  | createSession _ _ proof => proof

/-- The instruction with another proof, where it has one. -/
def withProof (proof : List UInt8) : Instruction → Instruction
  | createWallet walletId ownerBump owner => createWallet walletId ownerBump owner
  | addAuthority role authority _ => addAuthority role authority proof
  | removeAuthority _ => removeAuthority proof
  | transferOwnership newOwner _ => transferOwnership newOwner proof
  | execute calls _ => execute calls proof
  | createSession sessionKey expiresAt _ => createSession sessionKey expiresAt proof

/-- The six zeros that fill a header of eight bytes. -/
def padding : List UInt8 := List.replicate 6 0

/-- The bytes after the discriminator. -/
def body : Instruction → Except ProgramError (List UInt8)
  | createWallet walletId ownerBump owner =>
    .ok (walletId.toList ++ [owner.kind.tag, ownerBump] ++ padding ++ owner.encode)
  | addAuthority role authority proof =>
    .ok ([authority.kind.tag, role.tag] ++ padding ++ authority.encode ++ proof)
  | removeAuthority proof => .ok proof
  | transferOwnership newOwner proof => .ok (newOwner.kind.tag :: newOwner.encode ++ proof)
  | execute calls proof => do
    let batch ← Batch.encode calls
    pure (batch ++ proof)
  | createSession sessionKey expiresAt proof =>
    .ok (sessionKey.toList ++ bytesOfUInt64 expiresAt ++ proof)

/-- The wire bytes. Only a batch that does not fit its format has none. -/
def encode (ix : Instruction) (profile : DiscriminatorProfile) :
    Except ProgramError (List UInt8) := do
  let body ← ix.body
  pure (ix.kind.discriminator profile ++ body)

/-- What the acting authority commits to, without the discriminator, the padding and the proof. -/
def signedBody : Instruction → Except ProgramError (List UInt8)
  | createWallet .. => .ok []
  | addAuthority role authority _ =>
    .ok ([authority.kind.tag, role.tag] ++ authority.encode)
  | removeAuthority _ => .ok []
  | transferOwnership newOwner _ => .ok (newOwner.kind.tag :: newOwner.encode)
  | execute calls _ => Batch.encode calls
  | createSession sessionKey expiresAt _ => .ok (sessionKey.toList ++ bytesOfUInt64 expiresAt)

/-- Reads a header of eight bytes: a kind of authority, one more byte, and six that may be
anything. -/
def readHeader : List UInt8 → Except ProgramError (UInt8 × UInt8 × List UInt8)
  | kind :: second :: _ :: _ :: _ :: _ :: _ :: _ :: rest => .ok (kind, second, rest)
  | _ => .error .malformedInstruction

def readKind (tag : UInt8) : Except ProgramError AuthorityKind := ofRecord (AuthorityKind.ofTag tag)

/-- Reads the bytes after the discriminator of the given kind. -/
def decodeBody (kind : InstructionKind) (bs : List UInt8) : Except ProgramError Instruction :=
  match kind with
  | .createWallet => do
    let (walletId, rest) ← orError .malformedInstruction (Bytes.split? 32 bs)
    let (kindTag, ownerBump, rest) ← readHeader rest
    let ownerKind ← readKind kindTag
    let (owner, tail) ← AuthorityPayload.read ownerKind rest
    ensure (tail = []) .invalidAuthorityData
    pure (.createWallet walletId ownerBump owner)
  | .addAuthority => do
    let (kindTag, roleTag, rest) ← readHeader bs
    let authorityKind ← readKind kindTag
    let role ← ofRecord (Role.ofTag roleTag)
    let (authority, proof) ← AuthorityPayload.read authorityKind rest
    pure (.addAuthority role authority proof)
  | .removeAuthority => .ok (.removeAuthority bs)
  | .transferOwnership =>
    match bs with
    | [] => .error .malformedInstruction
    | kindTag :: rest => do
      let ownerKind ← readKind kindTag
      let (newOwner, proof) ← AuthorityPayload.read ownerKind rest
      pure (.transferOwnership newOwner proof)
  | .execute => do
    let (calls, proof) ← Batch.read bs
    pure (.execute calls proof)
  | .createSession => do
    let (sessionKey, rest) ← orError .malformedInstruction (Bytes.split? 32 bs)
    let (expiry, proof) ← orError .malformedInstruction (Bytes.split? 8 rest)
    pure (.createSession sessionKey expiry.toUInt64 proof)

def decode (profile : DiscriminatorProfile) (bs : List UInt8) :
    Except ProgramError Instruction := do
  let (kind, rest) ← InstructionKind.split profile bs
  decodeBody kind rest

end Instruction

end SmartWallet
