import SmartWallet.Authority
import SmartWallet.Challenge

/-!
# Authentication

An Ed25519 authority proves itself by signing the transaction, a P-256 authority by a signature over
a challenge. Where sessions are allowed, the session key of either kind may sign instead.
-/

namespace SmartWallet

/-- What an authority is asked to authorise. -/
structure AuthRequest where
  accounts : List AccountRef
  /-- The proof at the end of the instruction. -/
  proof : List UInt8
  /-- The bytes that the authority commits to. -/
  body : List UInt8
  discriminator : List UInt8
  payer : Key
  slot : UInt64
  allowSession : Bool
deriving DecidableEq

/-- How an authority authorised a request. -/
structure AuthOutcome where
  viaSession : Bool
  /-- The counter to store, after a signed challenge. -/
  newCounter : Option UInt32
deriving DecidableEq

namespace AuthOutcome

def master : AuthOutcome := ⟨false, none⟩

def session : AuthOutcome := ⟨true, none⟩

def signed (counter : UInt32) : AuthOutcome := ⟨false, some counter⟩

end AuthOutcome

namespace AuthRequest

/-- How many slots old a signature may be. -/
def maxSignatureAge : UInt64 := 60

def challenge (r : AuthRequest) (slot : UInt64) (counter : UInt32) : Challenge :=
  ⟨r.discriminator, r.body, r.payer, r.accounts, slot, counter⟩

/-- What is left when the master key did not authorise: a session key that signs, if sessions are
allowed at all. -/
def viaSession (r : AuthRequest) (a : Authority) : Except ProgramError AuthOutcome :=
  match a.credential.session? with
  | some (sessionKey, expiresAt) =>
    if r.allowSession && AccountRef.signs r.accounts sessionKey then
      if r.slot < expiresAt then .ok .session else .error .sessionExpired
    else .error .unauthorized
  | none => .error .unauthorized

/-- An Ed25519 authority: its master key signs, or its session key does. -/
def byEd25519 (r : AuthRequest) (a : Authority) : Except ProgramError AuthOutcome := do
  let master ← orError .invalidAuthorityData a.credential.ed25519Master?
  if AccountRef.signs r.accounts master then pure .master else r.viaSession a

/-- Whether a signature made at the given slot is neither early nor too old. -/
def isRecent (r : AuthRequest) (slot : UInt64) : Bool :=
  slot ≤ r.slot && r.slot - slot ≤ maxSignatureAge

/-- A P-256 authority: the proof is a signed challenge with the next counter, or, if it has another
length, its session key signs. -/
def bySecp256r1 (r : AuthRequest) (verify : Verifier) (a : Authority) :
    Except ProgramError AuthOutcome := do
  let master ← orError .invalidAuthorityData a.credential.secp256r1Master?
  match SignedProof.decode? r.proof with
  | none => r.viaSession a
  | some p => do
    ensure (p.counter = a.counter + 1) .unauthorized
    ensure (r.isRecent p.slot) .unauthorized
    ensure (verify master (r.challenge p.slot p.counter).digest p.signature) .unauthorized
    pure (.signed p.counter)

/-- Authenticates an authority by its kind. -/
def authenticate (r : AuthRequest) (verify : Verifier) (a : Authority) :
    Except ProgramError AuthOutcome :=
  if a.kind.usesSecp256r1 then r.bySecp256r1 verify a else r.byEd25519 a

end AuthRequest

end SmartWallet
