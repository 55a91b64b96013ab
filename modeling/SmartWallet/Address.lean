import SmartWallet.Curve
import SmartWallet.Deployment
import SmartWallet.Error
import SmartWallet.Sha256

/-!
# Derived addresses

A derived address is the hash of some seeds, the owning program and a marker, and it must not be a
point of the curve, so that nobody holds a private key for it. `Address.create` hashes the seeds as
they are; `Address.find` appends the highest one-byte bump that leaves the curve. A `Recipe` names
the addresses that a wallet uses.
-/

namespace SmartWallet

/-- Tells whether a point is on the curve. The first argument counts the tests that the same
derivation has made before, so that a scripted curve can be given as well as a set of points. -/
abbrev CurveTest := Nat → Key → Bool

/-- The curve test of a set of points. -/
def CurveTest.ofPoints (onCurve : Key → Bool) : CurveTest := fun _ => onCurve

/-- The real curve. -/
def CurveTest.ed25519 : CurveTest := .ofPoints Curve.contains

/-- Every point is on the curve. -/
def CurveTest.always : CurveTest := fun _ _ => true

/-- The first tests say that the point is on the curve, and all later ones that it is not. -/
def CurveTest.rejectFirst (count : Nat) : CurveTest := fun earlier _ => earlier < count

/-- A derived address with the bump that leads to it. -/
structure DerivedAddress where
  key : Key
  bump : UInt8
deriving DecidableEq

namespace Address

/-- The longest seed. -/
def maxSeedLength : Nat := 32

/-- The most seeds, the bump included. -/
def maxSeeds : Nat := 16

def marker : List UInt8 := bytesOfText "ProgramDerivedAddress"

/-- The bytes that are hashed. Seeds follow each other without separators. -/
def preimage (seeds : List (List UInt8)) (program : Key) : List UInt8 :=
  seeds.flatten ++ program.toList ++ marker

/-- The limits on seeds; a seed that is too long is reported before their number. -/
def checkSeeds (seeds : List (List UInt8)) (extra : Nat) : Except RecordError Unit := do
  ensure (∀ seed ∈ seeds, seed.length ≤ maxSeedLength) .seedTooLong
  ensure (seeds.length + extra ≤ maxSeeds) .tooManySeeds

/-- The address of the seeds as they are. -/
def create (curve : CurveTest) (seeds : List (List UInt8)) (program : Key) :
    Except RecordError Key := do
  checkSeeds seeds 0
  let candidate := Sha256.hash (preimage seeds program)
  ensure (curve 0 candidate = false) .invalidSeeds
  pure candidate

/-- Tries the bumps below the given number, from the highest down. -/
def search (curve : CurveTest) (seeds : List (List UInt8)) (program : Key) :
    Nat → Except RecordError DerivedAddress
  | 0 => .error .derivationExhausted
  | bump + 1 =>
    let b := UInt8.ofNat bump
    let candidate := Sha256.hash (preimage (seeds ++ [[b]]) program)
    if curve (255 - bump) candidate then search curve seeds program bump else .ok ⟨candidate, b⟩

/-- The address with the highest bump that leaves the curve. -/
def find (curve : CurveTest) (seeds : List (List UInt8)) (program : Key) :
    Except RecordError DerivedAddress := do
  checkSeeds seeds 1
  search curve seeds program 256

end Address

/-- The addresses that wallets use, each with what it is derived from. -/
inductive Recipe
  | wallet (walletId : List UInt8)
  | vault (wallet : Key)
  | authority (wallet seed : Key)
  | session (wallet sessionKey : Key)
  | policy (wallet : Key)
deriving DecidableEq

namespace Recipe

def vaultTag : List UInt8 := bytesOfText "vault"

def seeds (scheme : SeedScheme) : Recipe → List (List UInt8)
  | wallet walletId => [scheme.tag, walletId]
  | vault w => [vaultTag, w.toList]
  | authority w seed => [bytesOfText "authority", w.toList, seed.toList]
  | session w sessionKey => [bytesOfText "session", w.toList, sessionKey.toList]
  | policy w => [bytesOfText "policy", w.toList]

/-- The program that owns the address: the policy program owns policies, and the wallet program
everything else. -/
def program (deployment : Deployment) : Recipe → Key
  | policy _ => deployment.policyProgram
  | _ => deployment.program

/-- Derives the address under a given curve. -/
def deriveOn (curve : CurveTest) (deployment : Deployment) (recipe : Recipe) :
    Except RecordError DerivedAddress :=
  Address.find curve (recipe.seeds deployment.seedScheme) (recipe.program deployment)

def derive (deployment : Deployment) (recipe : Recipe) : Except RecordError DerivedAddress :=
  recipe.deriveOn .ed25519 deployment

/-- The address without its bump. -/
def address (deployment : Deployment) (recipe : Recipe) : Except RecordError Key :=
  (recipe.derive deployment).map DerivedAddress.key

end Recipe

end SmartWallet
