import SmartWallet.Named

/-!
# Errors

Records, instructions and the default policy each have an error type of their own, with a number
and a text per error. `RecordError.toProgramError` says what a record's error becomes when an
instruction meets it.
-/

namespace SmartWallet

/-- Why an address cannot be derived, a record cannot be read, or the registry refuses a change. -/
inductive RecordError
  | seedTooLong
  | tooManySeeds
  | invalidSeeds
  | derivationExhausted
  | invalidAccountData
  | invalidAuthorityData
  | invalidRoleData
  | authorityNotFound
  | duplicateAuthority
  | authorityLimitReached
  | cannotRemoveOwner
  | ownerAlreadyExists
deriving DecidableEq

namespace RecordError

def message : RecordError → String
  | seedTooLong => "Seed exceeds 32 bytes"
  | tooManySeeds => "Too many seeds"
  | invalidSeeds => "Seeds produce an on-curve address"
  | derivationExhausted => "No valid bump for the given seeds"
  | invalidAccountData => "Invalid account data"
  | invalidAuthorityData => "Invalid authority data"
  | invalidRoleData => "Invalid role data"
  | authorityNotFound => "Authority not found"
  | duplicateAuthority => "Authority already registered"
  | authorityLimitReached => "Authority limit reached"
  | cannotRemoveOwner => "Cannot remove owner"
  | ownerAlreadyExists => "Wallet already has an owner"

def code : RecordError → Nat
  | seedTooLong => 1000
  | tooManySeeds => 1001
  | invalidSeeds => 1002
  | derivationExhausted => 1003
  | invalidAccountData => 1004
  | invalidAuthorityData => 1005
  | invalidRoleData => 1006
  | authorityNotFound => 1007
  | duplicateAuthority => 1008
  | authorityLimitReached => 1009
  | cannotRemoveOwner => 1010
  | ownerAlreadyExists => 1011

/-- The number a host sees, kept apart from those of `ProgramError`. -/
def hostCode (e : RecordError) : Nat := e.code + 2000

end RecordError

instance : Named RecordError where
  all := [
    .seedTooLong, .tooManySeeds, .invalidSeeds, .derivationExhausted, .invalidAccountData,
    .invalidAuthorityData, .invalidRoleData, .authorityNotFound, .duplicateAuthority,
    .authorityLimitReached, .cannotRemoveOwner, .ownerAlreadyExists]
  name
    | .seedTooLong => "SeedTooLong"
    | .tooManySeeds => "TooManySeeds"
    | .invalidSeeds => "InvalidSeeds"
    | .derivationExhausted => "DerivationExhausted"
    | .invalidAccountData => "InvalidAccountData"
    | .invalidAuthorityData => "InvalidAuthorityData"
    | .invalidRoleData => "InvalidRoleData"
    | .authorityNotFound => "AuthorityNotFound"
    | .duplicateAuthority => "DuplicateAuthority"
    | .authorityLimitReached => "AuthorityLimitReached"
    | .cannotRemoveOwner => "CannotRemoveOwner"
    | .ownerAlreadyExists => "OwnerAlreadyExists"
  mem_all a := by cases a <;> decide

/-- Why an instruction is refused. -/
inductive ProgramError
  | derivationExhausted
  | seedTooLong
  | malformedInstruction
  | unknownInstruction
  | invalidAuthorityData
  | tooManyAccounts
  | tooManyInstructions
  | alreadyInitialized
  | unauthorized
  | cannotRemoveOwner
  | sessionAlreadyExists
  | invalidExpiry
  | addressMismatch
  | sessionExpired
  | tooManySeeds
  | invalidSeeds
  | invalidAccountData
  | notEnoughAccounts
  | selfReentrancy
  | authorityLimitReached
  | dispatchFailed
deriving DecidableEq

namespace ProgramError

def message : ProgramError → String
  | derivationExhausted => "No valid bump for the given seeds"
  | seedTooLong => "Seed exceeds 32 bytes"
  | malformedInstruction => "Malformed instruction data"
  | unknownInstruction => "Unknown instruction discriminator"
  | invalidAuthorityData => "Invalid authority data"
  | tooManyAccounts => "Too many accounts"
  | tooManyInstructions => "Too many instructions"
  | alreadyInitialized => "Account already initialized"
  | unauthorized => "Not authorized"
  | cannotRemoveOwner => "Owner cannot be removed"
  | sessionAlreadyExists => "Session already exists"
  | invalidExpiry => "Invalid session expiry"
  | addressMismatch => "Derived address does not match the supplied account"
  | sessionExpired => "Session expired"
  | tooManySeeds => "Too many seeds"
  | invalidSeeds => "Seeds produce an on-curve address"
  | invalidAccountData => "Invalid account data"
  | notEnoughAccounts => "Not enough account keys"
  | selfReentrancy => "Self-reentrancy is not allowed"
  | authorityLimitReached => "Authority limit reached"
  | dispatchFailed => "Inner instruction dispatch failed"

/-- The number a host sees. -/
def hostCode : ProgramError → Nat
  | derivationExhausted => 0
  | seedTooLong => 1
  | malformedInstruction => 2
  | unknownInstruction => 3
  | invalidAuthorityData => 4
  | tooManyAccounts => 5
  | tooManyInstructions => 6
  | alreadyInitialized => 7
  | unauthorized => 8
  | cannotRemoveOwner => 9
  | sessionAlreadyExists => 10
  | invalidExpiry => 11
  | addressMismatch => 12
  | sessionExpired => 13
  | tooManySeeds => 14
  | invalidSeeds => 15
  | invalidAccountData => 16
  | notEnoughAccounts => 17
  | selfReentrancy => 18
  | authorityLimitReached => 19
  | dispatchFailed => 20

end ProgramError

instance : Named ProgramError where
  all := [
    .derivationExhausted, .seedTooLong, .malformedInstruction, .unknownInstruction,
    .invalidAuthorityData, .tooManyAccounts, .tooManyInstructions, .alreadyInitialized,
    .unauthorized, .cannotRemoveOwner, .sessionAlreadyExists, .invalidExpiry, .addressMismatch,
    .sessionExpired, .tooManySeeds, .invalidSeeds, .invalidAccountData, .notEnoughAccounts,
    .selfReentrancy, .authorityLimitReached, .dispatchFailed]
  name
    | .derivationExhausted => "DerivationExhausted"
    | .seedTooLong => "SeedTooLong"
    | .malformedInstruction => "MalformedInstruction"
    | .unknownInstruction => "UnknownInstruction"
    | .invalidAuthorityData => "InvalidAuthorityData"
    | .tooManyAccounts => "TooManyAccounts"
    | .tooManyInstructions => "TooManyInstructions"
    | .alreadyInitialized => "AlreadyInitialized"
    | .unauthorized => "Unauthorized"
    | .cannotRemoveOwner => "CannotRemoveOwner"
    | .sessionAlreadyExists => "SessionAlreadyExists"
    | .invalidExpiry => "InvalidExpiry"
    | .addressMismatch => "PdaMismatch"
    | .sessionExpired => "SessionExpired"
    | .tooManySeeds => "TooManySeeds"
    | .invalidSeeds => "InvalidSeeds"
    | .invalidAccountData => "InvalidAccountData"
    | .notEnoughAccounts => "NotEnoughAccountKeys"
    | .selfReentrancy => "SelfReentrancyNotAllowed"
    | .authorityLimitReached => "AuthorityLimitReached"
    | .dispatchFailed => "DispatchFailed"
  mem_all a := by cases a <;> decide

/-- What an instruction reports when a record fails it. -/
def RecordError.toProgramError : RecordError → ProgramError
  | seedTooLong => .seedTooLong
  | tooManySeeds => .tooManySeeds
  | invalidSeeds => .invalidSeeds
  | derivationExhausted => .derivationExhausted
  | invalidAccountData => .invalidAccountData
  | invalidAuthorityData => .invalidAuthorityData
  | invalidRoleData => .malformedInstruction
  | authorityNotFound => .unauthorized
  | duplicateAuthority => .alreadyInitialized
  | authorityLimitReached => .authorityLimitReached
  | cannotRemoveOwner => .cannotRemoveOwner
  | ownerAlreadyExists => .unauthorized

/-- A record's answer as an instruction reports it. -/
def ofRecord {α : Type} (r : Except RecordError α) : Except ProgramError α :=
  r.mapError RecordError.toProgramError

theorem ofRecord_eq_ok_iff {α : Type} {r : Except RecordError α} {a : α} :
    ofRecord r = .ok a ↔ r = .ok a := by
  cases r with
  | error e => exact ⟨nofun, nofun⟩
  | ok b =>
    constructor
    · intro h
      cases h
      rfl
    · intro h
      cases h
      rfl

/-- Why the default policy refuses a call. -/
inductive PolicyError
  | checkFailed
  | invalidPolicyData
  | invalidInstruction
deriving DecidableEq

def PolicyError.code : PolicyError → Nat
  | checkFailed => 1000
  | invalidPolicyData => 1001
  | invalidInstruction => 1002

instance : Named PolicyError where
  all := [.checkFailed, .invalidPolicyData, .invalidInstruction]
  name
    | .checkFailed => "CheckFailed"
    | .invalidPolicyData => "InvalidPolicyData"
    | .invalidInstruction => "InvalidInstruction"
  mem_all a := by cases a <;> decide

/-- The condition, or the error that its failure is reported as. -/
def ensure {ε : Type} (condition : Prop) [Decidable condition] (e : ε) : Except ε Unit :=
  if condition then .ok () else .error e

theorem ensure_eq_ok_iff {ε : Type} {condition : Prop} [Decidable condition] {e : ε} :
    ensure condition e = .ok () ↔ condition := by
  unfold ensure
  split <;> simp_all

/-- The value, or an error in its place. -/
def orError {ε α : Type} (e : ε) : Option α → Except ε α
  | some a => .ok a
  | none => .error e

theorem orError_eq_ok_iff {ε α : Type} {e : ε} {o : Option α} {a : α} :
    orError e o = .ok a ↔ o = some a := by
  cases o <;> simp [orError]

end SmartWallet
