import SmartWallet.Program.Execution
import SmartWallet.Program.Management

/-!
# Processing instructions

`Context.process` decodes an instruction and carries it out, up to the writes it asks for;
`Ledger.process` also commits them. An instruction that fails changes nothing.
-/

namespace SmartWallet

/-- What a successful instruction asks the host to commit. -/
structure Outcome where
  kind : InstructionKind
  delta : Delta
  /-- Present for an execution only. -/
  execution : Option ExecutionPlan
deriving DecidableEq

namespace Context

/-- Carries out a prepared execution. -/
def dispatch (dispatcher : Dispatcher) (p : PreparedExecution) :
    DispatchLog × Except ProgramError Outcome :=
  let log := DispatchLog.record dispatcher [] p.dispatches
  (log,
    match log.refused with
    | none => .ok ⟨.execute, p.delta, some p.plan⟩
    | some _ => .error .dispatchFailed)

/-- Carries out an instruction whose authorization is known. -/
def perform (c : Context) (dispatcher : Dispatcher) (ix : Instruction) (auth : Authorization) :
    DispatchLog × Except ProgramError Outcome :=
  let state (delta : Except ProgramError Delta) :=
    (DispatchLog.empty, delta.map fun writes => (⟨ix.kind, writes, none⟩ : Outcome))
  match ix with
  | .createWallet walletId ownerBump owner => state (c.createWallet walletId ownerBump owner)
  | .addAuthority role authority _ => state (c.addAuthority role authority auth)
  | .removeAuthority _ => state (c.removeAuthority auth)
  | .transferOwnership newOwner _ => state (c.transferOwnership newOwner auth)
  | .createSession sessionKey expiresAt _ => state (c.createSession sessionKey expiresAt auth)
  | .execute calls _ =>
    match c.prepareExecution calls auth with
    | .error e => (.empty, .error e)
    | .ok p => dispatch dispatcher p

/-- The instruction that some bytes hold, with its authorization. -/
def readInstruction (c : Context) (data : List UInt8) :
    Except ProgramError (Instruction × Authorization) := do
  let profile := c.deployment.profile
  let ix ← Instruction.decode profile data
  let body ← ix.signedBody
  pure (ix, ⟨ix.kind.discriminator profile, body, ix.proof⟩)

/-- Decodes an instruction and carries it out. -/
def process (c : Context) (dispatcher : Dispatcher) (data : List UInt8) :
    DispatchLog × Except ProgramError Outcome :=
  match c.readInstruction data with
  | .error e => (.empty, .error e)
  | .ok (ix, auth) => c.perform dispatcher ix auth

end Context

/-- What an instruction leaves behind: the ledger, the calls handed over, and its answer. -/
structure Processed where
  ledger : Ledger
  log : DispatchLog
  result : Except ProgramError Outcome

namespace Ledger

/-- What an instruction on this ledger sees. -/
def context (l : Ledger) (deployment : Deployment) (verify : Verifier)
    (accounts : List AccountRef) : Context :=
  ⟨deployment, l.data?, accounts, l.slot, verify⟩

/-- Runs an instruction and commits what it writes. -/
def process (l : Ledger) (deployment : Deployment) (verify : Verifier) (dispatcher : Dispatcher)
    (accounts : List AccountRef) (data : List UInt8) : Processed :=
  let (log, result) := (l.context deployment verify accounts).process dispatcher data
  match result with
  | .error e => ⟨l, log, .error e⟩
  | .ok outcome =>
    match l.apply outcome.delta with
    | .error e => ⟨l, log, .error e⟩
    | .ok committed => ⟨committed, log, .ok outcome⟩

end Ledger

end SmartWallet
