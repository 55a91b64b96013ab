import SmartWallet.Program

/-!
# Runs

What happens to a ledger over time. Instructions are submitted, each with the verifier and the
dispatcher that serve it; between them the host may move the slot and set lamports. `Ledger.run`
carries out steps in order, and an instruction that fails leaves the ledger as it was.
-/

namespace SmartWallet

inductive Step
  | submit (verify : Verifier) (dispatcher : Dispatcher) (accounts : List AccountRef)
      (data : List UInt8)
  | setSlot (slot : UInt64)
  | warp (slots : UInt64)
  | setLamports (key : Key) (lamports : UInt64)

namespace Ledger

variable (deployment : Deployment)

/-- The ledger after one step. -/
def step (l : Ledger) : Step → Ledger
  | .submit verify dispatcher accounts data =>
    (l.process deployment verify dispatcher accounts data).ledger
  | .setSlot slot => l.setSlot slot
  | .warp slots => l.warp slots
  | .setLamports key lamports => l.setLamports key lamports

/-- The ledger after some steps. -/
def run (l : Ledger) (steps : List Step) : Ledger := steps.foldl (step deployment) l

theorem run_cons (l : Ledger) (s : Step) (steps : List Step) :
    l.run deployment (s :: steps) = (l.step deployment s).run deployment steps := rfl

theorem run_append (l : Ledger) (before after : List Step) :
    l.run deployment (before ++ after) =
      (l.run deployment before).run deployment after :=
  List.foldl_append

end Ledger

end SmartWallet
