import SmartWallet.Client.Error
import SmartWallet.Policy

/-!
# Choosing a policy

The call of a policy program that goes with the creation of a wallet or with an execution: one that
the caller provides, or that of the default policy.
-/

namespace SmartWallet

inductive PolicyChoice
  | provided (call : Call)
  /-- The default policy, bound to an authority; the data goes to its check. -/
  | standard (authority : Key) (data : List UInt8)
deriving DecidableEq

namespace PolicyChoice

/-- The call that sets the policy up for a new wallet. -/
def creationCall (choice : PolicyChoice) (deployment : Deployment) (payer wallet : Key) :
    Except ClientError Call :=
  match choice with
  | provided call => .ok call
  | standard authority _ => do
    let policy ← ClientError.ofRecord ((Recipe.policy wallet).address deployment)
    pure ⟨deployment.policyProgram,
      Policy.initAccounts payer wallet authority policy systemProgram,
      PolicyInstruction.initPolicy.encode⟩

/-- The call that clears an execution. -/
def executionCall (choice : PolicyChoice) (deployment : Deployment) (wallet : Key) :
    Except ClientError Call :=
  match choice with
  | provided call => .ok call
  | standard authority data => do
    let policy ← ClientError.ofRecord ((Recipe.policy wallet).address deployment)
    pure ⟨deployment.policyProgram, Policy.checkAccounts authority wallet policy,
      (PolicyInstruction.checkPolicy data).encode⟩

end PolicyChoice

end SmartWallet
