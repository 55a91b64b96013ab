import SmartWallet.AccountRef
import SmartWallet.Address
import SmartWallet.Authentication
import SmartWallet.Authority
import SmartWallet.Base58
import SmartWallet.Batch
import SmartWallet.Batch.Packing
import SmartWallet.Bytes
import SmartWallet.Challenge
import SmartWallet.Client.Connection
import SmartWallet.Client.Draft
import SmartWallet.Client.Draft.Execution
import SmartWallet.Client.Draft.Management
import SmartWallet.Client.Error
import SmartWallet.Client.PolicyChoice
import SmartWallet.Client.PreparedInstruction
import SmartWallet.Client.Retry
import SmartWallet.Client.Settings
import SmartWallet.Client.Transaction
import SmartWallet.Client.WalletHandle
import SmartWallet.Curve
import SmartWallet.Deployment
import SmartWallet.Error
import SmartWallet.Instruction
import SmartWallet.Ledger
import SmartWallet.Named
import SmartWallet.Policy
import SmartWallet.Program
import SmartWallet.Program.Context
import SmartWallet.Program.Dispatch
import SmartWallet.Program.Execution
import SmartWallet.Program.Management
import SmartWallet.Program.Run
import SmartWallet.Record
import SmartWallet.Sha256
import SmartWallet.Text.Blank
import SmartWallet.Text.Hex
import SmartWallet.Text.Hidden
import SmartWallet.Text.Number
import SmartWallet.Text.Quoted
import SmartWallet.Text.Scan
import SmartWallet.Toml.Document
import SmartWallet.Toml.Item
import SmartWallet.Toml.Literal
import SmartWallet.Wallet
import SmartWallet.Proofs.Checks
import SmartWallet.Proofs.RecordCodec
import SmartWallet.Proofs.RecordGrammar
import SmartWallet.Proofs.RecordKinds
import SmartWallet.Proofs.InstructionCodec
import SmartWallet.Proofs.InstructionGrammar
import SmartWallet.Proofs.Derivation
import SmartWallet.Proofs.WalletRules
import SmartWallet.Proofs.View
import SmartWallet.Proofs.Authentication
import SmartWallet.Proofs.Effects
import SmartWallet.Proofs.Registry
import SmartWallet.Proofs.Management
import SmartWallet.Proofs.Execution
import SmartWallet.Proofs.Entries
import SmartWallet.Proofs.Replay
import SmartWallet.Proofs.Handover
import SmartWallet.Proofs.Containment
import SmartWallet.Proofs.SignedMessage
import SmartWallet.Proofs.Packing
import SmartWallet.Proofs.Sufficiency
import SmartWallet.Proofs.Fidelity
import SmartWallet.Proofs.Assembly
import SmartWallet.Proofs.Prepared
import SmartWallet.Proofs.SignedDigest
import SmartWallet.Proofs.Vacancy
import SmartWallet.Proofs.Acceptance
import SmartWallet.Proofs.Sessions
import SmartWallet.Proofs.Odometer
import SmartWallet.Proofs.Footprint
import SmartWallet.Proofs.Provenance
import SmartWallet.Proofs.Writability
import SmartWallet.Proofs.Lamports
import SmartWallet.Proofs.Dependence
import SmartWallet.Proofs.Isolation
import SmartWallet.Proofs.RemainingAccounts
import SmartWallet.Proofs.PackingLimits
import SmartWallet.Proofs.Truncation
import SmartWallet.Proofs.PolicyCodec
import SmartWallet.Proofs.RuleLayer
import SmartWallet.Proofs.DispatchOrder
import SmartWallet.Proofs.Separation
import SmartWallet.Proofs.Decision
import SmartWallet.Proofs.Commitment
import SmartWallet.Proofs.Signatures
import SmartWallet.Proofs.Retries
import SmartWallet.Proofs.Doubling
