import SmartWallet.Base58
import SmartWallet.Named

/-!
# Deployments

A deployment fixes the program's own address, that of its policy program, and the two conventions
that differ between deployments: the tag in front of a wallet's seeds and the width of an
instruction's discriminator.
-/

namespace SmartWallet

/-- The tag that leads the seeds of a wallet's address. -/
inductive SeedScheme
  | wallet
  | smartWallet
deriving DecidableEq

def SeedScheme.tag : SeedScheme → List UInt8
  | wallet => bytesOfText "wallet"
  | smartWallet => bytesOfText "smart_wallet"

instance : Named SeedScheme where
  all := [.wallet, .smartWallet]
  name
    | .wallet => "wallet"
    | .smartWallet => "smart_wallet"
  mem_all a := by cases a <;> decide

/-- The width of an instruction's discriminator: one byte, or eight bytes of a hash. -/
inductive DiscriminatorProfile
  | compact
  | hashed
deriving DecidableEq

instance : Named DiscriminatorProfile where
  all := [.compact, .hashed]
  name
    | .compact => "compact"
    | .hashed => "hashed"
  mem_all a := by cases a <;> decide

structure Deployment where
  program : Key
  policyProgram : Key
  seedScheme : SeedScheme
  profile : DiscriminatorProfile
  maxSessionSlots : UInt64
deriving DecidableEq

namespace Deployment

/-- The text of the program's usual address. -/
def programText : String := "LazorKit11111111111111111111111111111111111"

/-- The text of the default policy program's address. -/
def policyProgramText : String := "CNT2aEgxucQjmt5SRsA6hSGrt241Bvc9zsgPvSuMjQTE"

def defaultProgram : Key := ⟨[
  0x05, 0x04, 0x79, 0xbd, 0x79, 0x5b, 0x8e, 0x5c, 0x09, 0x85, 0x36, 0x65, 0x84, 0xe3, 0x7f, 0xc8,
  0xfd, 0x61, 0x8f, 0xac, 0xf1, 0x24, 0x6e, 0xc4, 0x41, 0xec, 0x1b, 0x08, 0x00, 0x00, 0x00, 0x00],
  rfl⟩

def defaultPolicyProgram : Key := ⟨[
  0xa8, 0xef, 0x2e, 0xa0, 0xbf, 0x68, 0x82, 0x4f, 0x14, 0x7d, 0xd4, 0x91, 0x7a, 0xa8, 0xde, 0x1c,
  0xb3, 0xc3, 0x8c, 0xb3, 0x4d, 0xdd, 0x53, 0x1b, 0xe1, 0xee, 0xeb, 0x2d, 0x25, 0xb5, 0xad, 0x3d],
  rfl⟩

/-- About seven days of slots of 400 ms. -/
def defaultMaxSessionSlots : UInt64 := 1512000

end Deployment

instance : Inhabited Deployment where
  default :=
    { program := Deployment.defaultProgram
      policyProgram := Deployment.defaultPolicyProgram
      seedScheme := .wallet
      profile := .compact
      maxSessionSlots := Deployment.defaultMaxSessionSlots }

end SmartWallet
