import SmartWallet.AccountRef
import SmartWallet.Address

/-!
# The default policy

The wire format of the program that clears executions by default: two instructions, each marked by
the start of the hash of its name, and one record per wallet that names the authority it lets pass.
-/

namespace SmartWallet

namespace Policy

/-- The eight bytes that mark a name in a namespace. -/
def mark (space name : String) : List UInt8 :=
  (Sha256.hash (bytesOfText (space ++ ":" ++ name))).toList.take 8

def instructionMark (name : String) : List UInt8 := mark "global" name

def accountMark (name : String) : List UInt8 := mark "account" name

end Policy

inductive PolicyInstruction
  | initPolicy
  | checkPolicy (data : List UInt8)
deriving DecidableEq

namespace PolicyInstruction

def name : PolicyInstruction → String
  | initPolicy => "init_policy"
  | checkPolicy _ => "check_policy"

def discriminator (i : PolicyInstruction) : List UInt8 := Policy.instructionMark i.name

/-- The wire bytes; the data of a check follows its length. -/
def encode (i : PolicyInstruction) : List UInt8 :=
  i.discriminator ++
    match i with
    | initPolicy => []
    | checkPolicy data => littleEndian 4 data.length ++ data

/-- Reads an instruction. A check must fill the bytes exactly; what follows the mark of an
initialisation is not looked at. -/
def decode (bs : List UInt8) : Except PolicyError PolicyInstruction := do
  let (tag, rest) ← orError .invalidInstruction (splitBytes? 8 bs)
  if tag = initPolicy.discriminator then pure initPolicy
  else
    ensure (tag = (checkPolicy []).discriminator) .invalidInstruction
    let (length, data) ← orError .invalidInstruction (Bytes.split? 4 rest)
    ensure (data.length = length.toUInt32.toNat) .invalidInstruction
    pure (checkPolicy data)

end PolicyInstruction

/-- The record of the default policy. -/
structure PolicyRecord where
  wallet : Key
  authority : Key
deriving DecidableEq

namespace PolicyRecord

def mark : List UInt8 := Policy.accountMark "Policy"

def encode (r : PolicyRecord) : List UInt8 := mark ++ r.wallet.toList ++ r.authority.toList

def decode? (bs : List UInt8) : Option PolicyRecord := do
  let (tag, rest) ← splitBytes? 8 bs
  guard (tag = mark)
  let (wallet, rest) ← Bytes.split? 32 rest
  let authority ← Bytes.ofList? 32 rest
  pure ⟨wallet, authority⟩

def decode (bs : List UInt8) : Except PolicyError PolicyRecord :=
  orError .invalidPolicyData (decode? bs)

/-- Only the recorded authority passes, and only for the recorded wallet. -/
def check (r : PolicyRecord) (wallet authority : Key) : Except PolicyError Unit :=
  ensure (r.wallet = wallet ∧ r.authority = authority) .checkFailed

end PolicyRecord

namespace Policy

/-- The accounts of an initialisation, in order. -/
def initAccounts (payer wallet authority policy system : Key) : List AccountRef :=
  [⟨payer, true, true⟩, ⟨wallet, false, false⟩, ⟨authority, true, false⟩, ⟨policy, false, true⟩,
    ⟨system, false, false⟩]

/-- The accounts of a check, in order. -/
def checkAccounts (authority wallet policy : Key) : List AccountRef :=
  [⟨authority, true, false⟩, ⟨wallet, false, false⟩, ⟨policy, false, true⟩]

end Policy

end SmartWallet
