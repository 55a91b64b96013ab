import SmartWallet.AccountRef
import SmartWallet.Error

/-!
# Batches of packed calls

Inside an instruction, calls name their accounts by index into the instruction's own account list.
A batch is a count byte and that many packed calls:

```text
program count index[count] role[count] length[2] data[length]
```
-/

namespace SmartWallet

/-- The privileges that a packed call asks for on one account. -/
inductive AccountRole
  | readonly
  | writable
  | readonlySigner
  | writableSigner
deriving DecidableEq

namespace AccountRole

def ofFlags (signer writable : Bool) : AccountRole :=
  match signer, writable with
  | false, false => .readonly
  | false, true => .writable
  | true, false => .readonlySigner
  | true, true => .writableSigner

def isSigner : AccountRole → Bool
  | readonlySigner | writableSigner => true
  | _ => false

def isWritable : AccountRole → Bool
  | writable | writableSigner => true
  | _ => false

/-- The union of both privileges. -/
def merge (r s : AccountRole) : AccountRole :=
  ofFlags (r.isSigner || s.isSigner) (r.isWritable || s.isWritable)

/-- The wire byte: bit 0 for writable, bit 1 for signer. -/
def toByte : AccountRole → UInt8
  | readonly => 0
  | writable => 1
  | readonlySigner => 2
  | writableSigner => 3

def ofByte (b : UInt8) : Except ProgramError AccountRole :=
  if b = 0 then .ok readonly
  else if b = 1 then .ok writable
  else if b = 2 then .ok readonlySigner
  else if b = 3 then .ok writableSigner
  else .error .malformedInstruction

/-- The role of a reference. -/
def ofRef (a : AccountRef) : AccountRole := ofFlags a.signer a.writable

/-- A reference to a key in this role. -/
def toRef (r : AccountRole) (key : Key) : AccountRef := ⟨key, r.isSigner, r.isWritable⟩

end AccountRole

instance : Named AccountRole where
  all := [.readonly, .writable, .readonlySigner, .writableSigner]
  name
    | .readonly => "Readonly"
    | .writable => "Writable"
    | .readonlySigner => "ReadonlySigner"
    | .writableSigner => "WritableSigner"
  mem_all a := by cases a <;> decide

/-- A call whose program and accounts are indexes. -/
structure PackedCall where
  program : UInt8
  accounts : List UInt8
  roles : List AccountRole
  data : List UInt8
deriving DecidableEq

namespace PackedCall

/-- The most accounts of one call. -/
def maxAccounts : Nat := 255

/-- The most instruction bytes of one call. -/
def maxData : Nat := 65535

/-- The bytes of a call, if its lengths fit their fields. -/
def encode (c : PackedCall) : Except ProgramError (List UInt8) := do
  ensure (c.accounts.length ≤ maxAccounts) .tooManyAccounts
  ensure (c.roles.length = c.accounts.length) .malformedInstruction
  ensure (c.data.length ≤ maxData) .malformedInstruction
  pure ([c.program, UInt8.ofNat c.accounts.length] ++ c.accounts ++
    c.roles.map AccountRole.toByte ++ littleEndian 2 c.data.length ++ c.data)

/-- Reads one call and returns what follows it. -/
def read : List UInt8 → Except ProgramError (PackedCall × List UInt8)
  | program :: count :: rest => do
    let (accounts, rest) ← orError .malformedInstruction (splitBytes? count.toNat rest)
    let (roleBytes, rest) ← orError .malformedInstruction (splitBytes? count.toNat rest)
    let (length, rest) ← orError .malformedInstruction (Bytes.split? 2 rest)
    let roles ← roleBytes.mapM AccountRole.ofByte
    let (data, rest) ←
      orError .malformedInstruction (splitBytes? length.toUInt16.toNat rest)
    pure (⟨program, accounts, roles, data⟩, rest)
  | _ => .error .malformedInstruction

/-- The call that the indexes stand for, in an account list. The roles stay as they are asked
for. -/
def resolve (c : PackedCall) (accounts : List AccountRef) : Except ProgramError Call := do
  let program ← orError .malformedInstruction accounts[c.program.toNat]?
  let refs ← (c.accounts.zip c.roles).mapM fun (index, role) =>
    (orError .malformedInstruction accounts[index.toNat]?).map fun a => role.toRef a.key
  pure ⟨program.key, refs, c.data⟩

end PackedCall

namespace Batch

/-- The most calls of one batch. -/
def maxCalls : Nat := 255

/-- The bytes of a batch, if all lengths fit their fields. -/
def encode (calls : List PackedCall) : Except ProgramError (List UInt8) := do
  ensure (calls.length ≤ maxCalls) .tooManyInstructions
  let parts ← calls.mapM PackedCall.encode
  pure (UInt8.ofNat calls.length :: parts.flatten)

/-- Reads the given number of calls. -/
def readCalls : Nat → List UInt8 → Except ProgramError (List PackedCall × List UInt8)
  | 0, bs => .ok ([], bs)
  | count + 1, bs => do
    let (call, rest) ← PackedCall.read bs
    let (calls, rest) ← readCalls count rest
    pure (call :: calls, rest)

/-- Reads a batch and returns what follows it. -/
def read : List UInt8 → Except ProgramError (List PackedCall × List UInt8)
  | count :: rest => readCalls count.toNat rest
  | [] => .error .malformedInstruction

end Batch

end SmartWallet
