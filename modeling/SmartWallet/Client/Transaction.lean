import SmartWallet.AccountRef
import SmartWallet.Client.Connection

/-!
# Transactions

A message lists every account once, with the union of the privileges that its calls ask for, and its
calls refer to accounts by index. Keys stand in five groups: the payer, writable signers, readonly
signers, other writable accounts, other readonly accounts; each group ascends. The header counts the
groups, so that position alone tells the privileges.
-/

namespace SmartWallet

/-- A call whose program and accounts are indexes into the keys of its message. -/
structure CompiledCall where
  program : UInt8
  accounts : List UInt8
  data : List UInt8
deriving DecidableEq

structure MessageHeader where
  requiredSignatures : UInt8
  readonlySigned : UInt8
  readonlyUnsigned : UInt8
deriving DecidableEq

structure Message where
  header : MessageHeader
  accountKeys : List Key
  blockhash : Key
  calls : List CompiledCall
deriving DecidableEq

/-- A length in groups of seven bits, the lowest first; the high bit says that another group
follows. -/
def compactLength (n : Nat) : List UInt8 :=
  if n < 128 then [UInt8.ofNat n] else UInt8.ofNat (n % 128 + 128) :: compactLength (n / 128)

/-- A list with its length in front. -/
def lengthPrefixed (bs : List UInt8) : List UInt8 := compactLength bs.length ++ bs

namespace CompiledCall

/-- The indexes of a call in a list of keys. -/
def compile (keys : List Key) (call : Call) : CompiledCall :=
  let index (key : Key) := UInt8.ofNat (keys.findIdx (· == key))
  ⟨index call.program, call.accounts.map fun a => index a.key, call.data⟩

def encode (c : CompiledCall) : List UInt8 :=
  c.program :: lengthPrefixed c.accounts ++ lengthPrefixed c.data

end CompiledCall

namespace Message

/-- Adds a reference to a list without repeated keys: the privileges of one key are united. -/
def unite (a : AccountRef) : List AccountRef → List AccountRef
  | [] => [a]
  | b :: rest =>
    if b.key = a.key then ⟨b.key, b.signer || a.signer, b.writable || a.writable⟩ :: rest
    else b :: unite a rest

/-- Every account of some calls once, with all privileges asked for it. Being called asks for
none. -/
def references (calls : List Call) : List AccountRef :=
  let asked := calls.flatMap fun c => ⟨c.program, false, false⟩ :: c.accounts
  asked.foldl (fun refs a => unite a refs) []

/-- The accounts of a message in order. The payer signs and is writable. -/
def layout (payer : Key) (calls : List Call) : List AccountRef :=
  let others := ((references calls).filter (·.key ≠ payer)).mergeSort fun a b => a.key.le b.key
  let group (signer writable : Bool) :=
    others.filter fun a => a.signer == signer && a.writable == writable
  ⟨payer, true, true⟩ :: group true true ++ group true false ++ group false true ++
    group false false

/-- The counts that tell the privileges of a layout. -/
def headerOf (refs : List AccountRef) : MessageHeader where
  requiredSignatures := UInt8.ofNat (refs.countP (·.signer))
  readonlySigned := UInt8.ofNat (refs.countP fun a => a.signer && !a.writable)
  readonlyUnsigned := UInt8.ofNat (refs.countP fun a => !a.signer && !a.writable)

/-- The message of some calls, paid by the given key. -/
def compile (payer blockhash : Key) (calls : List Call) : Message :=
  let refs := layout payer calls
  let keys := refs.map AccountRef.key
  ⟨headerOf refs, keys, blockhash, calls.map (CompiledCall.compile keys)⟩

/-- The bytes that are signed. -/
def encode (m : Message) : List UInt8 :=
  [m.header.requiredSignatures, m.header.readonlySigned, m.header.readonlyUnsigned] ++
    compactLength m.accountKeys.length ++ m.accountKeys.flatMap Bytes.toList ++
    m.blockhash.toList ++ compactLength m.calls.length ++ m.calls.flatMap CompiledCall.encode

/-- The account at an index with the privileges that the header gives it. -/
def account? (m : Message) (index : Nat) : Option AccountRef :=
  let required := m.header.requiredSignatures.toNat
  let writable :=
    if index < required then index < required - m.header.readonlySigned.toNat
    else index < m.accountKeys.length - m.header.readonlyUnsigned.toNat
  m.accountKeys[index]?.map fun key => ⟨key, decide (index < required), writable⟩

/-- The keys whose signatures the message needs, in order. -/
def signerKeys (m : Message) : List Key := m.accountKeys.take m.header.requiredSignatures.toNat

end Message

structure Transaction where
  signatures : List Signature
  message : Message
deriving DecidableEq

/-- A key that can sign bytes, or refuse with a reason. -/
structure Signer where
  key : Key
  sign : List UInt8 → Except String Signature

namespace Transaction

/-- A transaction with zeros in place of its signatures. -/
def unsigned (m : Message) : Transaction :=
  ⟨List.replicate m.header.requiredSignatures.toNat default, m⟩

/-- An unsigned transaction of some calls over the latest blockhash. -/
def assemble (c : Connection) (payer : Key) (calls : List Call) :
    Except ClientError Transaction := do
  let blockhash ← Connection.answer c.latestBlockhash
  pure (unsigned (.compile payer blockhash calls))

/-- Gives the transaction a number of signatures: those in excess are dropped, and a filler stands
for those that lack. -/
def resize (tx : Transaction) (count : Nat) (filler : Signature) : Transaction :=
  { tx with
    signatures := tx.signatures.take count ++
      List.replicate (count - tx.signatures.length) filler }

/-- One signature per required signer, zeros for those that lack. -/
def fit (tx : Transaction) : Transaction :=
  tx.resize tx.message.header.requiredSignatures.toNat default

/-- Puts one signature in place. -/
def signOne (tx : Transaction) (s : Signer) : Except ClientError Transaction := do
  let slot ← orError (.notASigner s.key) (tx.message.signerKeys.findIdx? (· == s.key))
  let signature ← (s.sign tx.message.encode).mapError .signing
  pure { tx with signatures := tx.signatures.set slot signature }

/-- Signs in order until one signer fails; the signatures put in place before stay. -/
def signAll (tx : Transaction) : List Signer → Transaction × Except ClientError Unit
  | [] => (tx, .ok ())
  | s :: rest =>
    match tx.signOne s with
    | .ok signed => signed.signAll rest
    | .error e => (tx, .error e)

/-- Signs for each of the signers. Slots of other keys keep their signatures. -/
def sign (tx : Transaction) (signers : List Signer) : Transaction × Except ClientError Unit :=
  tx.fit.signAll signers

end Transaction

end SmartWallet
