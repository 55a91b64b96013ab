import SmartWallet.Base58
import SmartWallet.Error
import SmartWallet.Record
import SmartWallet.Text.Quoted

/-!
# Client errors

What can go wrong while a client prepares, sends or reads, with the text that is shown for it.
-/

namespace SmartWallet

/-- What a request needs before it can be built. -/
inductive RequiredField
  | payer
  | walletId
  | owner
  | newAuthority
  | actingAuthority
  | targetAuthority
  | newOwner
  | sessionKey
  | expiry
  | caller
deriving DecidableEq

def RequiredField.name : RequiredField → String
  | payer => "payer"
  | walletId => "wallet_id"
  | owner => "owner"
  | newAuthority => "new authority"
  | actingAuthority => "acting authority"
  | targetAuthority => "target authority"
  | newOwner => "new owner"
  | sessionKey => "session key"
  | expiry => "expiry"
  | caller => "caller"

/-- Why client settings are refused. -/
inductive SettingsError
  /-- The file cannot be read. -/
  | unreadableFile (path reason : String)
  /-- The text is no settings document. -/
  | malformedText
  | notANumber (name value : String)
  | invalidKey (field value : String) (cause : KeyTextError)
deriving DecidableEq

def SettingsError.message : SettingsError → String
  | unreadableFile path reason => path ++ ": " ++ reason
  | malformedText => "malformed settings"
  | notANumber name value => name ++ " is not a number: " ++ Text.quoted value
  | invalidKey field value cause =>
    "invalid " ++ field ++ " " ++ Text.quoted value ++ ": " ++ cause.message

inductive ClientError
  | connection (reason : String)
  | accountNotFound (key : Key)
  /-- The account belongs to another program. -/
  | foreignAccount (key owner : Key)
  | unreadableRecord (kind : RecordKind) (cause : RecordError)
  | authorityNotFound (id : UInt8)
  /-- The wallet record does not lie where its id leads. -/
  | misplacedWallet (key : Key)
  | missing (field : RequiredField)
  | program (cause : ProgramError)
  | settings (cause : SettingsError)
  /-- The key signs nothing in the transaction. -/
  | notASigner (key : Key)
  | signing (reason : String)
  | notConfirmed (signature : Signature)
  | transactionFailed (signature : Signature) (reason : String)
  /-- An error of the operation that a caller asked to be repeated. -/
  | other (reason : String)
deriving DecidableEq

/-- What a client error is filed under. -/
inductive ClientErrorKind
  | connection
  | accountNotFound
  | invalidAccountData
  | authorityNotFound
  | invalidWalletState
  | missingField
  | program
  | config
  | signing
  | confirmationTimeout
  | transactionFailed
  | other
deriving DecidableEq

instance : Named ClientErrorKind where
  all := [
    .connection, .accountNotFound, .invalidAccountData, .authorityNotFound, .invalidWalletState,
    .missingField, .program, .config, .signing, .confirmationTimeout, .transactionFailed, .other]
  name
    | .connection => "Connection"
    | .accountNotFound => "AccountNotFound"
    | .invalidAccountData => "InvalidAccountData"
    | .authorityNotFound => "AuthorityNotFound"
    | .invalidWalletState => "InvalidWalletState"
    | .missingField => "MissingField"
    | .program => "Program"
    | .config => "Config"
    | .signing => "Signing"
    | .confirmationTimeout => "ConfirmationTimeout"
    | .transactionFailed => "TransactionFailed"
    | .other => "Other"
  mem_all a := by cases a <;> decide

namespace ClientError

def kind : ClientError → ClientErrorKind
  | connection _ => .connection
  | accountNotFound _ => .accountNotFound
  | foreignAccount _ _ => .invalidAccountData
  | unreadableRecord _ _ => .invalidAccountData
  | authorityNotFound _ => .authorityNotFound
  | misplacedWallet _ => .invalidWalletState
  | missing _ => .missingField
  | program _ => .program
  | settings _ => .config
  | notASigner _ => .signing
  | signing _ => .signing
  | notConfirmed _ => .confirmationTimeout
  | transactionFailed _ _ => .transactionFailed
  | other _ => .other

def recordName : RecordKind → String
  | .wallet => "wallet"
  | .authority => "authority"
  | .session => "session"

def message : ClientError → String
  | connection reason => "Connection error: " ++ reason
  | accountNotFound key => "Account not found: " ++ key.toText
  | foreignAccount key owner =>
    "Invalid account data: " ++ key.toText ++ " is owned by " ++ owner.toText ++
      ", not the LazorKit program"
  | unreadableRecord kind cause =>
    "Invalid account data: " ++ recordName kind ++ " record: " ++ cause.message
  | authorityNotFound id => "Authority " ++ toString id.toNat ++ " not found in wallet"
  | misplacedWallet key =>
    "Invalid wallet state: " ++ key.toText ++ " does not derive from its wallet id"
  | missing field => "Missing required field: " ++ field.name
  | program cause => "Program error: " ++ cause.message
  | settings cause => "Configuration error: " ++ cause.message
  | notASigner key => "Signing error: " ++ key.toText ++ " is not a required signer"
  | signing reason => "Signing error: " ++ reason
  | notConfirmed signature => "Transaction " ++ signature.toText ++ " was not confirmed"
  | transactionFailed signature reason =>
    "Transaction " ++ signature.toText ++ " failed: " ++ reason
  | other reason => reason

/-- A program's answer as a client reports it. -/
def ofProgram {α : Type} (r : Except ProgramError α) : Except ClientError α := r.mapError .program

/-- A record's answer as a client reports it. -/
def ofRecord {α : Type} (r : Except RecordError α) : Except ClientError α :=
  ofProgram (SmartWallet.ofRecord r)

end ClientError

end SmartWallet
