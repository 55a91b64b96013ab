import SmartWallet.Client.Retry
import SmartWallet.Deployment
import SmartWallet.Text.Number
import SmartWallet.Toml.Document

/-!
# Client settings

Settings come from a TOML document and then from environment variables, which are preferred. Every
setting has a default, so an empty document is valid, and entries that are no settings are ignored.
-/

namespace SmartWallet

/-- How final an answer of the cluster must be. -/
inductive Commitment
  | processed
  | confirmed
  | finalized
deriving DecidableEq

instance : Named Commitment where
  all := [.processed, .confirmed, .finalized]
  name
    | .processed => "processed"
    | .confirmed => "confirmed"
    | .finalized => "finalized"
  mem_all a := by cases a <;> decide

structure RetrySettings where
  maxRetries : UInt32
  /-- In milliseconds. -/
  delay : UInt64
  /-- Double the delay after every attempt. -/
  exponential : Bool
deriving DecidableEq

instance : Inhabited RetrySettings := ⟨30, 500, false⟩

structure Settings where
  rpcUrl : String
  commitment : Commitment
  /-- The text of the wallet program's address. -/
  program : String
  /-- The text of the policy program's address. -/
  policyProgram : String
  seedScheme : SeedScheme
  profile : DiscriminatorProfile
  maxSessionSlots : UInt64
  retry : RetrySettings
deriving DecidableEq

instance : Inhabited Settings where
  default :=
    { rpcUrl := "http://127.0.0.1:8899"
      commitment := .confirmed
      program := Deployment.programText
      policyProgram := Deployment.policyProgramText
      seedScheme := .wallet
      profile := .compact
      maxSessionSlots := Deployment.defaultMaxSessionSlots
      retry := default }

namespace Toml

namespace Item

def string? : Item → Option String
  | string text => some text
  | _ => none

def boolean? : Item → Option Bool
  | boolean value => some value
  | _ => none

/-- An integer that is not negative and below a limit. -/
def natBelow? (limit : Nat) : Item → Option Nat
  | integer (.ofNat n) => if n < limit then some n else none
  | _ => none

def uint32? (item : Item) : Option UInt32 := (item.natBelow? UInt32.size).map UInt32.ofNat

def uint64? (item : Item) : Option UInt64 := (item.natBelow? UInt64.size).map UInt64.ofNat

/-- Whether the item is an array or a table without any entry. -/
def isEmpty : Item → Bool
  | array items => items.isEmpty
  | table _ entries => entries.isEmpty
  | tables items => items.isEmpty
  | _ => false

/-- A value of an enumeration: its name as a string, or as the only key of a table over something
empty. -/
def named? {α : Type} [Named α] : Item → Option α
  | string text => Named.ofName? text
  | table _ [(key, item)] => if item.isEmpty then Named.ofName? key else none
  | _ => none

end Item

/-- The value of a setting, or its default if it is not given. -/
def Entries.setting {α : Type} (entries : Entries) (key : String) (read : Item → Option α)
    (fallback : α) : Option α :=
  match entries.lookup key with
  | none => some fallback
  | some item => read item

end Toml

namespace RetrySettings

/-- The settings of a table. -/
def ofEntries? (entries : Toml.Entries) : Option RetrySettings := do
  let d : RetrySettings := default
  let maxRetries ← entries.setting "max_retries" Toml.Item.uint32? d.maxRetries
  let delay ← entries.setting "delay_ms" Toml.Item.uint64? d.delay
  let exponential ← entries.setting "exponential" Toml.Item.boolean? d.exponential
  pure ⟨maxRetries, delay, exponential⟩

/-- The settings by position; further items are ignored. -/
def ofItems? (items : List Toml.Item) : Option RetrySettings := do
  let at? {α : Type} (i : Nat) (read : Toml.Item → Option α) (fallback : α) : Option α :=
    match items[i]? with
    | none => some fallback
    | some item => read item
  let d : RetrySettings := default
  let maxRetries ← at? 0 Toml.Item.uint32? d.maxRetries
  let delay ← at? 1 Toml.Item.uint64? d.delay
  let exponential ← at? 2 Toml.Item.boolean? d.exponential
  pure ⟨maxRetries, delay, exponential⟩

/-- A table by name, or an array by position. A date stands for a table without any setting. -/
def ofItem? : Toml.Item → Option RetrySettings
  | .table _ entries => ofEntries? entries
  | .array items => ofItems? items
  | .tables items => ofItems? (items.map (.table .header))
  | .datetime => some default
  | _ => none

end RetrySettings

namespace Settings

def ofEntries? (entries : Toml.Entries) : Option Settings := do
  let d : Settings := default
  let rpcUrl ← entries.setting "rpc_url" Toml.Item.string? d.rpcUrl
  let commitment ← entries.setting "commitment" Toml.Item.named? d.commitment
  let program ← entries.setting "program_id" Toml.Item.string? d.program
  let policyProgram ← entries.setting "policy_program_id" Toml.Item.string? d.policyProgram
  let seedScheme ← entries.setting "seed_scheme" Toml.Item.named? d.seedScheme
  let profile ← entries.setting "discriminator_profile" Toml.Item.named? d.profile
  let maxSessionSlots ← entries.setting "max_session_slots" Toml.Item.uint64? d.maxSessionSlots
  let retry ← entries.setting "retry" RetrySettings.ofItem? d.retry
  pure ⟨rpcUrl, commitment, program, policyProgram, seedScheme, profile, maxSessionSlots, retry⟩

/-- The settings of a document. -/
def ofText (text : String) : Except SettingsError Settings :=
  orError .malformedText ((Toml.parse? text).bind ofEntries?)

/-- The settings of a file, given what reading it came to. -/
def ofFile (path : String) (contents : Except String String) : Except SettingsError Settings := do
  let text ← contents.mapError (.unreadableFile path)
  ofText text

/-- The number in an environment variable, or the setting as it was. -/
def numberOr (fallback limit : Nat) (lookup : String → Option String) (name : String) :
    Except SettingsError Nat :=
  match lookup name with
  | none => .ok fallback
  | some value => orError (.notANumber name value) (Text.natBelow? limit value)

/-- Replaces settings by the environment variables that are set. -/
def withEnvironment (s : Settings) (lookup : String → Option String) :
    Except SettingsError Settings := do
  let maxRetries ←
    numberOr s.retry.maxRetries.toNat UInt32.size lookup "LAZORKIT_MAX_RETRIES"
  let delay ← numberOr s.retry.delay.toNat UInt64.size lookup "LAZORKIT_RETRY_DELAY_MS"
  pure { s with
    rpcUrl := (lookup "LAZORKIT_RPC_URL").getD s.rpcUrl
    program := (lookup "LAZORKIT_PROGRAM_ID").getD s.program
    policyProgram := (lookup "LAZORKIT_POLICY_PROGRAM_ID").getD s.policyProgram
    retry := { s.retry with maxRetries := .ofNat maxRetries, delay := .ofNat delay } }

/-- The address that a setting writes. -/
def key (field text : String) : Except SettingsError Key :=
  (Key.ofText text).mapError (.invalidKey field text)

def programKey (s : Settings) : Except SettingsError Key := key "program_id" s.program

def policyProgramKey (s : Settings) : Except SettingsError Key :=
  key "policy_program_id" s.policyProgram

/-- The deployment that the settings describe. -/
def deployment (s : Settings) : Except SettingsError Deployment := do
  let program ← s.programKey
  let policyProgram ← s.policyProgramKey
  pure ⟨program, policyProgram, s.seedScheme, s.profile, s.maxSessionSlots⟩

def retryPolicy (s : Settings) : RetryPolicy :=
  let delay := s.retry.delay.toNat
  ⟨s.retry.maxRetries, if s.retry.exponential then .exponential delay else .fixed delay⟩

end Settings

end SmartWallet
