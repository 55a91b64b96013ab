import SmartWallet.Batch

/-!
# Packing calls

`Batch.pack` turns calls into a batch over a given list of fixed accounts. Every other account gets
the next free index when it is met first, a call's program before its accounts, and is handed back
with the union of the privileges asked for it.
-/

namespace SmartWallet

/-- The accounts that have an index: the fixed ones, then those met so far. -/
structure AccountTable where
  fixed : List Key
  added : List AccountRef
deriving DecidableEq

namespace AccountTable

/-- The most accounts that a one-byte index reaches. -/
def maxAccounts : Nat := 256

/-- Widens the privileges of the first added account with the key. -/
def widen (key : Key) (role : AccountRole) : List AccountRef → List AccountRef
  | [] => []
  | a :: rest =>
    if a.key = key then ((AccountRole.ofRef a).merge role).toRef key :: rest
    else a :: widen key role rest

/-- The index of a key in a role. A fixed account keeps its first index and its privileges. -/
def register (t : AccountTable) (key : Key) (role : AccountRole) :
    Except ProgramError (AccountTable × UInt8) :=
  match t.fixed.findIdx? (· == key) with
  | some i => .ok (t, UInt8.ofNat i)
  | none =>
    match t.added.findIdx? (·.key == key) with
    | some i => .ok ({ t with added := widen key role t.added }, UInt8.ofNat (t.fixed.length + i))
    | none => do
      let i := t.fixed.length + t.added.length
      ensure (i < maxAccounts) .tooManyAccounts
      pure ({ t with added := t.added ++ [role.toRef key] }, UInt8.ofNat i)

/-- The indexes of a list of references. -/
def registerAll (t : AccountTable) : List AccountRef →
    Except ProgramError (AccountTable × List UInt8)
  | [] => .ok (t, [])
  | a :: rest => do
    let (t, i) ← t.register a.key (.ofRef a)
    let (t, is) ← t.registerAll rest
    pure (t, i :: is)

/-- Packs one call. -/
def packCall (t : AccountTable) (call : Call) :
    Except ProgramError (AccountTable × PackedCall) := do
  ensure (call.accounts.length ≤ PackedCall.maxAccounts) .tooManyAccounts
  ensure (call.data.length ≤ PackedCall.maxData) .malformedInstruction
  let (t, program) ← t.register call.program .readonly
  let (t, accounts) ← t.registerAll call.accounts
  pure (t, ⟨program, accounts, call.accounts.map .ofRef, call.data⟩)

/-- Packs calls one after the other. -/
def packCalls (t : AccountTable) : List Call → Except ProgramError (AccountTable × List PackedCall)
  | [] => .ok (t, [])
  | call :: rest => do
    let (t, packed) ← t.packCall call
    let (t, more) ← t.packCalls rest
    pure (t, packed :: more)

end AccountTable

/-- The bytes of a batch with the accounts to append after the fixed ones. -/
structure PackedBatch where
  bytes : List UInt8
  remaining : List AccountRef
deriving DecidableEq

/-- Packs calls over a list of fixed accounts. -/
def Batch.pack (calls : List Call) (fixed : List Key) : Except ProgramError PackedBatch := do
  ensure (calls.length ≤ Batch.maxCalls) .tooManyInstructions
  ensure (fixed.length ≤ AccountTable.maxAccounts) .tooManyAccounts
  let (table, packed) ← AccountTable.packCalls ⟨fixed, []⟩ calls
  let bytes ← Batch.encode packed
  pure ⟨bytes, table.added⟩

end SmartWallet
