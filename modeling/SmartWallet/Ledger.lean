import SmartWallet.Bytes
import SmartWallet.Error

/-!
# The ledger

Accounts by key, each with lamports and data, and the current slot. An instruction never writes by
itself: it returns a `Delta`, and `Ledger.apply` commits all of its writes or none.
-/

namespace SmartWallet

structure Account where
  lamports : UInt64
  data : List UInt8
deriving DecidableEq

/-- An account that has never been written. -/
def Account.empty : Account := ⟨0, []⟩

/-- A finite map from keys to accounts. -/
structure AccountMap where
  entries : List (Key × Account)
  nodup : (entries.map Prod.fst).Nodup
deriving DecidableEq

namespace AccountMap

def empty : AccountMap := ⟨[], List.nodup_nil⟩

def find? (m : AccountMap) (key : Key) : Option Account := m.entries.lookup key

/-- Replaces the entry of a key, or appends one. -/
def setEntry (key : Key) (a : Account) : List (Key × Account) → List (Key × Account)
  | [] => [(key, a)]
  | e :: rest => if e.1 = key then (key, a) :: rest else e :: setEntry key a rest

theorem mem_keys_setEntry {key k : Key} {a : Account} {entries : List (Key × Account)} :
    k ∈ (setEntry key a entries).map Prod.fst ↔ k = key ∨ k ∈ entries.map Prod.fst := by
  induction entries with
  | nil => simp [setEntry]
  | cons e rest ih =>
    unfold setEntry
    split
    · next h => simp [h]
    · simp only [List.map_cons, List.mem_cons, ih]
      exact or_left_comm

theorem nodup_setEntry {key : Key} {a : Account} {entries : List (Key × Account)}
    (h : (entries.map Prod.fst).Nodup) : ((setEntry key a entries).map Prod.fst).Nodup := by
  induction entries with
  | nil => simp [setEntry]
  | cons e rest ih =>
    have hr := List.nodup_cons.1 h
    unfold setEntry
    split
    · next he => exact List.nodup_cons.2 ⟨he ▸ hr.1, hr.2⟩
    · next he =>
      refine List.nodup_cons.2 ⟨fun hm => ?_, ih hr.2⟩
      rcases mem_keys_setEntry.1 hm with rfl | hm
      · exact he rfl
      · exact hr.1 hm

def set (m : AccountMap) (key : Key) (a : Account) : AccountMap :=
  ⟨setEntry key a m.entries, nodup_setEntry m.nodup⟩

def erase (m : AccountMap) (key : Key) : AccountMap :=
  ⟨m.entries.filter (·.1 ≠ key), List.Nodup.sublist (List.filter_sublist.map _) m.nodup⟩

/-- The account of a key, new if there is none. -/
def getD (m : AccountMap) (key : Key) : Account := (m.find? key).getD .empty

end AccountMap

/-- One change of an account. -/
inductive Write
  /-- Creates the account or overwrites its data. -/
  | store (key : Key) (data : List UInt8)
  /-- Deletes the account and sends its lamports elsewhere. -/
  | close (key refundTo : Key)
deriving DecidableEq

/-- The writes of one instruction, in order. -/
abbrev Delta := List Write

/-- The data that the delta leaves stored at a key, by its last store there. -/
def Delta.stored? (delta : Delta) (key : Key) : Option (List UInt8) :=
  delta.reverse.findSome? fun w =>
    match w with
    | .store k data => if k = key then some data else none
    | .close .. => none

namespace AccountMap

/-- Carries out one write. Closing fails if the account does not exist or if its lamports do not fit
the refund's. -/
def write (m : AccountMap) : Write → Except ProgramError AccountMap
  | .store key data => .ok (m.set key { m.getD key with data := data })
  | .close key refundTo => do
    let closed ← orError .invalidAccountData (m.find? key)
    let m := m.erase key
    let refund := m.getD refundTo
    ensure (refund.lamports.toNat + closed.lamports.toNat < UInt64.size) .invalidAccountData
    pure (m.set refundTo { refund with lamports := refund.lamports + closed.lamports })

/-- Carries out writes in order. -/
def writeAll (m : AccountMap) : Delta → Except ProgramError AccountMap
  | [] => .ok m
  | w :: rest => do
    let m ← m.write w
    m.writeAll rest

end AccountMap

structure Ledger where
  accounts : AccountMap
  slot : UInt64
deriving DecidableEq

namespace Ledger

def empty : Ledger := ⟨.empty, 0⟩

def account? (l : Ledger) (key : Key) : Option Account := l.accounts.find? key

def lamports (l : Ledger) (key : Key) : UInt64 := (l.accounts.getD key).lamports

/-- The data of an account, which programs see only if there is some. -/
def data? (l : Ledger) (key : Key) : Option (List UInt8) :=
  ((l.account? key).map Account.data).filter (· ≠ [])

/-- Every account with its key, ascending by key. -/
def listing (l : Ledger) : List (Key × Account) :=
  l.accounts.entries.mergeSort fun a b => a.1.le b.1

def setSlot (l : Ledger) (slot : UInt64) : Ledger := { l with slot := slot }

/-- Moves the slot forward, at most to the last one. -/
def warp (l : Ledger) (slots : UInt64) : Ledger :=
  l.setSlot (if l.slot.toNat + slots.toNat < UInt64.size then l.slot + slots else 0xffffffffffffffff)

def setLamports (l : Ledger) (key : Key) (lamports : UInt64) : Ledger :=
  { l with accounts := l.accounts.set key { l.accounts.getD key with lamports := lamports } }

/-- Commits every write of the delta; if one fails, the ledger stays as it was. -/
def apply (l : Ledger) (delta : Delta) : Except ProgramError Ledger := do
  let accounts ← l.accounts.writeAll delta
  pure { l with accounts := accounts }

end Ledger

end SmartWallet
