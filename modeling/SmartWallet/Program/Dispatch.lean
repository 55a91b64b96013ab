import SmartWallet.AccountRef

/-!
# Handing calls over

The host carries out the calls of an execution. A `Dispatcher` is the host's side of it, and a
`DispatchLog` is what an execution handed over: calls in order, up to the first one refused.
-/

namespace SmartWallet

/-- A call with the seeds of the address that signs for it. -/
structure Dispatch where
  call : Call
  seeds : List (List UInt8)
deriving DecidableEq

/-- Whether a call is carried out, after the calls that the same execution has handed over. -/
abbrev Dispatcher := List Dispatch → Dispatch → Bool

namespace Dispatcher

/-- Carries out every call. -/
def acceptAll : Dispatcher := fun _ _ => true

/-- Refuses the call after the given number of calls. -/
def refuseAt (count : Nat) : Dispatcher := fun earlier _ => earlier.length ≠ count

end Dispatcher

/-- The calls that were handed over. -/
structure DispatchLog where
  accepted : List Dispatch
  refused : Option Dispatch
deriving DecidableEq

namespace DispatchLog

/-- Nothing was handed over. -/
def empty : DispatchLog := ⟨[], none⟩

/-- Hands calls over in order, after those already accepted, until one is refused. -/
def record (dispatcher : Dispatcher) (accepted : List Dispatch) : List Dispatch → DispatchLog
  | [] => ⟨accepted, none⟩
  | d :: rest =>
    if dispatcher accepted d then record dispatcher (accepted ++ [d]) rest else ⟨accepted, some d⟩

end DispatchLog

end SmartWallet
