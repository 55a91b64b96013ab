import SmartWallet.Client.Error

/-!
# Retries

A `WaitSource` gives waits one after another and can be started again. A `Schedule` is an endless
one, in exact milliseconds, where `Schedule.pause` is how long a wait lasts; `Bounded` caps any
source at a number of waits, and a retry policy is a schedule with its cap. `Bounded.run` makes
attempts, each after the next wait, until one is final or no wait is left; `Bounded.retry` and
`Bounded.confirm` are its two uses.
-/

namespace SmartWallet

/-- A sequence of waits that are drawn one by one. -/
class WaitSource (σ : Type) where
  /-- The next wait, unless there is none, and what is left after it. -/
  next : σ → Option Nat × σ
  /-- Starts the sequence again. -/
  reset : σ → σ

/-- Draws a number of waits. -/
def WaitSource.take {σ : Type} [WaitSource σ] : Nat → σ → List (Option Nat) × σ
  | 0, source => ([], source)
  | n + 1, source =>
    let (wait?, source) := next source
    let (waits, source) := take n source
    (wait? :: waits, source)

/-- An endless sequence of waits, in milliseconds. -/
inductive Schedule
  | fixed (wait : Nat)
  /-- Doubles after every wait, up to the longest one. The first wait is as it is given. -/
  | exponential (initial : Nat)
deriving DecidableEq

namespace Schedule

/-- The longest wait that doubling leads to: thirty seconds. -/
def longestWait : Nat := 30000

def first : Schedule → Nat
  | fixed wait => wait
  | exponential initial => initial

def following : Schedule → Nat → Nat
  | fixed wait, _ => wait
  | exponential _, wait => min (2 * wait) longestWait

/-- How long a wait lasts, in nanoseconds. An exponential schedule counts them in a float, which is
exact up to 2^53, and takes the part below a second from a 64-bit word that saturates. -/
def pause : Schedule → Nat → Nat
  | fixed _, wait => wait * 1000000
  | exponential _, wait =>
    let nanos := (wait / 1000).toFloat * 1e9 + (wait % 1000 * 1000000).toFloat
    (nanos / 1e9).toUInt64.toNat * 1000000000 + nanos.toUInt64.toNat % 1000000000

/-- How long a wait lasts, in whole milliseconds to the nearest. -/
def pauseMillis (s : Schedule) (wait : Nat) : UInt64 := ((s.pause wait + 500000) / 1000000).toUInt64

end Schedule

/-- A schedule that has been drawn from. -/
structure Timetable where
  schedule : Schedule
  upcoming : Nat
deriving DecidableEq

def Schedule.start (s : Schedule) : Timetable := ⟨s, s.first⟩

instance : WaitSource Timetable where
  next t := (some t.upcoming, { t with upcoming := t.schedule.following t.upcoming })
  reset t := t.schedule.start

/-- A source that stops after a number of waits. -/
structure Bounded (σ : Type) where
  inner : σ
  maxRetries : UInt32
  remaining : UInt32
deriving DecidableEq

namespace Bounded

variable {σ : Type}

def ofSource (inner : σ) (maxRetries : UInt32) : Bounded σ := ⟨inner, maxRetries, maxRetries⟩

instance [WaitSource σ] : WaitSource (Bounded σ) where
  next b :=
    if b.remaining = 0 then (none, b)
    else
      let (wait?, inner) := WaitSource.next b.inner
      (wait?, { b with inner := inner, remaining := b.remaining - 1 })
  reset b := { b with inner := WaitSource.reset b.inner, remaining := b.maxRetries }

theorem remaining_lt_of_next [WaitSource σ] {b b' : Bounded σ} {wait : Nat}
    (h : WaitSource.next b = (some wait, b')) : b'.remaining.toNat < b.remaining.toNat := by
  simp only [WaitSource.next] at h
  split at h
  · cases h
  · next hne =>
    rw [Prod.mk.injEq] at h
    obtain ⟨-, rfl⟩ := h
    have hpos : b.remaining.toNat ≠ 0 := fun h0 => hne (UInt32.toNat_inj.1 h0)
    have hlt : b.remaining.toNat < 2 ^ 32 := b.remaining.toNat_lt
    simp only [UInt32.toNat_sub, UInt32.toNat_one]
    omega

end Bounded

structure RetryPolicy where
  /-- Attempts after the first one. -/
  maxRetries : UInt32
  schedule : Schedule
deriving DecidableEq

/-- Caps the waits of a source as a policy says. -/
def RetryPolicy.cap {σ : Type} (p : RetryPolicy) (source : σ) : Bounded σ :=
  .ofSource source p.maxRetries

/-- The waits of a policy. -/
def RetryPolicy.backoff (p : RetryPolicy) : Bounded Timetable := p.cap p.schedule.start

/-- Draws waits in rounds, after each of which the sequence starts again, and tells how long they
last. -/
def Bounded.rounds (b : Bounded Timetable) : List Nat → List (List (Option UInt64))
  | [] => []
  | count :: counts =>
    let (waits, left) := WaitSource.take count b
    waits.map (·.map b.inner.schedule.pauseMillis) :: (WaitSource.reset left).rounds counts

/-- What an attempt comes to: an answer that ends the run, or one that stands if no attempt is
left. -/
inductive Attempt (α : Type)
  | final (answer : α)
  | passing (answer : α)

/-- A run of attempts, with the waits between them. -/
structure AttemptRun (α : Type) where
  attempts : Nat
  waits : List Nat
  answer : α

namespace Bounded

variable {σ ε α : Type} [WaitSource σ]

/-- Goes on after the given number of attempts and the given waits, the latest first. -/
def runFrom (attempt : Nat → Attempt α) (b : Bounded σ) (made : Nat) (waits : List Nat) :
    AttemptRun α :=
  match attempt made with
  | .final answer => ⟨made + 1, waits.reverse, answer⟩
  | .passing answer =>
    match h : WaitSource.next b with
    | (none, _) => ⟨made + 1, waits.reverse, answer⟩
    | (some wait, b') =>
      have := remaining_lt_of_next h
      runFrom attempt b' (made + 1) (wait :: waits)
termination_by b.remaining.toNat

/-- Makes attempts, numbered from zero, until one is final or no wait is left. -/
def run (b : Bounded σ) (attempt : Nat → Attempt α) : AttemptRun α := b.runFrom attempt 0 []

end Bounded

/-- What a cluster says about a transaction when it is asked. -/
inductive TransactionStatus
  | pending
  | landed
  | failed (reason : String)
  /-- The question itself failed. -/
  | unreachable (reason : String)
deriving DecidableEq

namespace Bounded

variable {σ ε α : Type} [WaitSource σ]

/-- Repeats an operation until it succeeds. -/
def retry (b : Bounded σ) (operation : Nat → Except ε α) : AttemptRun (Except ε α) :=
  b.run fun n =>
    match operation n with
    | .ok a => .final (.ok a)
    | .error e => .passing (.error e)

/-- Asks for a transaction's status until it has landed. -/
def confirm (b : Bounded σ) (signature : Signature) (status : Nat → TransactionStatus) :
    AttemptRun (Except ClientError Unit) :=
  b.run fun n =>
    match status n with
    | .pending => .passing (.error (.notConfirmed signature))
    | .landed => .final (.ok ())
    | .failed reason => .final (.error (.transactionFailed signature reason))
    | .unreachable reason => .final (.error (.connection reason))

end Bounded

namespace RetryPolicy

def retry {ε α : Type} (p : RetryPolicy) (operation : Nat → Except ε α) :
    AttemptRun (Except ε α) :=
  p.backoff.retry operation

def confirm (p : RetryPolicy) (signature : Signature) (status : Nat → TransactionStatus) :
    AttemptRun (Except ClientError Unit) :=
  p.backoff.confirm signature status

end RetryPolicy

end SmartWallet
