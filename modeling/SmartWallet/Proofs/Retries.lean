import Mathlib
import SmartWallet.Client.Retry

/-!
# Bounded retries

A capped source gives as many waits as its cap says and then none, and after a restart it gives the
same ones again. The source behind it only has to give a wait whenever it is asked, and to go back
to its first wait when it is started again. Attempts are made until one is final, and at most one
more of them than there are waits: so an operation that never succeeds and a transaction that never
lands are both given up after exactly that many attempts. The schedule of a policy is such a source,
and its backoff the capped one.
-/

namespace SmartWallet

open WaitSource (next reset take)

/-! ## Sources of waits -/

namespace WaitSource

variable {σ : Type} [WaitSource σ] {source : σ} {waits : Nat → Nat}

/-- What a source comes to when it is drawn from and started again in any order. -/
inductive Reaches (source : σ) : σ → Prop
  | start : Reaches source source
  | next {s : σ} (reached : Reaches source s) : Reaches source (WaitSource.next s).2
  | reset {s : σ} (reached : Reaches source s) : Reaches source (WaitSource.reset s)

/-- A source that gives a wait whenever it is asked: these ones, in order. -/
def Gives (source : σ) (waits : Nat → Nat) : Prop :=
  ∀ n, (take n source).1 = (List.range n).map fun i => some (waits i)

/-- A source that always has another wait, and that goes back to the first one when it is started
again. -/
structure Endless (source : σ) (waits : Nat → Nat) : Prop where
  gives : Gives source waits
  restarts : ∀ s, Reaches source s → Gives (reset s) waits

lemma take_succ (n : Nat) (source : σ) :
    (take (n + 1) source).1 = (next source).1 :: (take n (next source).2).1 := rfl

lemma Gives.next_eq (h : Gives source waits) : (next source).1 = some (waits 0) := by
  have hone := h 1
  rw [take_succ] at hone
  exact (List.cons.inj hone).1

lemma Gives.tail (h : Gives source waits) :
    Gives (next source).2 fun i => waits (i + 1) := by
  intro n
  have hsucc := h (n + 1)
  rw [take_succ, List.range_succ_eq_map, List.map_cons, List.map_map] at hsucc
  exact (List.cons.inj hsucc).2

end WaitSource

open WaitSource (Reaches Gives Endless)

namespace Schedule

/-- The waits of a schedule from the first one on. -/
def waits (s : Schedule) (n : Nat) : Nat := s.following^[n] s.first

lemma take_timetable (t : Timetable) (n : Nat) :
    (take n t).1 = (List.range n).map fun i => some (t.schedule.following^[i] t.upcoming) := by
  induction n generalizing t with
  | zero => rfl
  | succ n ih =>
    rw [WaitSource.take_succ, ih, List.range_succ_eq_map, List.map_cons, List.map_map]
    rfl

lemma schedule_of_reaches {s : Schedule} {t : Timetable} (h : Reaches s.start t) :
    t.schedule = s := by
  induction h with
  | start => rfl
  | next _ ih => exact ih
  | reset _ ih => exact ih

lemma endless_start (s : Schedule) : Endless s.start s.waits where
  gives n := take_timetable s.start n
  restarts t ht := by
    obtain rfl := schedule_of_reaches ht
    exact fun n => take_timetable t.schedule.start n

end Schedule

/-! ## Capped sources -/

namespace Bounded

variable {σ ε α : Type} [WaitSource σ] {source : σ} {b : Bounded σ} {m : UInt32}
  {waits : Nat → Nat} {ws past : List Nat} {w k made : Nat}

lemma next_of_spent (h : b.remaining = 0) : next b = (none, b) := if_pos h

lemma next_of_ne_zero (h : b.remaining ≠ 0) :
    next b = ((next b.inner).1,
      { b with inner := (next b.inner).2, remaining := b.remaining - 1 }) := if_neg h

/-- The waits that are left, in order. -/
def Offers : Bounded σ → List Nat → Prop
  | b, [] => b.remaining = 0
  | b, w :: ws => (next b).1 = some w ∧ Offers (next b).2 ws

lemma offers_of_gives {r : Nat} (hr : b.remaining.toNat = r) (h : Gives b.inner waits) :
    b.Offers ((List.range r).map waits) := by
  induction r generalizing b waits with
  | zero => exact UInt32.toNat_inj.1 hr
  | succ r ih =>
    have hne : b.remaining ≠ 0 := fun h0 => by simp [h0] at hr
    have hleft : (b.remaining - 1).toNat = r := by
      have hle : (1 : UInt32) ≤ b.remaining := UInt32.le_iff_toNat_le.2 (by simp [hr])
      rw [UInt32.toNat_sub_of_le _ _ hle, hr, UInt32.toNat_one, Nat.add_sub_cancel]
    rw [List.range_succ_eq_map, List.map_cons, List.map_map, Offers, next_of_ne_zero hne]
    exact ⟨h.next_eq, ih hleft h.tail⟩

lemma take_of_spent (h : b.remaining = 0) (n : Nat) :
    (take n b).1 = List.replicate n none := by
  induction n with
  | zero => rfl
  | succ n ih => rw [WaitSource.take_succ, next_of_spent h, ih, List.replicate_succ]

lemma take_of_offers (h : b.Offers ws) (n : Nat) :
    (take n b).1 = (List.range n).map fun i => ws[i]? := by
  induction ws generalizing b n with
  | nil => simp [take_of_spent h, List.map_const']
  | cons w ws ih =>
    obtain ⟨hnext, hrest⟩ := h
    cases n with
    | zero => rfl
    | succ n =>
      rw [WaitSource.take_succ, hnext, ih hrest, List.range_succ_eq_map, List.map_cons,
        List.map_map]
      rfl

lemma reaches_ofSource (h : Reaches (ofSource source m) b) :
    Reaches source b.inner ∧ b.maxRetries = m := by
  induction h with
  | start => exact ⟨.start, rfl⟩
  | @next s _ ih =>
    -- a spent cap leaves the source behind it as it is
    by_cases hspent : s.remaining = 0
    · rwa [next_of_spent hspent]
    · rw [next_of_ne_zero hspent]
      exact ⟨.next ih.1, ih.2⟩
  | reset _ ih => exact ⟨.reset ih.1, ih.2⟩

/-- A capped source gives the first waits of the one behind it. -/
lemma offers_ofSource (h : Endless source waits) :
    (ofSource source m).Offers ((List.range m.toNat).map waits) :=
  offers_of_gives rfl h.gives

lemma offers_reset (h : Endless source waits) (hb : Reaches (ofSource source m) b) :
    (reset b).Offers ((List.range m.toNat).map waits) := by
  obtain ⟨hreached, hcap⟩ := reaches_ofSource hb
  exact offers_of_gives (congrArg UInt32.toNat hcap) (h.restarts _ hreached)

lemma take_ofSource (h : Endless source waits) (n : Nat) :
    (take n (ofSource source m)).1 =
      (List.range n).map fun i => if i < m.toNat then some (waits i) else none := by
  rw [take_of_offers (offers_ofSource h)]
  refine List.map_congr_left fun i _ => ?_
  split
  · next hi => rw [List.getElem?_map, List.getElem?_range hi, Option.map_some]
  · next hi => exact List.getElem?_eq_none (by simpa using hi)

lemma take_reset (h : Endless source waits) (hb : Reaches (ofSource source m) b) (n : Nat) :
    (take n (reset b)).1 = (take n (ofSource source m)).1 := by
  rw [take_of_offers (offers_reset h hb), take_of_offers (offers_ofSource h)]

/-! ## Runs of attempts -/

variable {attempt : Nat → Attempt α} {answer : α}

lemma runFrom_of_final (h : attempt made = .final answer) :
    b.runFrom attempt made past = ⟨made + 1, past.reverse, answer⟩ := by
  rw [runFrom, h]

lemma runFrom_of_spent (h : attempt made = .passing answer) (hspent : b.remaining = 0) :
    b.runFrom attempt made past = ⟨made + 1, past.reverse, answer⟩ := by
  rw [runFrom, h]
  dsimp only
  split
  · rfl
  · next hnext => simp [next_of_spent hspent] at hnext

lemma runFrom_of_wait (h : attempt made = .passing answer) (hwait : (next b).1 = some w) :
    b.runFrom attempt made past = (next b).2.runFrom attempt (made + 1) (w :: past) := by
  rw [runFrom, h]
  dsimp only
  split
  · next hnext => simp [hnext] at hwait
  · next hnext =>
    rw [hnext] at hwait ⊢
    rw [Option.some.inj hwait]

/-- The attempt that a run ends with: the first one that is final, or else the last one. -/
structure Ends (attempt : Nat → Attempt α) (last k : Nat) (answer : α) : Prop where
  le_last : k ≤ last
  passed : ∀ i < k, ∃ a, attempt i = .passing a
  ended : attempt k = .final answer ∨ k = last ∧ attempt k = .passing answer

lemma Ends.tail {last : Nat} (h : Ends attempt (last + 1) (k + 1) answer) :
    Ends (fun i => attempt (i + 1)) last k answer where
  le_last := Nat.le_of_succ_le_succ h.le_last
  passed i hi := h.passed (i + 1) (Nat.succ_lt_succ hi)
  ended := h.ended.imp_right (And.imp_left Nat.succ.inj)

lemma runFrom_of_ends (hws : b.Offers ws)
    (h : Ends (fun i => attempt (made + i)) ws.length k answer) :
    b.runFrom attempt made past = ⟨made + k + 1, past.reverse ++ ws.take k, answer⟩ := by
  -- on the attempts that pass; each of them draws the first wait on offer
  induction k generalizing b ws made past with
  | zero =>
    rw [List.take_zero, List.append_nil]
    obtain hfinal | ⟨hlast, hpassing⟩ := h.ended
    · exact runFrom_of_final hfinal
    · obtain rfl := List.length_eq_zero_iff.1 hlast.symm
      exact runFrom_of_spent hpassing hws
  | succ k ih =>
    obtain ⟨a, ha : attempt made = .passing a⟩ := h.passed 0 k.succ_pos
    cases ws with
    | nil => exact absurd h.le_last (Nat.not_succ_le_zero k)
    | cons w ws =>
      obtain ⟨hnext, hrest⟩ := hws
      have hends : Ends (fun i => attempt (made + 1 + i)) ws.length k answer := by
        simpa only [Nat.add_assoc, Nat.add_comm 1] using h.tail
      rw [runFrom_of_wait ha hnext, ih hrest hends, List.reverse_cons, List.append_assoc,
        List.take_succ_cons, List.singleton_append, Nat.add_right_comm made 1 k,
        Nat.add_assoc made k 1]

/-- A run makes its attempts up to the one that ends it, with the first waits between them. -/
theorem run_of_ends (h : Endless source waits) (hends : Ends attempt m.toNat k answer) :
    (ofSource source m).run attempt = ⟨k + 1, (List.range k).map waits, answer⟩ := by
  have hall : Ends (fun i => attempt (0 + i)) ((List.range m.toNat).map waits).length k answer := by
    simpa only [Nat.zero_add, List.length_map, List.length_range] using hends
  rw [run, runFrom_of_ends (offers_ofSource h) hall, Nat.zero_add, List.reverse_nil,
    List.nil_append, ← List.map_take, List.take_range, Nat.min_eq_left hends.le_last]

/-! ## Operations and transactions -/

variable {operation : Nat → Except ε α} {a : α}

lemma retry_of_success (h : Endless source waits) (hk : k ≤ m.toNat) (hok : operation k = .ok a)
    (hfailed : ∀ i < k, ∃ e, operation i = .error e) :
    (ofSource source m).retry operation = ⟨k + 1, (List.range k).map waits, .ok a⟩ := by
  refine run_of_ends h ⟨hk, fun i hi => ?_, .inl (by rw [hok])⟩
  obtain ⟨e, he⟩ := hfailed i hi
  exact ⟨.error e, by rw [he]⟩

lemma retry_of_failure (h : Endless source waits)
    (hfailed : ∀ i ≤ m.toNat, ∃ e, operation i = .error e) :
    (ofSource source m).retry operation =
      ⟨m.toNat + 1, (List.range m.toNat).map waits, operation m.toNat⟩ := by
  refine run_of_ends h ⟨le_rfl, fun i hi => ?_, .inr ⟨rfl, ?_⟩⟩
  · obtain ⟨e, he⟩ := hfailed i hi.le
    exact ⟨.error e, by rw [he]⟩
  · obtain ⟨e, he⟩ := hfailed m.toNat le_rfl
    rw [he]

end Bounded

/-- What a status decides about a transaction, unless it is still open. -/
def TransactionStatus.verdict? (signature : Signature) :
    TransactionStatus → Option (Except ClientError Unit)
  | pending => none
  | landed => some (.ok ())
  | failed reason => some (.error (.transactionFailed signature reason))
  | unreachable reason => some (.error (.connection reason))

namespace Bounded

variable {σ : Type} [WaitSource σ] {source : σ} {m : UInt32} {waits : Nat → Nat} {k : Nat}
  {signature : Signature} {status : Nat → TransactionStatus} {answer : Except ClientError Unit}

/-- Asking goes on exactly as long as a status decides nothing. -/
lemma confirm_eq_run (b : Bounded σ) : b.confirm signature status = b.run fun n =>
    match (status n).verdict? signature with
    | some answer => .final answer
    | none => .passing (.error (.notConfirmed signature)) :=
  congrArg b.run (funext fun n => by cases status n <;> rfl)

lemma confirm_of_verdict (h : Endless source waits) (hk : k ≤ m.toNat)
    (hverdict : (status k).verdict? signature = some answer)
    (hpending : ∀ i < k, status i = .pending) :
    (ofSource source m).confirm signature status =
      ⟨k + 1, (List.range k).map waits, answer⟩ := by
  rw [confirm_eq_run]
  refine run_of_ends h ⟨hk, fun i hi => ⟨.error (.notConfirmed signature), ?_⟩,
    .inl (by rw [hverdict])⟩
  rw [hpending i hi, TransactionStatus.verdict?]

lemma confirm_of_pending (h : Endless source waits)
    (hpending : ∀ i ≤ m.toNat, status i = .pending) :
    (ofSource source m).confirm signature status =
      ⟨m.toNat + 1, (List.range m.toNat).map waits, .error (.notConfirmed signature)⟩ := by
  rw [confirm_eq_run]
  refine run_of_ends h ⟨le_rfl, fun i hi => ⟨.error (.notConfirmed signature), ?_⟩,
    .inr ⟨rfl, ?_⟩⟩
  · rw [hpending i hi.le, TransactionStatus.verdict?]
  · rw [hpending m.toNat le_rfl, TransactionStatus.verdict?]

end Bounded

/-! ## Policies -/

/-- Whatever endless source a policy caps, its waits are as many as the retries, the same ones after
every restart. An operation is run until its first success, and a transaction is asked about until
it is decided; when neither comes up, there is one attempt more than there are waits, and the last
one gives the answer. The attempts are apart by these waits. -/
theorem RetryPolicy.attempts_of_endless {σ ε α : Type} [WaitSource σ] (p : RetryPolicy) {source : σ}
    {waits : Nat → Nat} (h : Endless source waits) (operation : Nat → Except ε α)
    (signature : Signature) (status : Nat → TransactionStatus) :
    (∀ n, (take n (p.cap source)).1 =
        (List.range n).map fun i => if i < p.maxRetries.toNat then some (waits i) else none) ∧
      (∀ b, Reaches (p.cap source) b → ∀ n, (take n (reset b)).1 = (take n (p.cap source)).1) ∧
      (∀ k ≤ p.maxRetries.toNat, ∀ a, operation k = .ok a →
        (∀ i < k, ∃ e, operation i = .error e) →
        (p.cap source).retry operation = ⟨k + 1, (List.range k).map waits, .ok a⟩) ∧
      ((∀ i ≤ p.maxRetries.toNat, ∃ e, operation i = .error e) →
        (p.cap source).retry operation = ⟨p.maxRetries.toNat + 1,
          (List.range p.maxRetries.toNat).map waits, operation p.maxRetries.toNat⟩) ∧
      (∀ k ≤ p.maxRetries.toNat, ∀ answer, (status k).verdict? signature = some answer →
        (∀ i < k, status i = .pending) →
        (p.cap source).confirm signature status =
          ⟨k + 1, (List.range k).map waits, answer⟩) ∧
      ((∀ i ≤ p.maxRetries.toNat, status i = .pending) →
        (p.cap source).confirm signature status = ⟨p.maxRetries.toNat + 1,
          (List.range p.maxRetries.toNat).map waits, .error (.notConfirmed signature)⟩) := by
  refine ⟨Bounded.take_ofSource h, fun b hb n => Bounded.take_reset h hb n, ?_, ?_, ?_, ?_⟩
  · intro k hk a hok hfailed
    exact Bounded.retry_of_success h hk hok hfailed
  · exact Bounded.retry_of_failure h
  · intro k hk answer hverdict hpending
    exact Bounded.confirm_of_verdict h hk hverdict hpending
  · exact Bounded.confirm_of_pending h

/-- The backoff of a policy gives the first waits of its schedule, as many as the retries, and after
every restart the same ones again. A retry runs its operation until the first success, and a
confirmation asks until the transaction is decided; when neither comes up, both give up after one
attempt more than there are retries, with the answer of the last one. The waits of the backoff are
what lies between the attempts. -/
theorem RetryPolicy.attempts_bounded {ε α : Type} (p : RetryPolicy) (operation : Nat → Except ε α)
    (signature : Signature) (status : Nat → TransactionStatus) :
    (∀ n, (take n p.backoff).1 = (List.range n).map fun i =>
        if i < p.maxRetries.toNat then some (p.schedule.waits i) else none) ∧
      (∀ b, Reaches p.backoff b → ∀ n, (take n (reset b)).1 = (take n p.backoff).1) ∧
      (∀ k ≤ p.maxRetries.toNat, ∀ a, operation k = .ok a →
        (∀ i < k, ∃ e, operation i = .error e) →
        p.retry operation = ⟨k + 1, (List.range k).map p.schedule.waits, .ok a⟩) ∧
      ((∀ i ≤ p.maxRetries.toNat, ∃ e, operation i = .error e) →
        p.retry operation = ⟨p.maxRetries.toNat + 1,
          (List.range p.maxRetries.toNat).map p.schedule.waits, operation p.maxRetries.toNat⟩) ∧
      (∀ k ≤ p.maxRetries.toNat, ∀ answer, (status k).verdict? signature = some answer →
        (∀ i < k, status i = .pending) →
        p.confirm signature status =
          ⟨k + 1, (List.range k).map p.schedule.waits, answer⟩) ∧
      ((∀ i ≤ p.maxRetries.toNat, status i = .pending) →
        p.confirm signature status = ⟨p.maxRetries.toNat + 1,
          (List.range p.maxRetries.toNat).map p.schedule.waits,
          .error (.notConfirmed signature)⟩) :=
  p.attempts_of_endless p.schedule.endless_start operation signature status

namespace Sample

/-- The second wait is the longest one. -/
def patient : RetryPolicy := ⟨2, .exponential 20000⟩

/-- One more attempt, after half a second. -/
def prompt : RetryPolicy := ⟨1, .fixed 500⟩

/-- Succeeds the third time. -/
def thirdTime (n : Nat) : Except Nat String := if n < 2 then .error n else .ok "done"

/-- A transaction that fails when it lands. -/
def landsBadly (n : Nat) : TransactionStatus := if n = 0 then .pending else .failed "custom 1"

/-- Both policies give up in the end, each after its own number of attempts. -/
theorem policies_spent :
    (take 4 patient.backoff).1 = [some 20000, some 30000, none, none] ∧
      (take 4 (reset (take 3 patient.backoff).2)).1 =
        [some 20000, some 30000, none, none] ∧
      patient.retry thirdTime = ⟨3, [20000, 30000], .ok "done"⟩ ∧
      patient.retry (fun n => (.error n : Except Nat String)) = ⟨3, [20000, 30000], .error 2⟩ ∧
      patient.confirm (.replicate 64 9) landsBadly =
        ⟨2, [20000], .error (.transactionFailed (.replicate 64 9) "custom 1")⟩ ∧
      (take 3 prompt.backoff).1 = [some 500, none, none] ∧
      prompt.retry thirdTime = ⟨2, [500], .error 1⟩ ∧
      prompt.confirm (.replicate 64 9) (fun _ => .pending) =
        ⟨2, [500], .error (.notConfirmed (.replicate 64 9))⟩ := by
  obtain ⟨hwaits, hagain, hthird, -, hbadly, -⟩ :=
    RetryPolicy.attempts_bounded patient thirdTime (.replicate 64 9) landsBadly
  obtain ⟨-, -, -, hnever, -, -⟩ :=
    RetryPolicy.attempts_bounded patient (fun n => (.error n : Except Nat String))
      (.replicate 64 9) landsBadly
  obtain ⟨hprompt, -, -, htwice, -, hpending⟩ :=
    RetryPolicy.attempts_bounded prompt thirdTime (.replicate 64 9) fun _ => .pending
  -- two attempts are too few for the third to succeed
  have hfailed : ∀ i ≤ prompt.maxRetries.toNat, ∃ e, thirdTime i = .error e :=
    fun i hi => ⟨i, if_pos (Nat.lt_succ_of_le hi)⟩
  exact ⟨hwaits 4, (hagain _ (.next (.next (.next .start))) 4).trans (hwaits 4),
    hthird 2 (by decide) "done" rfl fun i hi => ⟨i, if_pos hi⟩, hnever fun i _ => ⟨i, rfl⟩,
    hbadly 1 (by decide) _ rfl fun i hi => if_pos (Nat.lt_one_iff.1 hi), hprompt 3,
    htwice hfailed, hpending fun _ _ => rfl⟩

end Sample

end SmartWallet
