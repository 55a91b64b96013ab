import Mathlib
import SmartWallet.Client.Settings
import SmartWallet.Proofs.Retries

/-!
# Doubling waits

A growing source gives its interval as the next wait and then lets the interval grow: by a factor,
or to the longest one as soon as the factor would lead there or beyond. A doubling policy sets such
a source to its first wait, the factor two and a longest wait of thirty seconds. The longest wait
is looked at only when the interval grows, so it bounds every wait but the first of a round. An
exponential schedule is such a source, in milliseconds.
-/

namespace SmartWallet

open WaitSource (next reset take take_succ Reaches Gives Endless)

/-! ## Growing sources -/

/-- The settings of a growing source, with the interval that it has come to. -/
structure Growth where
  /-- The interval that a restart goes back to. -/
  initial : Nat
  current : Nat
  factor : Nat
  longest : Nat
  /-- The part of the interval by which a wait may stray from it. -/
  jitter : ℚ
  /-- When the waits end, counted from the last start. -/
  timeLimit : Option Nat

namespace Growth

def withCurrent (g : Growth) (wait : Nat) : Growth := { g with current := wait }

/-- Multiplies the interval, or sets it to the longest one from where that would be exceeded. -/
def grown (g : Growth) : Growth :=
  g.withCurrent
    (if (g.longest : ℚ) / g.factor ≤ g.current then g.longest else g.factor * g.current)

/-- Neither chance nor the clock has a say in the waits. -/
structure Steady (g : Growth) : Prop where
  jitter : g.jitter = 0
  timeLimit : g.timeLimit = none

lemma grown_eq {g : Growth} (hfactor : 0 < g.factor) :
    g.grown = g.withCurrent (min (g.factor * g.current) g.longest) := by
  have hpos : (0 : ℚ) < g.factor := Nat.cast_pos.2 hfactor
  have hreach : (g.longest : ℚ) / g.factor ≤ g.current ↔ g.longest ≤ g.factor * g.current := by
    rw [div_le_iff₀' hpos]
    exact_mod_cast Iff.rfl
  rw [grown]
  split
  · next h => rw [min_eq_right (hreach.1 h)]
  · next h => rw [min_eq_left (Nat.le_of_not_le (mt hreach.2 h))]

/-- How a doubling policy sets its source. The source counts in any unit, of which a millisecond has
`perMilli`. -/
def doubling (perMilli initial : Nat) : Growth where
  initial := initial
  current := initial
  factor := 2
  longest := Schedule.longestWait * perMilli
  jitter := 0
  timeLimit := none

variable {perMilli initial w : Nat}

lemma steady_doubling : ((doubling perMilli initial).withCurrent w).Steady := ⟨rfl, rfl⟩

lemma grown_doubling : ((doubling perMilli initial).withCurrent w).grown =
    (doubling perMilli initial).withCurrent (min (2 * w) (Schedule.longestWait * perMilli)) :=
  grown_eq Nat.two_pos

end Growth

/-- A source whose waits are its interval, which grows with every wait and is set back by a
restart, as long as the settings leave nothing to chance or to the clock. -/
structure WaitSource.Grows {σ : Type} [WaitSource σ] (source : σ) (settings : σ → Growth) :
    Prop where
  waits : ∀ s, Reaches source s → (settings s).Steady → (next s).1 = some (settings s).current
  grown : ∀ s, Reaches source s → (settings s).Steady → settings (next s).2 = (settings s).grown
  restarts : ∀ s, Reaches source s →
    settings (reset s) = (settings s).withCurrent (settings s).initial

open WaitSource (Grows)

/-! ## Waits that double -/

/-- The first wait as it is given; then always twice the wait before, or the longest one if that is
less. -/
def doubled (longest first : Nat) : Nat → Nat
  | 0 => first
  | n + 1 => min (2 * doubled longest first n) longest

lemma doubled_of_next (longest first n : Nat) :
    doubled longest (min (2 * first) longest) n = doubled longest first (n + 1) := by
  induction n with
  | zero => rfl
  | succ n ih => exact congrArg (fun w => min (2 * w) longest) ih

lemma doubled_le {longest first : Nat} (hfirst : first ≤ longest) (n : Nat) :
    doubled longest first n ≤ longest := by
  cases n with
  | zero => exact hfirst
  | succ n => exact min_le_right _ _

namespace WaitSource.Grows

variable {σ : Type} [WaitSource σ] {source s : σ} {settings : σ → Growth}
  {perMilli initial w : Nat}

lemma settings_next (h : Grows source settings) (hs : Reaches source s)
    (hw : settings s = (Growth.doubling perMilli initial).withCurrent w) :
    settings (next s).2 = (Growth.doubling perMilli initial).withCurrent
      (min (2 * w) (Schedule.longestWait * perMilli)) := by
  rw [h.grown s hs (hw ▸ Growth.steady_doubling), hw, Growth.grown_doubling]

lemma settings_reset (h : Grows source settings) (hs : Reaches source s)
    (hw : settings s = (Growth.doubling perMilli initial).withCurrent w) :
    settings (reset s) = .doubling perMilli initial := by
  rw [h.restarts s hs, hw]
  rfl

/-- A doubling source keeps its settings, apart from the interval. -/
lemma exists_withCurrent (h : Grows source settings)
    (hset : settings source = .doubling perMilli initial) (hs : Reaches source s) :
    ∃ w, settings s = (Growth.doubling perMilli initial).withCurrent w := by
  induction hs with
  | start => exact ⟨initial, hset⟩
  | next hs ih =>
    obtain ⟨w, hw⟩ := ih
    exact ⟨_, h.settings_next hs hw⟩
  | reset hs ih =>
    obtain ⟨w, hw⟩ := ih
    exact ⟨initial, h.settings_reset hs hw⟩

lemma gives (h : Grows source settings) (hs : Reaches source s)
    (hw : settings s = (Growth.doubling perMilli initial).withCurrent w) :
    Gives s (doubled (Schedule.longestWait * perMilli) w) := by
  intro n
  -- for every interval, since the waits after the first one start from a grown one
  induction n generalizing s w with
  | zero => rfl
  | succ n ih =>
    have hwait : (next s).1 = some w := by
      rw [h.waits s hs (hw ▸ Growth.steady_doubling), hw]
      rfl
    rw [take_succ, hwait, ih hs.next (h.settings_next hs hw), List.range_succ_eq_map,
      List.map_cons, List.map_map]
    exact congrArg (some w :: ·)
      (List.map_congr_left fun i _ => congrArg some (doubled_of_next _ _ i))

/-- A doubling source always has another wait. -/
theorem endless (h : Grows source settings)
    (hset : settings source = .doubling perMilli initial) :
    Endless source (doubled (Schedule.longestWait * perMilli) initial) where
  gives := h.gives .start hset
  restarts s hs := by
    obtain ⟨w, hw⟩ := h.exists_withCurrent hset hs
    exact h.gives hs.reset (h.settings_reset hs hw)

end WaitSource.Grows

/-- What a doubling schedule is set to, in milliseconds, and how far it has come. -/
def Timetable.growth (t : Timetable) : Growth :=
  (Growth.doubling 1 t.schedule.first).withCurrent t.upcoming

/-- A doubling schedule is a growing source. -/
theorem Schedule.grows_start (initial : Nat) :
    Grows (exponential initial).start Timetable.growth where
  waits _ _ _ := rfl
  grown t ht _ := by
    obtain ⟨schedule, upcoming⟩ := t
    obtain rfl : schedule = exponential initial := schedule_of_reaches ht
    exact Growth.grown_doubling.symm
  restarts _ _ := rfl

/-! ## Policies -/

namespace Bounded

variable {σ : Type} [WaitSource σ] {source : σ} {m : UInt32} {b : Bounded σ} {waits : Nat → Nat}
  {ws : List Nat} {w : Nat}

lemma Offers.wait_eq (h : b.Offers ws) : (next b).1 = ws.head? := by
  cases ws with
  | nil => rw [next_of_spent h, List.head?_nil]
  | cons w ws => exact h.1

lemma Offers.next (h : b.Offers ws) : (WaitSource.next b).2.Offers ws.tail := by
  cases ws with
  | nil => rwa [next_of_spent h]
  | cons w ws => exact h.2

/-- Wherever a capped source has come to, it goes on with the rest of its waits. -/
lemma offers_of_reaches (h : Endless source waits) (hb : Reaches (ofSource source m) b) :
    ∃ k, b.Offers (((List.range m.toNat).map waits).drop k) := by
  induction hb with
  | start => exact ⟨0, offers_ofSource h⟩
  | next _ ih =>
    obtain ⟨k, hk⟩ := ih
    exact ⟨k + 1, List.tail_drop ▸ hk.next⟩
  | reset hb => exact ⟨0, offers_reset h hb⟩

lemma exists_of_next (h : Endless source waits) (hb : Reaches (ofSource source m) b)
    (hw : (next b).1 = some w) : ∃ i < m.toNat, waits i = w := by
  obtain ⟨k, hk⟩ := offers_of_reaches h hb
  have hhead : ((List.range m.toNat).map waits)[k]? = some w := by
    rw [← List.head?_drop, ← hk.wait_eq, hw]
  simpa using List.mem_of_getElem? hhead

/-- Waits that double, as many in every round as the cap says. The first one is as it is given,
however long, so none exceeds the longest one exactly if there is none or the first does not. -/
structure Doubles (b : Bounded σ) (cap : UInt32) (longest first : Nat) : Prop where
  waits : ∀ n, (take n b).1 = (List.range n).map fun i =>
    if i < cap.toNat then some (doubled longest first i) else none
  restarts : ∀ b', Reaches b b' → ∀ n, (take n (reset b')).1 = (take n b).1
  capped_iff : (∀ b', Reaches b b' → ∀ w, (WaitSource.next b').1 = some w → w ≤ longest) ↔
    cap = 0 ∨ first ≤ longest

theorem doubles_ofSource {settings : σ → Growth} {perMilli initial : Nat}
    (h : Grows source settings) (hset : settings source = .doubling perMilli initial) :
    (ofSource source m).Doubles m (Schedule.longestWait * perMilli) initial := by
  have hendless := h.endless hset
  refine ⟨take_ofSource hendless, fun b hb n => take_reset hendless hb n, ?_, ?_⟩
  · intro hall
    by_cases hm : m = 0
    · exact .inl hm
    · have hfirst : (WaitSource.next (ofSource source m)).1 = some initial :=
        (congrArg Prod.fst (next_of_ne_zero hm)).trans hendless.gives.next_eq
      exact .inr (hall _ .start initial hfirst)
  · intro hor b hb w hw
    obtain ⟨i, hi, rfl⟩ := exists_of_next hendless hb hw
    obtain hm | hfirst := hor
    · simp [hm] at hi
    · exact doubled_le hfirst i

end Bounded

/-- In every round the backoff of an exponential policy first gives the wait that it is set to,
however long, and each further wait is twice the one before, or the longest one if that is less. So
no wait exceeds the longest one exactly if there is none or the first one does not. The same holds
of any growing source in the place of the schedule, whatever unit it counts in. -/
theorem RetryPolicy.doubling_capped_iff (p : RetryPolicy) :
    (∀ initial, p.schedule = .exponential initial →
      p.backoff.Doubles p.maxRetries Schedule.longestWait initial) ∧
    ∀ (σ : Type) [WaitSource σ] (source : σ) (settings : σ → Growth) (perMilli initial : Nat),
      Grows source settings → settings source = .doubling perMilli initial →
        (p.cap source).Doubles p.maxRetries (Schedule.longestWait * perMilli) initial := by
  refine ⟨fun initial hschedule => ?_, fun σ _ source settings perMilli initial h hset =>
    Bounded.doubles_ofSource h hset⟩
  have hgrows := Schedule.grows_start initial
  rw [← hschedule] at hgrows
  have hset : p.schedule.start.growth = .doubling 1 initial := by
    rw [hschedule]
    rfl
  exact Bounded.doubles_ofSource hgrows hset

namespace Sample

/-- Settings whose first wait, a minute, is beyond the longest one. -/
def tardy : Settings := { (default : Settings) with retry := ⟨2, 60000, true⟩ }

/-- Reaches the longest wait with the third one. -/
def ramping : RetryPolicy := ⟨3, .exponential 10000⟩

theorem doubling_waits :
    (take 4 tardy.retryPolicy.backoff).1 = [some 60000, some 30000, none, none] ∧
      (take 4 (reset (take 1 tardy.retryPolicy.backoff).2)).1 =
        [some 60000, some 30000, none, none] ∧
      (¬∀ b, Reaches tardy.retryPolicy.backoff b → ∀ w, (next b).1 = some w →
        w ≤ Schedule.longestWait) ∧
      (take 4 ramping.backoff).1 = [some 10000, some 20000, some 30000, none] ∧
      (∀ b, Reaches ramping.backoff b → ∀ w, (next b).1 = some w → w ≤ Schedule.longestWait) ∧
      Grows (Schedule.exponential 10000).start Timetable.growth ∧
      (take 2 (tardy.retryPolicy.cap (Schedule.exponential 10000).start)).1 =
        [some 10000, some 20000] := by
  obtain ⟨htardy, hcap⟩ := RetryPolicy.doubling_capped_iff tardy.retryPolicy
  have hslow := htardy 60000 rfl
  have hramping := (RetryPolicy.doubling_capped_iff ramping).1 10000 rfl
  have hgrows := Schedule.grows_start 10000
  exact ⟨hslow.waits 4, (hslow.restarts _ (.next .start) 4).trans (hslow.waits 4),
    fun hall => absurd (hslow.capped_iff.1 hall) (by decide), hramping.waits 4,
    hramping.capped_iff.2 (.inr (by decide)), hgrows,
    (hcap _ _ _ 1 10000 hgrows rfl).waits 2⟩

/-- The longest wait does not bound the first one that settings ask for. -/
theorem first_wait_unbounded :
    ¬∀ s : Settings, s.retry.exponential = true → ∀ b, Reaches s.retryPolicy.backoff b →
      ∀ w, (next b).1 = some w → w ≤ Schedule.longestWait := by
  intro h
  exact absurd (h tardy rfl _ .start 60000 rfl) (by decide)

end Sample

end SmartWallet
