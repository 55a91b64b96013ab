import Mathlib
import SmartWallet.Error

/-!
# Sequences of checks

An instruction is a sequence of checks, and it succeeds when all of them do. These lemmas take a
successful sequence apart from the front, one check at a time, and a failed one at the check that
fails first.
-/

namespace SmartWallet

variable {ε α β : Type}

lemma bind_eq_ok_iff {x : Except ε α} {f : α → Except ε β} {b : β} :
    x >>= f = .ok b ↔ ∃ a, x = .ok a ∧ f a = .ok b := by
  cases x with
  | error e => simp [Bind.bind, Except.bind]
  | ok a => simp [Bind.bind, Except.bind]

lemma map_eq_ok_iff {x : Except ε α} {f : α → β} {b : β} :
    x.map f = .ok b ↔ ∃ a, x = .ok a ∧ f a = b := by
  cases x with
  | error e => simp [Except.map]
  | ok a => simp [Except.map]

lemma pure_eq_ok_iff {a b : α} : (pure a : Except ε α) = .ok b ↔ a = b := by
  simp [Pure.pure, Except.pure]

lemma mapError_eq_ok_iff {ε' : Type} {x : Except ε α} {f : ε → ε'} {a : α} :
    x.mapError f = .ok a ↔ x = .ok a := by
  cases x with
  | error e => simp [Except.mapError]
  | ok b => simp [Except.mapError]

lemma ensure_eq_ok {p : Prop} [Decidable p] {e : ε} {u : Unit} : ensure p e = .ok u ↔ p :=
  ensure_eq_ok_iff

/-- A list of checks succeeds when each of them does. -/
lemma mapM_eq_ok_iff {f : α → Except ε β} {l : List α} {l' : List β} :
    l.mapM f = .ok l' ↔ List.Forall₂ (fun a b => f a = .ok b) l l' := by
  induction l generalizing l' with
  | nil =>
    rw [List.mapM_nil, pure_eq_ok_iff, List.forall₂_nil_left_iff]
    exact eq_comm
  | cons a l ih =>
    simp only [List.mapM_cons, bind_eq_ok_iff, pure_eq_ok_iff, ih, List.forall₂_cons_left_iff]
    constructor
    · rintro ⟨b, hb, bs, hbs, rfl⟩
      exact ⟨b, bs, hb, hbs, rfl⟩
    · rintro ⟨b, bs, hb, hbs, rfl⟩
      exact ⟨b, hb, bs, hbs, rfl⟩

lemma exists_of_forall₂ {R : α → β → Prop} {l : List α} {l' : List β} {a : α}
    (h : List.Forall₂ R l l') (ha : a ∈ l) : ∃ b ∈ l', R a b := by
  induction h with
  | nil => cases ha
  | @cons c d l l' hcd _ ih =>
    rcases List.mem_cons.1 ha with rfl | ha
    · exact ⟨d, List.mem_cons_self .., hcd⟩
    · obtain ⟨b, hb, hab⟩ := ih ha
      exact ⟨b, List.mem_cons_of_mem _ hb, hab⟩

@[simp] lemma bind_eq_error_iff {x : Except ε α} {f : α → Except ε β} {e : ε} :
    x >>= f = .error e ↔ x = .error e ∨ ∃ a, x = .ok a ∧ f a = .error e := by
  cases x with
  | error e' => simp [Bind.bind, Except.bind]
  | ok a => simp [Bind.bind, Except.bind]

lemma bind_of_error {x : Except ε α} {f : α → Except ε β} {e : ε} (h : x = .error e) :
    x >>= f = .error e :=
  bind_eq_error_iff.2 (.inl h)

lemma bind_of_ok {x : Except ε α} {f : α → Except ε β} {a : α} {e : ε} (h : x = .ok a)
    (hf : f a = .error e) : x >>= f = .error e :=
  bind_eq_error_iff.2 (.inr ⟨a, h, hf⟩)

@[simp] lemma map_eq_error_iff {x : Except ε α} {f : α → β} {e : ε} :
    f <$> x = .error e ↔ x = .error e := by
  cases x with
  | error e' => simp [Functor.map, Except.map]
  | ok a => simp [Functor.map, Except.map]

@[simp] lemma pure_ne_error {a : α} {e : ε} : (pure a : Except ε α) ≠ .error e := nofun

@[simp] lemma orError_eq_error_iff {a? : Option α} {e e' : ε} :
    orError e a? = .error e' ↔ a? = none ∧ e = e' := by
  cases a? with
  | none => simp [orError]
  | some a => simp [orError]

@[simp] lemma ensure_eq_error_iff {p : Prop} [Decidable p] {e e' : ε} :
    ensure p e = .error e' ↔ ¬p ∧ e = e' := by
  unfold ensure
  split <;> simp_all

/-- A list of checks fails as the first of them that does. -/
lemma mapM_eq_error_iff {f : α → Except ε β} {l : List α} {e : ε} :
    l.mapM f = .error e ↔ ∃ before a after, l = before ++ a :: after ∧
      (∀ b ∈ before, ∃ y, f b = .ok y) ∧ f a = .error e := by
  induction l with
  | nil => simp [Pure.pure, Except.pure]
  | cons a l ih =>
    simp only [List.mapM_cons, bind_eq_error_iff, ih]
    constructor
    · rintro (ha | ⟨y, hy, ⟨before, b, after, rfl, hbefore, hb⟩ | ⟨_, _, ⟨⟩⟩⟩)
      · exact ⟨[], a, l, rfl, by simp, ha⟩
      · refine ⟨a :: before, b, after, rfl, ?_, hb⟩
        rintro c (_ | ⟨_, hc⟩)
        · exact ⟨y, hy⟩
        · exact hbefore c hc
    · rintro ⟨before, b, after, hsplit, hbefore, hb⟩
      cases before with
      | nil =>
        cases hsplit
        exact .inl hb
      | cons c before =>
        cases hsplit
        obtain ⟨y, hy⟩ := hbefore a (List.mem_cons_self ..)
        exact .inr ⟨y, hy, .inl ⟨before, b, after, rfl,
          fun c hc => hbefore c (List.mem_cons_of_mem _ hc), hb⟩⟩

lemma mapM_ne_error {f : α → Except ε β} {l : List α} {e : ε} (h : ∀ a, f a ≠ .error e) :
    l.mapM f ≠ .error e := by
  rw [Ne, mapM_eq_error_iff]
  rintro ⟨_, a, _, -, -, ha⟩
  exact h a ha

/-! ## Checks with one error -/

/-- The checks fail in one way only. -/
def FailsBy (e : ε) (x : Except ε α) : Prop := ∀ e', x = .error e' → e' = e

lemma failsBy_ok {e : ε} {a : α} : FailsBy e (.ok a) := nofun

lemma failsBy_error {e : ε} : FailsBy e (.error e : Except ε α) := by
  rintro e' ⟨⟩
  rfl

lemma failsBy_orError {e : ε} {a? : Option α} : FailsBy e (orError e a?) := by
  cases a? with
  | none => exact failsBy_error
  | some a => exact failsBy_ok

lemma failsBy_ensure {e : ε} {p : Prop} [Decidable p] : FailsBy e (ensure p e) := by
  unfold ensure
  split
  · exact failsBy_ok
  · exact failsBy_error

lemma failsBy_mapError {ε' : Type} {e : ε'} {x : Except ε α} :
    FailsBy e (x.mapError fun _ => e) := by
  cases x with
  | error e' => exact failsBy_error
  | ok a => exact failsBy_ok

lemma FailsBy.bind {e : ε} {x : Except ε α} {f : α → Except ε β} (hx : FailsBy e x)
    (hf : ∀ a, FailsBy e (f a)) : FailsBy e (x >>= f) := by
  cases x with
  | error e' =>
    obtain rfl := hx e' rfl
    exact failsBy_error
  | ok a => exact hf a

lemma failsBy_mapM {e : ε} {f : α → Except ε β} {l : List α} (h : ∀ a, FailsBy e (f a)) :
    FailsBy e (l.mapM f) := by
  intro e' hl
  obtain ⟨_, a, _, -, -, ha⟩ := mapM_eq_error_iff.1 hl
  exact h a e' ha

lemma FailsBy.eq_error {e : ε} {x : Except ε α} (h : FailsBy e x) (hx : ∀ a, x ≠ .ok a) :
    x = .error e := by
  cases x with
  | error e' => rw [h e' rfl]
  | ok a => exact absurd rfl (hx a)

end SmartWallet
