import SmartWallet.Address
import SmartWallet.Proofs.Checks

/-!
# The address that a search finds

Whoever knows the bump need not search: the seeds with the bump as one more seed create the same
address, and with any higher bump they create none. `Address.find_agrees_with_create` says so for
every answer of the search, its failures included.
-/

namespace SmartWallet

namespace Address

variable {onCurve : Key → Bool} {seeds : List (List UInt8)} {program key : Key}
  {a : DerivedAddress} {bump : UInt8} {count extra : Nat} {e : RecordError}

/-! ## The limits on seeds -/

lemma checkSeeds_eq_ok_iff {u : Unit} : checkSeeds seeds extra = .ok u ↔
    (∀ seed ∈ seeds, seed.length ≤ maxSeedLength) ∧ seeds.length + extra ≤ maxSeeds := by
  simp only [checkSeeds, bind_eq_ok_iff, ensure_eq_ok, exists_const]

lemma checkSeeds_eq_seedTooLong_iff : checkSeeds seeds extra = .error .seedTooLong ↔
    ∃ seed ∈ seeds, maxSeedLength < seed.length := by
  simp [checkSeeds]

lemma checkSeeds_eq_tooManySeeds_iff : checkSeeds seeds extra = .error .tooManySeeds ↔
    (∀ seed ∈ seeds, seed.length ≤ maxSeedLength) ∧ maxSeeds < seeds.length + extra := by
  simp [checkSeeds, ensure_eq_ok]

lemma checkSeeds_ne_invalidSeeds : checkSeeds seeds extra ≠ .error .invalidSeeds := by
  simp [checkSeeds]

lemma checkSeeds_ne_derivationExhausted :
    checkSeeds seeds extra ≠ .error .derivationExhausted := by
  simp [checkSeeds]

/-- A bump counts as much as a seed of its own. -/
lemma checkSeeds_append_bump : checkSeeds (seeds ++ [[bump]]) 0 = checkSeeds seeds 1 := by
  have hlengths : (∀ seed ∈ seeds ++ [[bump]], seed.length ≤ maxSeedLength) ↔
      ∀ seed ∈ seeds, seed.length ≤ maxSeedLength := by
    rw [List.forall_mem_append, List.forall_mem_singleton]
    exact and_iff_left (by decide : 1 ≤ maxSeedLength)
  simp only [checkSeeds, hlengths, List.length_append, List.length_singleton, Nat.add_zero]

/-! ## One bump -/

/-- The point that a bump leads to: the bump is hashed between the seeds and the program. -/
def candidate (seeds : List (List UInt8)) (program : Key) (bump : UInt8) : Key :=
  Sha256.hash (seeds.flatten ++ bump :: (program.toList ++ marker))

lemma hash_preimage_append_bump :
    Sha256.hash (preimage (seeds ++ [[bump]]) program) = candidate seeds program bump := by
  simp [preimage, candidate]

lemma create_bump_eq : create (.ofPoints onCurve) (seeds ++ [[bump]]) program =
    (do
      checkSeeds seeds 1
      ensure (onCurve (candidate seeds program bump) = false) .invalidSeeds
      pure (candidate seeds program bump)) := by
  rw [create, checkSeeds_append_bump, hash_preimage_append_bump]
  rfl

lemma create_bump_eq_ok_iff : create (.ofPoints onCurve) (seeds ++ [[bump]]) program = .ok key ↔
    checkSeeds seeds 1 = .ok () ∧ candidate seeds program bump = key ∧ onCurve key = false := by
  simp only [create_bump_eq, checkSeeds_eq_ok_iff, bind_eq_ok_iff, ensure_eq_ok, exists_const,
    pure_eq_ok_iff]
  refine and_congr_right fun _ => ⟨?_, ?_⟩
  · rintro ⟨hoff, rfl⟩
    exact ⟨rfl, hoff⟩
  · rintro ⟨rfl, hoff⟩
    exact ⟨hoff, rfl⟩

lemma create_bump_eq_invalidSeeds_iff :
    create (.ofPoints onCurve) (seeds ++ [[bump]]) program = .error .invalidSeeds ↔
      checkSeeds seeds 1 = .ok () ∧ onCurve (candidate seeds program bump) = true := by
  simp [create_bump_eq, checkSeeds_ne_invalidSeeds, checkSeeds_eq_ok_iff]

lemma create_bump_eq_error_iff (he : e ≠ .invalidSeeds) :
    create (.ofPoints onCurve) (seeds ++ [[bump]]) program = .error e ↔
      checkSeeds seeds 1 = .error e := by
  simp [create_bump_eq, he.symm]

/-! ## All bumps -/

lemma toNat_lt_succ_iff {n : Nat} (hn : n < 256) {b : UInt8} :
    b.toNat < n + 1 ↔ b.toNat < n ∨ b = UInt8.ofNat n := by
  rw [← UInt8.toNat_inj, UInt8.toNat_ofNat_of_lt' hn]
  omega

lemma search_succ {n : Nat} : search (.ofPoints onCurve) seeds program (n + 1) =
    if onCurve (candidate seeds program (.ofNat n)) then
      search (.ofPoints onCurve) seeds program n
    else .ok ⟨candidate seeds program (.ofNat n), .ofNat n⟩ := by
  rw [search, hash_preimage_append_bump]
  rfl

/-- The search answers the highest bump below its limit that leaves the curve. -/
theorem search_eq_ok_iff (hcount : count ≤ 256) :
    search (.ofPoints onCurve) seeds program count = .ok a ↔
      a.bump.toNat < count ∧ candidate seeds program a.bump = a.key ∧ onCurve a.key = false ∧
        ∀ b, a.bump < b → b.toNat < count → onCurve (candidate seeds program b) = true := by
  induction count with
  | zero => simp [search]
  | succ n ih =>
    have hn : (UInt8.ofNat n).toNat = n := UInt8.toNat_ofNat_of_lt' hcount
    rw [search_succ]
    split
    · next hon =>
      rw [ih (Nat.le_of_succ_le hcount)]
      constructor
      · rintro ⟨hlt, hkey, hoff, hhigher⟩
        refine ⟨Nat.lt_succ_of_lt hlt, hkey, hoff, fun b hb hbn => ?_⟩
        rcases (toNat_lt_succ_iff hcount).1 hbn with hbn | rfl
        · exact hhigher b hb hbn
        · exact hon
      · rintro ⟨hlt, hkey, hoff, hhigher⟩
        rcases (toNat_lt_succ_iff hcount).1 hlt with hlt | hbump
        · exact ⟨hlt, hkey, hoff, fun b hb hbn => hhigher b hb (Nat.lt_succ_of_lt hbn)⟩
        · rw [← hbump, hkey, hoff] at hon
          cases hon
    · next hoff =>
      constructor
      · rintro ⟨⟩
        refine ⟨by simp only [hn]; omega, rfl, by simpa using hoff, fun b hb hbn => ?_⟩
        rw [UInt8.lt_iff_toNat_lt, hn] at hb
        omega
      · rintro ⟨hlt, hkey, ha, hhigher⟩
        rcases (toNat_lt_succ_iff hcount).1 hlt with hlt | hbump
        · refine absurd (hhigher (.ofNat n) ?_ ?_) hoff
          · rwa [UInt8.lt_iff_toNat_lt, hn]
          · rw [hn]
            exact Nat.lt_succ_self n
        · rw [← hbump, hkey]

/-- The search gives up if every bump below its limit stays on the curve. -/
theorem search_eq_error_iff (hcount : count ≤ 256) :
    search (.ofPoints onCurve) seeds program count = .error e ↔
      (∀ b : UInt8, b.toNat < count → onCurve (candidate seeds program b) = true) ∧
        .derivationExhausted = e := by
  induction count with
  | zero => simp [search]
  | succ n ih =>
    rw [search_succ]
    split
    · next hon =>
      rw [ih (Nat.le_of_succ_le hcount)]
      refine and_congr_left fun _ => ⟨fun h b hb => ?_, fun h b hb => h b (Nat.lt_succ_of_lt hb)⟩
      rcases (toNat_lt_succ_iff hcount).1 hb with hb | rfl
      · exact h b hb
      · exact hon
    · next hoff =>
      constructor
      · rintro ⟨⟩
      · rintro ⟨h, -⟩
        exact absurd (h _ ((toNat_lt_succ_iff hcount).2 (.inr rfl))) hoff

lemma find_eq_ok_iff : find (.ofPoints onCurve) seeds program = .ok a ↔
    checkSeeds seeds 1 = .ok () ∧ candidate seeds program a.bump = a.key ∧ onCurve a.key = false ∧
      ∀ b, a.bump < b → onCurve (candidate seeds program b) = true := by
  have hlt (b : UInt8) : b.toNat < 256 := b.toNat_lt
  simp only [find, bind_eq_ok_iff, checkSeeds_eq_ok_iff, exists_const,
    search_eq_ok_iff (Nat.le_refl 256), hlt, true_and, true_imp_iff]

lemma find_eq_ok_iff_create : find (.ofPoints onCurve) seeds program = .ok a ↔
    create (.ofPoints onCurve) (seeds ++ [[a.bump]]) program = .ok a.key ∧
      ∀ b, a.bump < b →
        create (.ofPoints onCurve) (seeds ++ [[b]]) program = .error .invalidSeeds := by
  simp only [find_eq_ok_iff, create_bump_eq_ok_iff, create_bump_eq_invalidSeeds_iff]
  constructor
  · rintro ⟨hchecked, hkey, hoff, hhigher⟩
    exact ⟨⟨hchecked, hkey, hoff⟩, fun b hb => ⟨hchecked, hhigher b hb⟩⟩
  · rintro ⟨⟨hchecked, hkey, hoff⟩, hhigher⟩
    exact ⟨hchecked, hkey, hoff, fun b hb => (hhigher b hb).2⟩

lemma find_eq_derivationExhausted_iff :
    find (.ofPoints onCurve) seeds program = .error .derivationExhausted ↔
      ∀ b, create (.ofPoints onCurve) (seeds ++ [[b]]) program = .error .invalidSeeds := by
  have hlt (b : UInt8) : b.toNat < 256 := b.toNat_lt
  simp only [find, bind_eq_error_iff, checkSeeds_ne_derivationExhausted, false_or,
    checkSeeds_eq_ok_iff, exists_const, create_bump_eq_invalidSeeds_iff,
    search_eq_error_iff (Nat.le_refl 256), hlt, and_true, forall_and, forall_const]

lemma find_eq_error_iff (he : e ≠ .derivationExhausted) :
    find (.ofPoints onCurve) seeds program = .error e ↔ checkSeeds seeds 1 = .error e := by
  simp [find, search_eq_error_iff (Nat.le_refl 256), he.symm]

/-- A fault of the seeds is reported by the search and by every single bump alike. -/
theorem find_eq_error_iff_create (hsearch : e ≠ .derivationExhausted) (hbump : e ≠ .invalidSeeds) :
    find (.ofPoints onCurve) seeds program = .error e ↔
      ∀ b, create (.ofPoints onCurve) (seeds ++ [[b]]) program = .error e := by
  simp only [find_eq_error_iff hsearch, create_bump_eq_error_iff hbump, forall_const]

/-- Every answer of the search, in terms of one bump at a time. A seed that is too long is reported
before their number, and the bump counts among the seeds. -/
theorem find_agrees_with_create (onCurve : Key → Bool) (seeds : List (List UInt8))
    (program : Key) :
    (∀ key bump, find (.ofPoints onCurve) seeds program = .ok ⟨key, bump⟩ ↔
      create (.ofPoints onCurve) (seeds ++ [[bump]]) program = .ok key ∧ ∀ b, bump < b →
        create (.ofPoints onCurve) (seeds ++ [[b]]) program = .error .invalidSeeds) ∧
    (find (.ofPoints onCurve) seeds program = .error .derivationExhausted ↔
      ∀ b, create (.ofPoints onCurve) (seeds ++ [[b]]) program = .error .invalidSeeds) ∧
    (find (.ofPoints onCurve) seeds program = .error .seedTooLong ↔
      ∀ b, create (.ofPoints onCurve) (seeds ++ [[b]]) program = .error .seedTooLong) ∧
    (find (.ofPoints onCurve) seeds program = .error .tooManySeeds ↔
      ∀ b, create (.ofPoints onCurve) (seeds ++ [[b]]) program = .error .tooManySeeds) ∧
    (find (.ofPoints onCurve) seeds program = .error .seedTooLong ↔
      ∃ seed ∈ seeds, 32 < seed.length) ∧
    (find (.ofPoints onCurve) seeds program = .error .tooManySeeds ↔
      (∀ seed ∈ seeds, seed.length ≤ 32) ∧ 16 < seeds.length + 1) := by
  refine ⟨fun key bump => find_eq_ok_iff_create, find_eq_derivationExhausted_iff,
    find_eq_error_iff_create nofun nofun, find_eq_error_iff_create nofun nofun, ?_, ?_⟩
  · exact (find_eq_error_iff (e := .seedTooLong) nofun).trans checkSeeds_eq_seedTooLong_iff
  · exact (find_eq_error_iff (e := .tooManySeeds) nofun).trans checkSeeds_eq_tooManySeeds_iff

end Address

lemma Recipe.create_of_derive {d : Deployment} {recipe : Recipe} {a : DerivedAddress}
    (h : recipe.derive d = .ok a) :
    Address.create .ed25519 (recipe.seeds d.seedScheme ++ [[a.bump]]) (recipe.program d) =
      .ok a.key :=
  (Address.find_eq_ok_iff_create.1 h).1

end SmartWallet
