import SmartWallet.Program.Context
import SmartWallet.Proofs.RecordCodec

/-!
# The rule layer

What a change of a wallet does to its entries, read as a map from ids: `Wallet.insert` adds one,
`Wallet.remove` deletes one, `Wallet.replaceOwner` and `Wallet.setCounter` rewrite one. Every change
keeps a record well formed, and keeps it `Wallet.Registered` if it was.
-/

namespace SmartWallet

lemma Role.manages_iff {role : Role} : role.manages = true ↔ role = .owner ∨ role = .admin := by
  cases role <;> simp [manages]

lemma Authority.new_eq_ok_iff {id : UInt8} {role : Role} {seed : Key} {c : Credential}
    {a : Authority} :
    Authority.new id role seed c = .ok a ↔
      c.matchesSeed seed = true ∧ ⟨id, role, seed, 0, c⟩ = a := by
  unfold Authority.new
  split
  · next h => simp [h]
  · next h => simp [h]

namespace Wallet

variable {w w' : Wallet} {a b : Authority} {id i : UInt8} {l : List Authority}

/-! ## Entries by id -/

lemma id_of_authority? (h : w.authority? id = some a) : a.id = id := by
  simpa using List.find?_some h

lemma mem_of_authority? (h : w.authority? id = some a) : a ∈ w.authorities :=
  List.mem_of_find?_eq_some h

lemma eq_of_id_eq (hasc : l.Pairwise fun a b => a.id < b.id) (ha : a ∈ l) (hb : b ∈ l)
    (hid : a.id = b.id) : a = b := by
  induction l with
  | nil => cases ha
  | cons c l ih =>
    obtain ⟨hc, hasc⟩ := List.pairwise_cons.1 hasc
    rcases List.mem_cons.1 ha with hac | hal
    · rcases List.mem_cons.1 hb with hbc | hbl
      · rw [hac, hbc]
      · exact absurd (hc b hbl) (by simp [← hac, hid, UInt8.lt_irrefl])
    · rcases List.mem_cons.1 hb with hbc | hbl
      · exact absurd (hc a hal) (by simp [← hbc, hid, UInt8.lt_irrefl])
      · exact ih hasc hal hbl

lemma find?_id_eq_some_iff (hasc : l.Pairwise fun a b => a.id < b.id) :
    l.find? (·.id == id) = some a ↔ a ∈ l ∧ a.id = id := by
  constructor
  · intro h
    exact ⟨List.mem_of_find?_eq_some h, by simpa using List.find?_some h⟩
  · rintro ⟨ha, rfl⟩
    cases h : l.find? (·.id == a.id) with
    | none => simpa using List.find?_eq_none.1 h a ha
    | some b =>
      have hb : b.id = a.id := by simpa using List.find?_some h
      rw [eq_of_id_eq hasc ha (List.mem_of_find?_eq_some h) hb.symm]

lemma WellFormed.authority?_eq_some_iff (h : w.WellFormed) :
    w.authority? id = some a ↔ a ∈ w.authorities ∧ a.id = id :=
  find?_id_eq_some_iff h.ascending

/-- The entries of a well-formed wallet with the owner role are one. -/
lemma WellFormed.owner_unique (h : w.WellFormed) (ha : a ∈ w.authorities)
    (hb : b ∈ w.authorities) (hra : a.role = .owner) (hrb : b.role = .owner) : a = b := by
  have hlen : (w.authorities.filter (·.role == .owner)).length = 1 := by
    rw [← List.countP_eq_length_filter]
    exact h.oneOwner
  obtain ⟨o, ho⟩ := List.length_eq_one_iff.1 hlen
  have hmem : ∀ c ∈ w.authorities, c.role = .owner → c = o := by
    intro c hc hr
    have hc : c ∈ w.authorities.filter (·.role == .owner) := by simp [hc, hr]
    simpa [ho] using hc
  rw [hmem a ha hra, hmem b hb hrb]

/-! ## Lists of entries -/

lemma insertById_perm (a : Authority) (l : List Authority) : (insertById a l).Perm (a :: l) := by
  induction l with
  | nil => exact List.Perm.refl _
  | cons b l ih =>
    unfold insertById
    split
    · exact List.Perm.refl _
    · exact (ih.cons b).trans (List.Perm.swap a b l)

lemma ascending_insertById (hasc : l.Pairwise fun a b => a.id < b.id)
    (hid : ∀ b ∈ l, b.id ≠ a.id) : (insertById a l).Pairwise fun a b => a.id < b.id := by
  induction l with
  | nil => simp [insertById]
  | cons b l ih =>
    obtain ⟨hb, hasc⟩ := List.pairwise_cons.1 hasc
    unfold insertById
    split
    · next hab =>
      refine List.pairwise_cons.2 ⟨?_, List.pairwise_cons.2 ⟨hb, hasc⟩⟩
      intro c hc
      rcases List.mem_cons.1 hc with rfl | hc
      · exact hab
      · exact UInt8.lt_trans hab (hb c hc)
    · next hab =>
      refine List.pairwise_cons.2 ⟨?_, ih hasc fun c hc => hid c (by simp [hc])⟩
      intro c hc
      rcases List.mem_cons.1 ((insertById_perm a l).mem_iff.1 hc) with rfl | hc
      · exact UInt8.lt_of_le_of_ne (UInt8.not_lt.1 hab) (hid b (by simp))
      · exact hb c hc

lemma firstGap_spec {candidate : Nat} (hasc : l.Pairwise fun a b => a.id < b.id)
    (hfrom : ∀ a ∈ l, candidate ≤ a.id.toNat) :
    candidate ≤ firstGap candidate l ∧ ∀ a ∈ l, a.id.toNat ≠ firstGap candidate l := by
  induction l generalizing candidate with
  | nil => simp [firstGap]
  | cons b l ih =>
    obtain ⟨hb, hasc⟩ := List.pairwise_cons.1 hasc
    have habove : ∀ a ∈ l, b.id.toNat < a.id.toNat := fun a ha => hb a ha
    have hbc := hfrom b (by simp)
    unfold firstGap
    split
    · next heq =>
      have hfrom : ∀ a ∈ l, candidate + 1 ≤ a.id.toNat := fun a ha => by
        have := habove a ha
        omega
      obtain ⟨hle, hne⟩ := ih hasc hfrom
      refine ⟨by omega, fun a ha => ?_⟩
      rcases List.mem_cons.1 ha with rfl | ha
      · omega
      · exact hne a ha
    · next hne =>
      refine ⟨Nat.le_refl _, fun a ha => ?_⟩
      rcases List.mem_cons.1 ha with rfl | ha
      · exact hne
      · have := habove a ha
        omega

lemma eraseP_id_eq_filter (hasc : l.Pairwise fun a b => a.id < b.id) :
    l.eraseP (·.id == id) = l.filter (·.id != id) := by
  induction l with
  | nil => rfl
  | cons b l ih =>
    obtain ⟨hb, hasc⟩ := List.pairwise_cons.1 hasc
    by_cases h : b.id = id
    · have hrest : l.filter (·.id != id) = l := by
        rw [List.filter_eq_self]
        intro a ha
        have := hb a ha
        rw [h] at this
        simpa using (UInt8.ne_of_lt this).symm
      simp [h, hrest]
    · simp [h, ih hasc]

lemma map_updateFirst {γ : Type} {p : Authority → Bool} {f : Authority → Authority}
    {g : Authority → γ} (hg : ∀ a ∈ l, p a = true → g (f a) = g a) :
    (updateFirst p f l).map g = l.map g := by
  induction l with
  | nil => rfl
  | cons b l ih =>
    unfold updateFirst
    split
    · next hp => simp [hg b (by simp) hp]
    · simp [ih fun a ha => hg a (by simp [ha])]

lemma mem_updateFirst {p : Authority → Bool} {f : Authority → Authority}
    (h : b ∈ updateFirst p f l) : b ∈ l ∨ ∃ a ∈ l, p a = true ∧ b = f a := by
  induction l with
  | nil => cases h
  | cons c l ih =>
    unfold updateFirst at h
    split at h
    · next hp =>
      rcases List.mem_cons.1 h with rfl | h
      · exact .inr ⟨c, by simp, hp, rfl⟩
      · exact .inl (by simp [h])
    · rcases List.mem_cons.1 h with rfl | h
      · exact .inl (by simp)
      · rcases ih h with h | ⟨a, ha, hp, rfl⟩
        · exact .inl (by simp [h])
        · exact .inr ⟨a, by simp [ha], hp, rfl⟩

lemma find?_updateFirst_id {f : Authority → Authority} (hf : ∀ a, a.id = id → (f a).id = id) :
    (updateFirst (·.id == id) f l).find? (·.id == i) =
      if i = id then (l.find? (·.id == id)).map f else l.find? (·.id == i) := by
  induction l with
  | nil => simp [updateFirst]
  | cons b l ih =>
    by_cases hb : b.id = id
    · by_cases hi : i = id
      · simp [updateFirst, hb, hi, hf b hb]
      · simp [updateFirst, hb, hi, hf b hb, Ne.symm hi]
    · by_cases hi : i = id
      · subst hi
        simpa [updateFirst, hb] using ih
      · by_cases hbi : b.id = i
        · simp [updateFirst, hi, hbi]
        · simpa [updateFirst, hb, hi, hbi] using ih

/-- Where ids ascend, rewriting the entry under an id leaves the ones before and after it. -/
lemma exists_split_of_mem (hasc : l.Pairwise fun a b => a.id < b.id) (ha : a ∈ l) :
    ∃ before after, l = before ++ a :: after ∧
      ∀ f, updateFirst (·.id == a.id) f l = before ++ f a :: after := by
  induction l with
  | nil => cases ha
  | cons b l ih =>
    obtain ⟨hb, hasc⟩ := List.pairwise_cons.1 hasc
    rcases List.mem_cons.1 ha with rfl | ha
    · exact ⟨[], l, rfl, fun f => by simp [updateFirst]⟩
    · obtain ⟨before, after, hl, hf⟩ := ih hasc ha
      have hne : b.id ≠ a.id := UInt8.ne_of_lt (hb a ha)
      refine ⟨b :: before, after, by rw [hl, List.cons_append], fun f => ?_⟩
      rw [updateFirst, if_neg (by simpa using hne), hf, List.cons_append]

/-- Where ids ascend, the first entry with a property is the one with its id. -/
lemma updateFirst_eq_of_find? {p : Authority → Bool} {f : Authority → Authority}
    (hasc : l.Pairwise fun a b => a.id < b.id) (h : l.find? p = some a) :
    updateFirst p f l = updateFirst (·.id == a.id) f l := by
  induction l with
  | nil => cases h
  | cons b l ih =>
    obtain ⟨hb, hasc⟩ := List.pairwise_cons.1 hasc
    by_cases hp : p b = true
    · rw [List.find?_cons_of_pos hp] at h
      cases h
      simp [updateFirst, hp]
    · rw [List.find?_cons_of_neg hp] at h
      have hne : b.id ≠ a.id := UInt8.ne_of_lt (hb a (List.mem_of_find?_eq_some h))
      simp [updateFirst, hp, hne, ih hasc h]

/-! ## What the changes write -/

lemma nextFreeId?_unused (hasc : w.authorities.Pairwise fun a b => a.id < b.id)
    (h : w.nextFreeId? = some id) : ∀ a ∈ w.authorities, a.id ≠ id := by
  have hne : ∀ a ∈ w.authorities, a.id.toNat ≠ firstGap 0 w.authorities :=
    (firstGap_spec hasc fun _ _ => Nat.zero_le _).2
  simp only [nextFreeId?] at h
  split at h
  · next hlt =>
    cases h
    intro a ha hid
    apply hne a ha
    rw [hid, UInt8.toNat_ofNat']
    omega
  · cases h

lemma insert_eq_ok_iff {role : Role} {seed : Key} {c : Credential} :
    w.insert role seed c = .ok (w', id) ↔
      role ≠ .owner ∧ w.authorityBySeed? seed = none ∧ w.nextFreeId? = some id ∧
        c.matchesSeed seed = true ∧
        w' = { w with authorities := insertById ⟨id, role, seed, 0, c⟩ w.authorities } := by
  simp only [insert, bind_eq_ok_iff, ensure_eq_ok, exists_const, orError_eq_ok_iff,
    Authority.new_eq_ok_iff, pure_eq_ok_iff, Option.isNone_iff_eq_none, Prod.mk.injEq]
  constructor
  · rintro ⟨hrole, hseed, _, hid, _, ⟨hmatch, rfl⟩, rfl, rfl⟩
    exact ⟨hrole, hseed, hid, hmatch, rfl⟩
  · rintro ⟨hrole, hseed, hid, hmatch, rfl⟩
    exact ⟨hrole, hseed, id, hid, _, ⟨hmatch, rfl⟩, rfl, rfl⟩

lemma remove_eq_ok_iff :
    w.remove id = .ok (w', a) ↔
      w.authority? id = some a ∧ a.role ≠ .owner ∧
        w' = { w with authorities := w.authorities.eraseP (·.id == id) } := by
  simp only [remove, bind_eq_ok_iff, ensure_eq_ok, exists_const, orError_eq_ok_iff,
    pure_eq_ok_iff, Prod.mk.injEq]
  constructor
  · rintro ⟨_, ha, hrole, rfl, rfl⟩
    exact ⟨ha, hrole, rfl⟩
  · rintro ⟨ha, hrole, rfl⟩
    exact ⟨a, ha, hrole, rfl, rfl⟩

lemma replaceOwner_eq_ok_iff {seed : Key} {c : Credential} :
    w.replaceOwner seed c = .ok (w', a) ↔
      w.owner? = some a ∧ (∀ b, w.authorityBySeed? seed = some b → b.id = a.id) ∧
        c.matchesSeed seed = true ∧
        w' = { w with
          authorities := updateFirst (·.role == .owner)
            (fun _ => ⟨a.id, .owner, seed, 0, c⟩) w.authorities } := by
  simp only [replaceOwner, bind_eq_ok_iff, ensure_eq_ok, exists_const, orError_eq_ok_iff,
    Authority.new_eq_ok_iff, pure_eq_ok_iff, Option.all_eq_true, beq_iff_eq, Prod.mk.injEq]
  constructor
  · rintro ⟨_, ha, hseed, _, ⟨hmatch, rfl⟩, rfl, rfl⟩
    exact ⟨ha, hseed, hmatch, rfl⟩
  · rintro ⟨ha, hseed, hmatch, rfl⟩
    exact ⟨a, ha, hseed, _, ⟨hmatch, rfl⟩, rfl, rfl⟩

lemma setCounter_eq_ok_iff {counter : UInt32} :
    w.setCounter id counter = .ok w' ↔
      (w.authority? id).isSome = true ∧
        w' = { w with
          authorities :=
            updateFirst (·.id == id) (fun a => { a with counter := counter }) w.authorities } := by
  simp only [setCounter, bind_eq_ok_iff, ensure_eq_ok, exists_const, pure_eq_ok_iff]
  constructor
  · rintro ⟨hsome, rfl⟩
    exact ⟨hsome, rfl⟩
  · rintro ⟨hsome, rfl⟩
    exact ⟨hsome, rfl⟩

/-! ## What the changes keep -/

lemma WellFormed.mem_iff (h : w.WellFormed) :
    a ∈ w.authorities ↔ w.authority? a.id = some a := by
  rw [h.authority?_eq_some_iff]
  simp

/-- Rewriting the entry under an id. -/
lemma authority?_updateFirst_id {f : Authority → Authority}
    (hf : ∀ a, a.id = id → (f a).id = id) (i : UInt8) :
    ({ w with authorities := updateFirst (·.id == id) f w.authorities } : Wallet).authority? i =
      if i = id then (w.authority? id).map f else w.authority? i :=
  find?_updateFirst_id hf

/-- Rewriting one entry without a change of its id and role. -/
lemma WellFormed.updateFirst_id {f : Authority → Authority} (h : w.WellFormed)
    (hf : ∀ a ∈ w.authorities, a.id = id →
      (f a).id = a.id ∧ (f a).role = a.role ∧ (f a).WellFormed) :
    ({ w with authorities := updateFirst (·.id == id) f w.authorities } : Wallet).WellFormed := by
  have hids : (updateFirst (·.id == id) f w.authorities).map (·.id) = w.authorities.map (·.id) :=
    map_updateFirst fun a ha hp => (hf a ha (by simpa using hp)).1
  have hroles : (updateFirst (·.id == id) f w.authorities).map (·.role) =
      w.authorities.map (·.role) :=
    map_updateFirst fun a ha hp => (hf a ha (by simpa using hp)).2.1
  refine ⟨?_, ?_, ?_⟩
  · have hasc := List.pairwise_map.2 h.ascending
    rw [← hids] at hasc
    exact List.pairwise_map.1 hasc
  · have hone := h.oneOwner
    have hcount (l : List Authority) :
        l.countP (·.role == .owner) = (l.map (·.role)).countP (· == .owner) := by
      rw [List.countP_map]
      rfl
    rw [hcount] at hone ⊢
    rw [← hone]
    exact congrArg _ hroles
  · intro b hb
    rcases mem_updateFirst hb with hb | ⟨a, ha, hp, rfl⟩
    · exact h.entries b hb
    · exact (hf a ha (by simpa using hp)).2.2

/-- What the rule layer keeps beyond well-formedness: the owner has id 0, and no two entries share
a seed. -/
structure Registered (w : Wallet) : Prop extends WellFormed w where
  ownerIsZero : ∀ {i a}, w.authority? i = some a → a.role = .owner → i = 0
  seedsApart : ∀ {i j a b}, w.authority? i = some a → w.authority? j = some b → a.seed = b.seed →
    i = j

lemma Registered.nodup_seeds (h : w.Registered) : (w.authorities.map (·.seed)).Nodup := by
  refine List.pairwise_map.2 (List.Pairwise.imp_of_mem ?_ h.ascending)
  intro a b ha hb hlt hseed
  have hid := h.seedsApart (h.mem_iff.1 ha) (h.mem_iff.1 hb) hseed
  rw [hid] at hlt
  exact UInt8.lt_irrefl _ hlt

/-! ### A new wallet -/

lemma new_eq_ok_iff {walletId seed : Key} {bump vaultBump : UInt8} {c : Credential} :
    Wallet.new walletId bump vaultBump seed c = .ok w ↔
      c.matchesSeed seed = true ∧ w = ⟨bump, vaultBump, walletId, [⟨0, .owner, seed, 0, c⟩]⟩ := by
  simp only [Wallet.new, bind_eq_ok_iff, Authority.new_eq_ok_iff, pure_eq_ok_iff]
  constructor
  · rintro ⟨_, ⟨hmatch, rfl⟩, rfl⟩
    exact ⟨hmatch, rfl⟩
  · rintro ⟨hmatch, rfl⟩
    exact ⟨_, ⟨hmatch, rfl⟩, rfl⟩

lemma authority?_new {walletId seed : Key} {bump vaultBump : UInt8} {c : Credential}
    (h : Wallet.new walletId bump vaultBump seed c = .ok w) (i : UInt8) :
    w.authority? i = if i = 0 then some ⟨0, .owner, seed, 0, c⟩ else none := by
  obtain ⟨-, rfl⟩ := new_eq_ok_iff.1 h
  by_cases hi : i = 0
  · simp [authority?, hi]
  · simp [authority?, hi, Ne.symm hi]

lemma registered_new {walletId seed : Key} {bump vaultBump : UInt8} {c : Credential}
    (h : Wallet.new walletId bump vaultBump seed c = .ok w) (hc : c.isWellFormed = true) :
    w.Registered := by
  have hget := authority?_new h
  obtain ⟨hmatch, rfl⟩ := new_eq_ok_iff.1 h
  refine ⟨⟨by simp, by simp, by simpa using ⟨hc, hmatch⟩⟩, ?_, ?_⟩
  · intro i a ha _
    by_contra hi
    simp [hget, hi] at ha
  · intro i j a b ha hb _
    by_cases hi : i = 0
    · by_cases hj : j = 0
      · rw [hi, hj]
      · simp [hget, hj] at hb
    · simp [hget, hi] at ha

/-! ### An added entry -/

lemma authority?_insert {role : Role} {seed : Key} {c : Credential} (h : w.WellFormed)
    (hi : w.insert role seed c = .ok (w', id)) :
    w.authority? id = none ∧
      ∀ i, w'.authority? i = if i = id then some ⟨id, role, seed, 0, c⟩ else w.authority? i := by
  obtain ⟨-, -, hfree, -, rfl⟩ := insert_eq_ok_iff.1 hi
  have hid := nextFreeId?_unused h.ascending hfree
  refine ⟨List.find?_eq_none.2 fun a ha => by simpa using hid a ha, fun i => ?_⟩
  have hasc := ascending_insertById (a := ⟨id, role, seed, 0, c⟩) h.ascending hid
  apply Option.ext
  intro b
  rw [authority?, find?_id_eq_some_iff hasc, (insertById_perm _ _).mem_iff, List.mem_cons]
  by_cases hi : i = id
  · subst hi
    simp only [if_true, Option.some.injEq]
    constructor
    · rintro ⟨rfl | hb, hbi⟩
      · rfl
      · exact absurd hbi (hid b hb)
    · rintro rfl
      exact ⟨.inl rfl, rfl⟩
  · rw [if_neg hi, h.authority?_eq_some_iff]
    constructor
    · rintro ⟨rfl | hb, hbi⟩
      · exact absurd hbi.symm hi
      · exact ⟨hb, hbi⟩
    · rintro ⟨hb, hbi⟩
      exact ⟨.inr hb, hbi⟩

lemma WellFormed.insert {role : Role} {seed : Key} {c : Credential} (h : w.WellFormed)
    (hc : c.isWellFormed = true) (hi : w.insert role seed c = .ok (w', id)) : w'.WellFormed := by
  obtain ⟨hrole, -, hfree, hmatch, rfl⟩ := insert_eq_ok_iff.1 hi
  have hperm := insertById_perm ⟨id, role, seed, 0, c⟩ w.authorities
  refine ⟨ascending_insertById h.ascending (nextFreeId?_unused h.ascending hfree), ?_, ?_⟩
  · rw [hperm.countP_eq, List.countP_cons, h.oneOwner]
    simp [hrole]
  · intro a ha
    rcases List.mem_cons.1 (hperm.mem_iff.1 ha) with rfl | ha
    · exact ⟨hc, hmatch⟩
    · exact h.entries a ha

lemma Registered.insert {role : Role} {seed : Key} {c : Credential} (h : w.Registered)
    (hc : c.isWellFormed = true) (hi : w.insert role seed c = .ok (w', id)) : w'.Registered := by
  obtain ⟨hnone, hget⟩ := authority?_insert h.toWellFormed hi
  have hwf := h.toWellFormed.insert hc hi
  obtain ⟨hrole, hseed, -⟩ := insert_eq_ok_iff.1 hi
  have hfresh : ∀ {i a}, w.authority? i = some a → a.seed ≠ seed := by
    intro i a ha hs
    have := List.find?_eq_none.1 hseed a (mem_of_authority? ha)
    simp [hs] at this
  refine ⟨hwf, ?_, ?_⟩
  · intro i a ha hr
    rw [hget] at ha
    split at ha
    · cases ha
      exact absurd hr hrole
    · exact h.ownerIsZero ha hr
  · intro i j a b ha hb hs
    rw [hget] at ha hb
    split at ha
    · next hia =>
      split at hb
      · next hjb => rw [hia, hjb]
      · cases ha
        exact absurd hs.symm (hfresh hb)
    · split at hb
      · cases hb
        exact absurd hs (hfresh ha)
      · exact h.seedsApart ha hb hs

/-! ### A removed entry -/

lemma authority?_remove (h : w.WellFormed) (hr : w.remove id = .ok (w', a)) (i : UInt8) :
    w'.authority? i = if i = id then none else w.authority? i := by
  obtain ⟨-, -, rfl⟩ := remove_eq_ok_iff.1 hr
  rw [authority?, eraseP_id_eq_filter h.ascending]
  apply Option.ext
  intro b
  rw [find?_id_eq_some_iff (h.ascending.filter _), List.mem_filter]
  by_cases hi : i = id
  · subst hi
    simp only [if_true]
    constructor
    · rintro ⟨⟨-, hne⟩, heq⟩
      simp [heq] at hne
    · rintro ⟨⟩
  · rw [if_neg hi, h.authority?_eq_some_iff]
    constructor
    · rintro ⟨⟨hb, -⟩, heq⟩
      exact ⟨hb, heq⟩
    · rintro ⟨hb, rfl⟩
      exact ⟨⟨hb, by simpa using hi⟩, rfl⟩

lemma WellFormed.remove (h : w.WellFormed) (hr : w.remove id = .ok (w', a)) :
    w'.WellFormed := by
  obtain ⟨ha, hrole, rfl⟩ := remove_eq_ok_iff.1 hr
  rw [eraseP_id_eq_filter h.ascending]
  refine ⟨h.ascending.filter _, ?_, fun b hb => h.entries b (List.mem_filter.1 hb).1⟩
  rw [List.countP_filter, ← h.oneOwner]
  apply List.countP_congr
  intro b hb
  simp only [Bool.and_eq_true, beq_iff_eq, bne_iff_ne, and_iff_left_iff_imp]
  rintro howner rfl
  rw [h.mem_iff.1 hb] at ha
  cases ha
  exact hrole howner

lemma Registered.remove (h : w.Registered) (hr : w.remove id = .ok (w', a)) :
    w'.Registered := by
  have hget := authority?_remove h.toWellFormed hr
  have hold : ∀ {i b}, w'.authority? i = some b → w.authority? i = some b := by
    intro i b hb
    rw [hget] at hb
    split at hb
    · cases hb
    · exact hb
  exact ⟨h.toWellFormed.remove hr, fun ha => h.ownerIsZero (hold ha),
    fun ha hb => h.seedsApart (hold ha) (hold hb)⟩

/-! ### A replaced owner -/

lemma authority?_replaceOwner {seed : Key} {c : Credential} (h : w.WellFormed)
    (hr : w.replaceOwner seed c = .ok (w', a)) (i : UInt8) :
    w'.authority? i =
      if i = a.id then some ⟨a.id, .owner, seed, 0, c⟩ else w.authority? i := by
  obtain ⟨howner, -, -, rfl⟩ := replaceOwner_eq_ok_iff.1 hr
  have ha : w.authority? a.id = some a := h.mem_iff.1 (List.mem_of_find?_eq_some howner)
  rw [updateFirst_eq_of_find? h.ascending howner]
  refine (authority?_updateFirst_id ?_ i).trans ?_
  · exact fun _ _ => rfl
  · rw [ha]
    rfl

lemma role_of_owner? (h : w.owner? = some a) : a.role = .owner := by
  simpa using List.find?_some h

lemma WellFormed.replaceOwner {seed : Key} {c : Credential} (h : w.WellFormed)
    (hc : c.isWellFormed = true) (hr : w.replaceOwner seed c = .ok (w', a)) : w'.WellFormed := by
  obtain ⟨howner, -, hmatch, rfl⟩ := replaceOwner_eq_ok_iff.1 hr
  rw [updateFirst_eq_of_find? h.ascending howner]
  apply h.updateFirst_id
  intro b hb hid
  have hba : b = a := eq_of_id_eq h.ascending hb (List.mem_of_find?_eq_some howner) hid
  exact ⟨hid.symm, by rw [hba, role_of_owner? howner], hc, hmatch⟩

lemma Registered.replaceOwner {seed : Key} {c : Credential} (h : w.Registered)
    (hc : c.isWellFormed = true) (hr : w.replaceOwner seed c = .ok (w', a)) : w'.Registered := by
  have hget := authority?_replaceOwner h.toWellFormed hr
  have hwf := h.toWellFormed.replaceOwner hc hr
  obtain ⟨howner, hseed, -⟩ := replaceOwner_eq_ok_iff.1 hr
  have ha := h.mem_iff.1 (List.mem_of_find?_eq_some howner)
  have hfresh : ∀ {i b}, w.authority? i = some b → b.seed = seed → i = a.id := by
    intro i b hb hs
    obtain ⟨c, hc⟩ := Option.isSome_iff_exists.1 (List.find?_isSome
      (p := fun a : Authority => a.seed == seed).2 ⟨b, mem_of_authority? hb, by simp [hs]⟩)
    have hcs : c.seed = seed := by simpa using List.find?_some hc
    rw [← hseed c hc]
    exact h.seedsApart hb (h.mem_iff.1 (List.mem_of_find?_eq_some hc)) (hs.trans hcs.symm)
  refine ⟨hwf, ?_, ?_⟩
  · intro i b hb hrole
    rw [hget] at hb
    split at hb
    · next hi => rw [hi, h.ownerIsZero ha (role_of_owner? howner)]
    · exact h.ownerIsZero hb hrole
  · intro i j b c hb hc hs
    rw [hget] at hb hc
    split at hb
    · next hi =>
      split at hc
      · next hj => rw [hi, hj]
      · cases hb
        rw [hi, hfresh hc hs.symm]
    · split at hc
      · next hj =>
        cases hc
        rw [hj, hfresh hb hs]
      · exact h.seedsApart hb hc hs

/-! ### A stored counter -/

lemma recordCounter_eq_ok_iff {outcome : AuthOutcome} (ha : w.authority? id = some a) :
    w.recordCounter id outcome = .ok w' ↔
      w' = match outcome.newCounter with
        | none => w
        | some counter => { w with
          authorities :=
            updateFirst (·.id == id) (fun a => { a with counter := counter }) w.authorities } := by
  unfold recordCounter
  cases outcome.newCounter with
  | none => simp [eq_comm]
  | some counter => simp [setCounter_eq_ok_iff, ha]

lemma authority?_recordCounter {outcome : AuthOutcome} (ha : w.authority? id = some a)
    (hr : w.recordCounter id outcome = .ok w') (i : UInt8) :
    w'.authority? i =
      if i = id then some { a with counter := outcome.newCounter.getD a.counter }
      else w.authority? i := by
  rw [recordCounter_eq_ok_iff ha] at hr
  subst hr
  cases outcome.newCounter with
  | none =>
    by_cases hi : i = id
    · simp [hi, ha]
    · simp [hi]
  | some counter =>
    refine (authority?_updateFirst_id ?_ i).trans ?_
    · exact fun _ h => h
    · rw [ha]
      rfl

/-- A stored counter changes the record in one place. -/
lemma exists_split_of_recordCounter {outcome : AuthOutcome} {counter : UInt32}
    (h : w.WellFormed) (ha : w.authority? id = some a) (hr : w.recordCounter id outcome = .ok w')
    (hcounter : outcome.newCounter = some counter) :
    ∃ before after, w.authorities = before ++ a :: after ∧
      w' = { w with authorities := before ++ { a with counter := counter } :: after } := by
  have hid := id_of_authority? ha
  obtain ⟨before, after, hl, hf⟩ := exists_split_of_mem h.ascending (mem_of_authority? ha)
  rw [recordCounter_eq_ok_iff ha, hcounter] at hr
  refine ⟨before, after, hl, ?_⟩
  rw [hr, ← hid]
  exact congrArg _ (hf _)

lemma WellFormed.recordCounter {outcome : AuthOutcome} (h : w.WellFormed)
    (ha : w.authority? id = some a) (hr : w.recordCounter id outcome = .ok w') :
    w'.WellFormed := by
  rw [recordCounter_eq_ok_iff ha] at hr
  subst hr
  cases outcome.newCounter with
  | none => exact h
  | some counter => exact h.updateFirst_id fun b hb _ => ⟨rfl, rfl, h.entries b hb⟩

/-- A stored counter changes no id, role, seed or credential. -/
lemma exists_before_recordCounter {outcome : AuthOutcome} (ha : w.authority? id = some a)
    (hr : w.recordCounter id outcome = .ok w') (hb : w'.authority? i = some b) :
    ∃ counter, w.authority? i = some { b with counter := counter } := by
  rw [authority?_recordCounter ha hr] at hb
  split at hb
  · next hi =>
    cases hb
    exact ⟨a.counter, by rw [hi, ha]⟩
  · exact ⟨b.counter, hb⟩

lemma exists_after_recordCounter {outcome : AuthOutcome} (ha : w.authority? id = some a)
    (hr : w.recordCounter id outcome = .ok w') (hb : w.authority? i = some b) :
    ∃ counter, w'.authority? i = some { b with counter := counter } := by
  rw [authority?_recordCounter ha hr]
  by_cases hi : i = id
  · rw [hi, ha] at hb
    cases hb
    exact ⟨_, if_pos hi⟩
  · exact ⟨b.counter, by rw [if_neg hi, hb]⟩

lemma Registered.recordCounter {outcome : AuthOutcome} (h : w.Registered)
    (ha : w.authority? id = some a) (hr : w.recordCounter id outcome = .ok w') :
    w'.Registered := by
  refine ⟨h.toWellFormed.recordCounter ha hr, ?_, ?_⟩
  · intro i b hb hrole
    obtain ⟨counter, hc⟩ := exists_before_recordCounter ha hr hb
    exact h.ownerIsZero hc hrole
  · intro i j b b' hb hb' hs
    obtain ⟨counter, hc⟩ := exists_before_recordCounter ha hr hb
    obtain ⟨counter', hc'⟩ := exists_before_recordCounter ha hr hb'
    exact h.seedsApart hc hc' hs

/-! ### The header -/

/-- The header of a record is that of another. -/
structure SameHeader (w' w : Wallet) : Prop where
  walletId : w'.walletId = w.walletId
  bump : w'.bump = w.bump
  vaultBump : w'.vaultBump = w.vaultBump

lemma SameHeader.trans {w'' : Wallet} (h' : w''.SameHeader w') (h : w'.SameHeader w) :
    w''.SameHeader w :=
  ⟨h'.walletId.trans h.walletId, h'.bump.trans h.bump, h'.vaultBump.trans h.vaultBump⟩

lemma sameHeader_insert {role : Role} {seed : Key} {c : Credential}
    (h : w.insert role seed c = .ok (w', id)) : w'.SameHeader w := by
  obtain ⟨-, -, -, -, rfl⟩ := insert_eq_ok_iff.1 h
  exact ⟨rfl, rfl, rfl⟩

lemma sameHeader_remove (h : w.remove id = .ok (w', a)) : w'.SameHeader w := by
  obtain ⟨-, -, rfl⟩ := remove_eq_ok_iff.1 h
  exact ⟨rfl, rfl, rfl⟩

lemma sameHeader_replaceOwner {seed : Key} {c : Credential}
    (h : w.replaceOwner seed c = .ok (w', a)) : w'.SameHeader w := by
  obtain ⟨-, -, -, rfl⟩ := replaceOwner_eq_ok_iff.1 h
  exact ⟨rfl, rfl, rfl⟩

lemma sameHeader_recordCounter {outcome : AuthOutcome} (ha : w.authority? id = some a)
    (h : w.recordCounter id outcome = .ok w') : w'.SameHeader w := by
  rw [recordCounter_eq_ok_iff ha] at h
  subst h
  cases outcome.newCounter <;> exact ⟨rfl, rfl, rfl⟩

/-! ### When a rule applies -/

lemma firstGap_le (candidate : Nat) (l : List Authority) :
    firstGap candidate l ≤ candidate + l.length := by
  induction l generalizing candidate with
  | nil => exact Nat.le_refl _
  | cons a l ih =>
    unfold firstGap
    split
    · have hrest := ih (candidate + 1)
      rw [List.length_cons]
      omega
    · exact Nat.le_add_right ..

lemma nextFreeId?_of_room (hroom : w.authorities.length < 256) :
    w.nextFreeId? = some (UInt8.ofNat (firstGap 0 w.authorities)) := by
  have hgap := firstGap_le 0 w.authorities
  rw [nextFreeId?, if_pos (by omega)]

lemma exists_insert {role : Role} {seed : Key} {c : Credential} (hrole : role ≠ .owner)
    (hseed : ∀ a ∈ w.authorities, a.seed ≠ seed) (hmatch : c.matchesSeed seed = true)
    (hroom : w.authorities.length < 256) : ∃ w' id, w.insert role seed c = .ok (w', id) := by
  refine ⟨_, _, insert_eq_ok_iff.2 ⟨hrole, ?_, nextFreeId?_of_room hroom, hmatch, rfl⟩⟩
  exact List.find?_eq_none.2 fun a ha => by simpa using hseed a ha

lemma exists_remove (ha : w.authority? id = some a) (hrole : a.role ≠ .owner) :
    ∃ w', w.remove id = .ok (w', a) :=
  ⟨_, remove_eq_ok_iff.2 ⟨ha, hrole, rfl⟩⟩

lemma exists_replaceOwner {seed : Key} {c : Credential} (h : w.WellFormed)
    (ha : a ∈ w.authorities) (hrole : a.role = .owner)
    (hseed : ∀ b ∈ w.authorities, b.seed = seed → b.id = a.id)
    (hmatch : c.matchesSeed seed = true) :
    ∃ w', w.replaceOwner seed c = .ok (w', a) := by
  have howner : w.owner? = some a := by
    cases ho : w.owner? with
    | none => simpa [hrole] using List.find?_eq_none.1 ho a ha
    | some o =>
      rw [h.owner_unique (List.mem_of_find?_eq_some ho) ha (role_of_owner? ho) hrole]
  refine ⟨_, replaceOwner_eq_ok_iff.2 ⟨howner, fun b hb => ?_, hmatch, rfl⟩⟩
  exact hseed b (List.mem_of_find?_eq_some hb) (by simpa using List.find?_some hb)

lemma exists_recordCounter (ha : w.authority? id = some a) (outcome : AuthOutcome) :
    ∃ w', w.recordCounter id outcome = .ok w' :=
  ⟨_, (recordCounter_eq_ok_iff ha).2 rfl⟩

lemma length_recordCounter {outcome : AuthOutcome} (ha : w.authority? id = some a)
    (hr : w.recordCounter id outcome = .ok w') : w'.authorities.length = w.authorities.length := by
  rw [recordCounter_eq_ok_iff ha] at hr
  subst hr
  cases outcome.newCounter with
  | none => rfl
  | some counter =>
    have hmap : (updateFirst (·.id == id) (fun a => { a with counter := counter })
        w.authorities).map (·.id) = w.authorities.map (·.id) := map_updateFirst fun _ _ _ => rfl
    simpa using congrArg List.length hmap

lemma WellFormed.exists_mem_before {outcome : AuthOutcome} (h : w.WellFormed)
    (ha : w.authority? id = some a) (hr : w.recordCounter id outcome = .ok w')
    (hb : b ∈ w'.authorities) : ∃ b' ∈ w.authorities, b'.id = b.id ∧ b'.seed = b.seed := by
  obtain ⟨counter, hc⟩ :=
    exists_before_recordCounter ha hr ((h.recordCounter ha hr).mem_iff.1 hb)
  exact ⟨_, mem_of_authority? hc, rfl, rfl⟩

end Wallet

end SmartWallet
