import SmartWallet.Batch.Packing
import SmartWallet.Proofs.InstructionCodec

/-!
# What packed indexes stand for

While calls are packed the table of accounts only grows: an index keeps its key, and the privileges
of an added account only widen. So every index of a packed batch stands, in the table at the end,
for the account that it was given for, with all the privileges that were asked for it.
-/

namespace SmartWallet

/-- A reference stands for another: it has the same key and at least the same privileges. -/
structure AccountRef.Grants (r a : AccountRef) : Prop where
  key : r.key = a.key
  signer : a.signer = true → r.signer = true
  writable : a.writable = true → r.writable = true

namespace AccountRef.Grants

lemma refl (a : AccountRef) : a.Grants a := ⟨rfl, id, id⟩

lemma trans {r a b : AccountRef} (h : r.Grants a) (h' : a.Grants b) : r.Grants b :=
  ⟨h.key.trans h'.key, h.signer ∘ h'.signer, h.writable ∘ h'.writable⟩

end AccountRef.Grants

namespace AccountRole

@[simp] lemma isSigner_ofFlags (signer writable : Bool) :
    (ofFlags signer writable).isSigner = signer := by
  cases signer <;> cases writable <;> rfl

@[simp] lemma isWritable_ofFlags (signer writable : Bool) :
    (ofFlags signer writable).isWritable = writable := by
  cases signer <;> cases writable <;> rfl

@[simp] lemma toRef_ofRef (a : AccountRef) : (ofRef a).toRef a.key = a := by
  simp [toRef, ofRef]

lemma merge_grants_left (a : AccountRef) (role : AccountRole) :
    (((ofRef a).merge role).toRef a.key).Grants a := by
  constructor <;> simp +contextual [toRef, merge, ofRef]

lemma merge_grants_right (r role : AccountRole) (key : Key) :
    ((r.merge role).toRef key).Grants (role.toRef key) := by
  constructor <;> simp +contextual [toRef, merge]

end AccountRole

namespace AccountTable

variable {t t' t'' : AccountTable} {key : Key} {role : AccountRole} {l : List AccountRef}

/-- Every index of the table fits into a byte. -/
def Fits (t : AccountTable) : Prop := t.fixed.length + t.added.length ≤ maxAccounts

/-- An index stands for an account: a fixed one, whose privileges are not the table's, or an added
one with at least the privileges asked for. -/
def Places (t : AccountTable) (i : Nat) (a : AccountRef) : Prop :=
  t.fixed[i]? = some a.key ∨
    ∃ j r, i = t.fixed.length + j ∧ t.added[j]? = some r ∧ r.Grants a

/-- The later table still has every account of the earlier one, at the same index and with at least
the same privileges. -/
structure Grows (t t' : AccountTable) : Prop where
  fixed : t'.fixed = t.fixed
  added : ∀ (j : Nat) (r : AccountRef), t.added[j]? = some r →
    ∃ r' : AccountRef, t'.added[j]? = some r' ∧ r'.Grants r

lemma Grows.refl (t : AccountTable) : t.Grows t :=
  ⟨rfl, fun _ r hr => ⟨r, hr, .refl r⟩⟩

lemma Grows.trans (h : t.Grows t') (h' : t'.Grows t'') : t.Grows t'' := by
  refine ⟨h'.fixed.trans h.fixed, fun j r hr => ?_⟩
  obtain ⟨r', hr', hgrants⟩ := h.added j r hr
  obtain ⟨r'', hr'', hgrants'⟩ := h'.added j r' hr'
  exact ⟨r'', hr'', hgrants'.trans hgrants⟩

lemma Places.grows {i : Nat} {a : AccountRef} (hi : t.Places i a) (h : t.Grows t') :
    t'.Places i a := by
  rcases hi with hfixed | ⟨j, r, rfl, hr, hgrants⟩
  · exact .inl (by rw [h.fixed, hfixed])
  · obtain ⟨r', hr', hgrants'⟩ := h.added j r hr
    exact .inr ⟨j, r', by rw [h.fixed], hr', hgrants'.trans hgrants⟩

/-! ## Registering accounts -/

@[simp] lemma length_widen : (widen key role l).length = l.length := by
  induction l with
  | nil => rfl
  | cons a l ih =>
    unfold widen
    split
    · rfl
    · simp [ih]

lemma widen_grants {j : Nat} {r : AccountRef} (hr : l[j]? = some r) :
    ∃ r' : AccountRef, (widen key role l)[j]? = some r' ∧ r'.Grants r := by
  induction l generalizing j with
  | nil => cases hr
  | cons a l ih =>
    unfold widen
    split
    · next hkey =>
      cases j with
      | zero =>
        cases hr
        subst hkey
        exact ⟨_, rfl, AccountRole.merge_grants_left r role⟩
      | succ j => exact ⟨r, hr, .refl r⟩
    · cases j with
      | zero => exact ⟨r, hr, .refl r⟩
      | succ j => exact ih hr

/-- The account that is found is the one that is widened. -/
lemma widen_found {i : Nat} (hi : l.findIdx? (·.key == key) = some i) :
    ∃ r, (widen key role l)[i]? = some r ∧ r.Grants (role.toRef key) := by
  induction l generalizing i with
  | nil => cases hi
  | cons a l ih =>
    rw [List.findIdx?_cons] at hi
    unfold widen
    split
    · next hkey =>
      simp only [hkey, beq_self_eq_true, if_true, Option.some.injEq] at hi
      subst hi
      exact ⟨_, rfl, AccountRole.merge_grants_right _ role key⟩
    · next hkey =>
      simp only [beq_iff_eq, hkey, if_false, Option.map_eq_some_iff] at hi
      obtain ⟨j, hj, rfl⟩ := hi
      exact ih hj

lemma register_places {i : UInt8} (hfits : t.Fits) (h : t.register key role = .ok (t', i)) :
    t'.Fits ∧ t.Grows t' ∧ t'.Places i.toNat (role.toRef key) := by
  unfold register at h
  split at h
  · next j hj =>
    cases h
    obtain ⟨hlt, hkey, -⟩ := List.findIdx?_eq_some_iff_getElem.1 hj
    have hindex : (UInt8.ofNat j).toNat = j :=
      UInt8.toNat_ofNat_of_lt' (lt_of_lt_of_le hlt (le_of_add_le_left hfits))
    refine ⟨hfits, .refl t, .inl ?_⟩
    rw [hindex, List.getElem?_eq_getElem hlt, beq_iff_eq.1 hkey]
    rfl
  · split at h
    · next j hj =>
      cases h
      obtain ⟨hlt, -, -⟩ := List.findIdx?_eq_some_iff_getElem.1 hj
      have hindex : (UInt8.ofNat (t.fixed.length + j)).toNat = t.fixed.length + j :=
        UInt8.toNat_ofNat_of_lt' (lt_of_lt_of_le (Nat.add_lt_add_left hlt _) hfits)
      obtain ⟨r, hr, hgrants⟩ : ∃ r, (widen key role t.added)[j]? = some r ∧
          r.Grants (role.toRef key) := widen_found hj
      refine ⟨by simpa [Fits] using hfits, ⟨rfl, fun _ _ => widen_grants⟩, .inr ⟨j, r, ?_, hr,
        hgrants⟩⟩
      exact hindex
    · simp only [bind_eq_ok_iff, ensure_eq_ok, exists_const, pure_eq_ok_iff, Prod.mk.injEq] at h
      obtain ⟨hlt, rfl, rfl⟩ := h
      refine ⟨?_, ⟨rfl, fun j r hr => ⟨r, ?_, .refl r⟩⟩,
        .inr ⟨t.added.length, role.toRef key, UInt8.toNat_ofNat_of_lt' hlt, by simp, .refl _⟩⟩
      · show t.fixed.length + (t.added ++ [role.toRef key]).length ≤ maxAccounts
        rw [List.length_append]
        exact hlt
      · exact List.getElem?_append_left (List.getElem?_eq_some_iff.1 hr).1 ▸ hr

lemma registerAll_places {refs : List AccountRef} {indexes : List UInt8} (hfits : t.Fits)
    (h : t.registerAll refs = .ok (t', indexes)) :
    t'.Fits ∧ t.Grows t' ∧ List.Forall₂ (fun a i => t'.Places i.toNat a) refs indexes := by
  induction refs generalizing t indexes with
  | nil =>
    cases h
    exact ⟨hfits, .refl _, .nil⟩
  | cons a refs ih =>
    simp only [registerAll, bind_eq_ok_iff, pure_eq_ok_iff, Prod.exists, Prod.mk.injEq] at h
    obtain ⟨t₁, i, hfirst, _, rest, hrest, rfl, rfl⟩ := h
    obtain ⟨hfits₁, hgrows, hplaces⟩ := register_places hfits hfirst
    obtain ⟨hfits', hgrows', hplaces'⟩ := ih hfits₁ hrest
    rw [AccountRole.toRef_ofRef] at hplaces
    exact ⟨hfits', hgrows.trans hgrows', .cons (hplaces.grows hgrows') hplaces'⟩

/-! ## Packing calls -/

/-- The indexes of a packed call stand for the program and the accounts of a call, with the roles
and the data of that call. -/
structure Packs (t : AccountTable) (call : Call) (packed : PackedCall) : Prop where
  program : ∃ a : AccountRef, a.key = call.program ∧ t.Places packed.program.toNat a
  accounts : List.Forall₂ (fun a i => t.Places i.toNat a) call.accounts packed.accounts
  roles : packed.roles = call.accounts.map .ofRef
  data : packed.data = call.data

lemma Packs.grows {call : Call} {packed : PackedCall} (h : t.Packs call packed)
    (hgrows : t.Grows t') : t'.Packs call packed := by
  obtain ⟨a, ha, hprogram⟩ := h.program
  exact ⟨⟨a, ha, hprogram.grows hgrows⟩, h.accounts.imp fun _ _ hi => hi.grows hgrows, h.roles,
    h.data⟩

lemma packCall_packs {call : Call} {packed : PackedCall} (hfits : t.Fits)
    (h : t.packCall call = .ok (t', packed)) : t'.Fits ∧ t.Grows t' ∧ t'.Packs call packed := by
  simp only [packCall, bind_eq_ok_iff, ensure_eq_ok, exists_const, pure_eq_ok_iff, Prod.exists,
    Prod.mk.injEq] at h
  obtain ⟨-, -, t₁, program, hprogram, _, accounts, haccounts, rfl, rfl⟩ := h
  obtain ⟨hfits₁, hgrows, hplaces⟩ := register_places hfits hprogram
  obtain ⟨hfits', hgrows', hplaces'⟩ := registerAll_places hfits₁ haccounts
  exact ⟨hfits', hgrows.trans hgrows', ⟨_, rfl, hplaces.grows hgrows'⟩, hplaces', rfl, rfl⟩

lemma packCalls_packs {calls : List Call} {packed : List PackedCall} (hfits : t.Fits)
    (h : t.packCalls calls = .ok (t', packed)) :
    t.Grows t' ∧ List.Forall₂ t'.Packs calls packed := by
  induction calls generalizing t packed with
  | nil =>
    cases h
    exact ⟨.refl _, .nil⟩
  | cons call calls ih =>
    simp only [packCalls, bind_eq_ok_iff, pure_eq_ok_iff, Prod.exists, Prod.mk.injEq] at h
    obtain ⟨t₁, c, hfirst, _, rest, hrest, rfl, rfl⟩ := h
    obtain ⟨hfits₁, hgrows, hpacks⟩ := packCall_packs hfits hfirst
    obtain ⟨hgrows', hpacks'⟩ := ih hfits₁ hrest
    exact ⟨hgrows.trans hgrows', .cons (hpacks.grows hgrows') hpacks'⟩

end AccountTable

/-- The bytes of a packed batch hold calls whose indexes stand for the calls that were packed. -/
theorem Batch.packs_of_pack {calls : List Call} {fixed : List Key} {b : PackedBatch}
    (h : Batch.pack calls fixed = .ok b) :
    ∃ packed, Batch.encode packed = .ok b.bytes ∧
      List.Forall₂ (AccountTable.Packs ⟨fixed, b.remaining⟩) calls packed := by
  simp only [pack, bind_eq_ok_iff, ensure_eq_ok, exists_const, pure_eq_ok_iff, Prod.exists] at h
  obtain ⟨-, hfits, table, packed, hpacked, bytes, hbytes, rfl⟩ := h
  obtain ⟨hgrows, hpacks⟩ := AccountTable.packCalls_packs (t := ⟨fixed, []⟩) hfits hpacked
  have htable : table = ⟨fixed, table.added⟩ := congrArg (AccountTable.mk · _) hgrows.fixed
  exact ⟨packed, hbytes, htable ▸ hpacks⟩

end SmartWallet
