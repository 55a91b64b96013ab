import SmartWallet.Proofs.Sufficiency

/-!
# Lamports

A store changes no lamports, and a closing moves those of one account to another, so that a
committed delta keeps their sum.
-/

namespace SmartWallet

namespace AccountMap

variable {m m' : AccountMap} {key : Key} {a : Account} {entries : List (Key × Account)}

lemma sum_setEntry :
    ((setEntry key a entries).map fun e => e.2.lamports.toNat).sum +
        ((entries.lookup key).getD .empty).lamports.toNat =
      (entries.map fun e => e.2.lamports.toNat).sum + a.lamports.toNat := by
  induction entries with
  | nil => simp [setEntry, Account.empty]
  | cons e rest ih =>
    rw [lookup_cons_eq_ite]
    by_cases he : e.1 = key
    · rw [setEntry, if_pos he, if_pos he.symm]
      simp only [List.map_cons, List.sum_cons, Option.getD_some]
      omega
    · rw [setEntry, if_neg he, if_neg (Ne.symm he)]
      simp only [List.map_cons, List.sum_cons]
      omega

lemma sum_filter_ne (h : (entries.map Prod.fst).Nodup) :
    ((entries.filter (·.1 ≠ key)).map fun e => e.2.lamports.toNat).sum +
        ((entries.lookup key).getD .empty).lamports.toNat =
      (entries.map fun e => e.2.lamports.toNat).sum := by
  induction entries with
  | nil => simp [Account.empty]
  | cons e rest ih =>
    obtain ⟨hfresh, hrest⟩ := List.nodup_cons.1 h
    rw [lookup_cons_eq_ite]
    by_cases he : e.1 = key
    · -- keys are apart, so that the rest has no account to leave out
      have hkept : rest.filter (·.1 ≠ key) = rest := by
        rw [List.filter_eq_self]
        intro x hx
        have hne : x.1 ≠ key := fun hxk => hfresh (List.mem_map.2 ⟨x, hx, hxk.trans he.symm⟩)
        simpa using hne
      rw [List.filter_cons_of_neg (by simpa using he), hkept, if_pos he.symm]
      simp only [List.map_cons, List.sum_cons, Option.getD_some]
      omega
    · rw [List.filter_cons_of_pos (by simpa using he), if_neg (Ne.symm he)]
      simp only [List.map_cons, List.sum_cons]
      have hsum := ih hrest
      omega

lemma totalLamports_set :
    (m.set key a).totalLamports + (m.getD key).lamports.toNat =
      m.totalLamports + a.lamports.toNat :=
  sum_setEntry

lemma totalLamports_erase :
    (m.erase key).totalLamports + (m.getD key).lamports.toNat = m.totalLamports :=
  sum_filter_ne m.nodup

lemma totalLamports_write {w : Write} (h : m.write w = .ok m') :
    m'.totalLamports = m.totalLamports := by
  cases w with
  | store key data =>
    cases h
    exact Nat.add_right_cancel totalLamports_set
  | close key refundTo =>
    simp only [write, bind_eq_ok_iff, orError_eq_ok_iff, ensure_eq_ok, exists_const,
      pure_eq_ok_iff] at h
    obtain ⟨closed, hclosed, hroom, rfl⟩ := h
    have herased : (m.erase key).totalLamports + (m.getD key).lamports.toNat = m.totalLamports :=
      totalLamports_erase
    rw [getD, hclosed, Option.getD_some] at herased
    refine Nat.add_right_cancel (totalLamports_set.trans ?_)
    rw [UInt64.toNat_add, Nat.mod_eq_of_lt hroom]
    omega

lemma totalLamports_writeAll {delta : Delta} (h : m.writeAll delta = .ok m') :
    m'.totalLamports = m.totalLamports := by
  induction delta generalizing m with
  | nil =>
    cases h
    rfl
  | cons w rest ih =>
    rw [writeAll, bind_eq_ok_iff] at h
    obtain ⟨m₁, hw, hrest⟩ := h
    rw [ih hrest, totalLamports_write hw]

end AccountMap

namespace Ledger

variable {l l' : Ledger} {d : Deployment} {verify : Verifier} {dispatcher : Dispatcher}
  {accounts : List AccountRef} {data : List UInt8}

lemma totalLamports_apply {delta : Delta} (h : l.apply delta = .ok l') :
    l'.accounts.totalLamports = l.accounts.totalLamports := by
  simp only [apply, bind_eq_ok_iff, pure_eq_ok_iff] at h
  obtain ⟨accounts, hw, rfl⟩ := h
  exact AccountMap.totalLamports_writeAll hw

lemma totalLamports_process :
    (l.process d verify dispatcher accounts data).ledger.accounts.totalLamports =
      l.accounts.totalLamports := by
  cases h : (l.process d verify dispatcher accounts data).result with
  | error e => rw [ledger_of_error h]
  | ok o =>
    obtain ⟨ix, auth, hc⟩ := exists_commits h
    exact totalLamports_apply hc.applied

end Ledger

namespace Context

/-- Where all lamports fit one account, what an instruction asks for can be committed. -/
theorem Performs.exists_apply {l : Ledger} {d : Deployment} {verify : Verifier}
    {accounts : List AccountRef} {auth : Authorization} {ix : Instruction} {delta : Delta}
    (hp : (l.context d verify accounts).Performs auth ix delta)
    (hroom : l.accounts.totalLamports < UInt64.size) : ∃ l', l.apply delta = .ok l' := by
  cases hp with
  | createWallet => exact Ledger.exists_apply_of_stores (by simp)
  | addAuthority => exact Ledger.exists_apply_of_stores (by simp)
  | removeAuthority _ _ _ acts named =>
    obtain ⟨bump, hmarker⟩ := named.record
    obtain ⟨bs, hbs, -⟩ := View.record?_eq_some_iff.1 hmarker
    have hne := named.ne_of_holdsWallet acts.holds
    exact Ledger.exists_apply_close hroom hbs hne (by simp)
  | transferOwnership acts =>
    obtain ⟨bump, hmarker⟩ := acts.named.record
    obtain ⟨bs, hbs, -⟩ := View.record?_eq_some_iff.1 hmarker
    have hne := acts.named.ne_of_holdsWallet acts.holds
    split
    · exact Ledger.exists_apply_of_stores (by simp)
    · exact Ledger.exists_apply_close hroom hbs hne (by simp)
  | @execute calls proof p payer wallet caller vault w prepares =>
    have hauthorized := prepares.authorized
    generalize p.plan.caller = who, p.delta = writes at hauthorized
    cases hauthorized with
    | authority => exact Ledger.exists_apply_of_stores (by split <;> simp)
    | session => exact Ledger.exists_apply_of_stores nofun
  | createSession => exact Ledger.exists_apply_of_stores (by split <;> simp)

end Context

end SmartWallet
