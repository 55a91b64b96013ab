import SmartWallet.Proofs.Effects

/-!
# Checks that suffice

`Context.Performs` and `Context.Prepares` list what a successful instruction has checked. Nothing
else is checked: where all of it holds, the instruction succeeds and asks for the writes that are
listed there. Stores are always committed; a closing needs an account to close and room for its
lamports.
-/

namespace SmartWallet

namespace Context

variable {c : Context} {auth : Authorization} {delta : Delta} {s : Action} {proof : List UInt8}

lemma succ_le_length_of_account {index : Nat} {r : AccountRef}
    (h : c.accounts[index]? = some r) : index + 1 ≤ c.accounts.length :=
  (List.getElem?_eq_some_iff.1 h).1

lemma Acts.authenticate {allowSession : Bool} (h : c.Acts auth allowSession s) :
    c.authenticate s.entry auth allowSession = .ok s.outcome :=
  (authenticate_eq_ok_iff h.payer).2 h.authenticated

/-! ## Management -/

lemma createWallet_of_performs {walletId : Key} {ownerBump : UInt8} {owner : AuthorityPayload}
    (h : c.Performs auth (.createWallet walletId ownerBump owner) delta) :
    c.createWallet walletId ownerBump owner = .ok delta := by
  cases h with
  | createWallet payerAt signs system walletDerived walletAt walletVacant vaultDerived vaultAt
      markerDerived markerAt markerVacant created =>
    obtain ⟨walletRef, hwallet, hwalletKey⟩ := exists_account_of_keyAt walletAt
    obtain ⟨vaultRef, hvault, hvaultKey⟩ := exists_account_of_keyAt vaultAt
    obtain ⟨markerRef, hmarker, hmarkerKey⟩ := exists_account_of_keyAt markerAt
    obtain ⟨systemRef, hsystem, -⟩ := exists_account_of_keyAt system
    simp only [createWallet, requireAccounts, bind_eq_ok_iff, ensure_eq_ok, exists_const,
      payer_eq_ok_iff, checkSystemProgram_eq_ok_iff, account_eq_ok_iff, derive_eq_ok_iff,
      ofRecord_eq_ok_iff, pure_eq_ok_iff]
    exact ⟨succ_le_length_of_account hsystem, _, ⟨payerAt, signs⟩, system, walletRef, hwallet,
      _, walletDerived, hwalletKey, walletVacant, _, vaultDerived, vaultRef, hvault, hvaultKey, _,
      markerDerived, markerRef, hmarker, hmarkerKey, rfl, markerVacant, _, created, rfl⟩

lemma addAuthority_of_performs {role : Role} {p : AuthorityPayload}
    (h : c.Performs auth (.addAuthority role p proof) delta) :
    c.addAuthority role p auth = .ok delta := by
  cases h with
  | addAuthority acts system may derived markerAt vacant counts inserts =>
    obtain ⟨markerRef, hmarker, hmarkerKey⟩ := exists_account_of_keyAt markerAt
    obtain ⟨systemRef, hsystem, -⟩ := exists_account_of_keyAt system
    simp only [addAuthority, requireAccounts, bind_eq_ok_iff, ensure_eq_ok, exists_const,
      payer_eq_ok_iff, checkSystemProgram_eq_ok_iff, account_eq_ok_iff, derive_eq_ok_iff,
      loadWallet_eq_ok_iff, resolveAuthority_eq_ok_iff, ofRecord_eq_ok_iff, pure_eq_ok_iff]
    exact ⟨succ_le_length_of_account hsystem, _, ⟨acts.payer, acts.signs⟩, system, _,
      acts.wallet, _, acts.holds, _, acts.marker, _, acts.named, _, acts.authenticate, may, _,
      derived, markerRef, hmarker, hmarkerKey, vacant, _, counts, _, inserts, rfl⟩

lemma removeAuthority_of_performs (h : c.Performs auth (.removeAuthority proof) delta) :
    c.removeAuthority auth = .ok delta := by
  cases h with
  | removeAuthority targetAt refundAt writable acts named notOwner may counts removes =>
    simp only [removeAuthority, requireAccounts, bind_eq_ok_iff, ensure_eq_ok, exists_const,
      payer_eq_ok_iff, account_eq_ok_iff, loadWallet_eq_ok_iff, resolveAuthority_eq_ok_iff,
      ofRecord_eq_ok_iff, pure_eq_ok_iff]
    exact ⟨succ_le_length_of_account refundAt, _, ⟨acts.payer, acts.signs⟩, _, acts.wallet, _,
      targetAt, _, refundAt, writable, _, acts.holds, _, acts.marker, _, acts.named, _,
      acts.authenticate, _, named, notOwner, may, _, counts, _, removes, rfl⟩

lemma transferOwnership_of_performs {p : AuthorityPayload}
    (h : c.Performs auth (.transferOwnership p proof) delta) :
    c.transferOwnership p auth = .ok delta := by
  cases h with
  | transferOwnership acts system isOwner derived markerAt counts replaces vacant =>
    obtain ⟨markerRef, hmarker, hmarkerKey⟩ := exists_account_of_keyAt markerAt
    obtain ⟨systemRef, hsystem, -⟩ := exists_account_of_keyAt system
    simp only [transferOwnership, requireAccounts, bind_eq_ok_iff, ensure_eq_ok, exists_const,
      payer_eq_ok_iff, checkSystemProgram_eq_ok_iff, account_eq_ok_iff, derive_eq_ok_iff,
      loadWallet_eq_ok_iff, resolveAuthority_eq_ok_iff, ofRecord_eq_ok_iff, pure_eq_ok_iff]
    exact ⟨succ_le_length_of_account hsystem, _, ⟨acts.payer, acts.signs⟩, system, _,
      acts.wallet, _, acts.marker, _, acts.holds, _, acts.named, _, acts.authenticate, isOwner, _,
      derived, markerRef, hmarker, hmarkerKey, _, counts, _, replaces, vacant, rfl⟩

lemma createSession_of_performs {sessionKey : Key} {expiresAt : UInt64}
    (h : c.Performs auth (.createSession sessionKey expiresAt proof) delta) :
    c.createSession sessionKey expiresAt auth = .ok delta := by
  cases h with
  | createSession acts system manages derived sessionAt vacant future bounded counts =>
    obtain ⟨sessionRef, hsession, hsessionKey⟩ := exists_account_of_keyAt sessionAt
    obtain ⟨systemRef, hsystem, -⟩ := exists_account_of_keyAt system
    simp only [createSession, requireAccounts, bind_eq_ok_iff, ensure_eq_ok, exists_const,
      payer_eq_ok_iff, checkSystemProgram_eq_ok_iff, account_eq_ok_iff, derive_eq_ok_iff,
      loadWallet_eq_ok_iff, resolveAuthority_eq_ok_iff, ofRecord_eq_ok_iff, pure_eq_ok_iff]
    exact ⟨succ_le_length_of_account hsystem, _, ⟨acts.payer, acts.signs⟩, system, _,
      acts.wallet, _, acts.holds, _, acts.marker, _, acts.named, _, acts.authenticate, manages, _,
      derived, sessionRef, hsession, hsessionKey, vacant, future, bounded, _, counts, rfl⟩

theorem perform_of_performs {ix : Instruction} (h : c.Performs auth ix delta)
    (hkind : ix.kind ≠ .execute) (dispatcher : Dispatcher) :
    (c.perform dispatcher ix auth).2 = .ok ⟨ix.kind, delta, none⟩ := by
  cases ix with
  | createWallet => exact map_eq_ok_iff.2 ⟨delta, createWallet_of_performs h, rfl⟩
  | addAuthority => exact map_eq_ok_iff.2 ⟨delta, addAuthority_of_performs h, rfl⟩
  | removeAuthority => exact map_eq_ok_iff.2 ⟨delta, removeAuthority_of_performs h, rfl⟩
  | transferOwnership => exact map_eq_ok_iff.2 ⟨delta, transferOwnership_of_performs h, rfl⟩
  | execute => exact absurd rfl hkind
  | createSession => exact map_eq_ok_iff.2 ⟨delta, createSession_of_performs h, rfl⟩

/-! ## Executions -/

lemma authorizeCaller_of_calls {payer : AccountRef} {walletKey key : Key} {w : Wallet}
    {caller : Caller} (hp : c.accounts[0]? = some payer)
    (h : c.Calls auth payer.key walletKey w key caller delta) :
    c.authorizeCaller walletKey w key auth = .ok (caller, delta) := by
  cases h with
  | @authority a o counted named authenticated counts =>
    obtain ⟨bump, hrecord⟩ := named.record
    obtain ⟨bs, hbs, hm⟩ := View.record?_eq_authority_iff.1 hrecord
    have htag : (c.data? key).bind List.head? = some RecordKind.authority.tag := by
      rw [hbs]
      exact AuthorityMarker.head?_of_decode? hm
    simp only [authorizeCaller, htag]
    rw [if_neg (by decide)]
    simp only [if_true, bind_eq_ok_iff, resolveAuthority_eq_ok_iff, authenticate_eq_ok_iff hp,
      ofRecord_eq_ok_iff, pure_eq_ok_iff]
    exact ⟨a, named, o, authenticated, counted, counts, rfl⟩
  | @session t record wallet derived live opener signs =>
    obtain ⟨bs, hbs, ht⟩ := View.record?_eq_session_iff.1 record
    obtain ⟨bump, hderived⟩ := derived
    obtain ⟨a, ha, hseed, hmanages⟩ := opener
    have htag : (c.data? key).bind List.head? = some RecordKind.session.tag := by
      rw [hbs]
      exact SessionRecord.head?_of_decode? ht
    simp only [authorizeCaller, htag, if_true, authorizeSession, bind_eq_ok_iff, ensure_eq_ok,
      exists_const, orError_eq_ok_iff, derive_eq_ok_iff, pure_eq_ok_iff, Option.any_eq_true,
      Bool.and_eq_true, beq_iff_eq, AccountRef.signs_iff]
    exact ⟨_, ⟨bs, hbs, t, ht, wallet, _, hderived, rfl, live, ⟨a, ha, hseed, hmanages⟩, signs,
      rfl⟩, rfl⟩

lemma prepareExecution_of_prepares {calls : List PackedCall} {p : PreparedExecution}
    {payer wallet caller vault : AccountRef} {w : Wallet}
    (h : c.Prepares calls auth p payer wallet caller vault w) :
    c.prepareExecution calls auth = .ok p := by
  obtain ⟨delta, ⟨who, required, resolved⟩, seeds⟩ := p
  obtain ⟨payerAt, signs, walletAt, holds, callerAt, vaultAt, vaultDerived, authorized, policy,
    hresolved, hseeds⟩ := h
  obtain rfl : required = who.policyRequired := policy
  obtain rfl : seeds = _ := hseeds
  simp only [prepareExecution, requireAccounts, bind_eq_ok_iff, ensure_eq_ok, exists_const,
    payer_eq_ok_iff, account_eq_ok_iff, derive_eq_ok_iff, loadWallet_eq_ok_iff, pure_eq_ok_iff]
  exact ⟨succ_le_length_of_account vaultAt, _, ⟨payerAt, signs⟩, _, walletAt, _, callerAt, _,
    vaultAt, _, holds, _, vaultDerived, rfl, rfl, _, authorizeCaller_of_calls payerAt authorized, _,
    hresolved, rfl⟩

end Context

/-! ## Committing -/

namespace AccountMap

variable {m : AccountMap} {key k k' : Key} {closed : Account} {data : List UInt8}
  {entries : List (Key × Account)}

/-- The lamports of all accounts. -/
def totalLamports (m : AccountMap) : Nat := (m.entries.map fun e => e.2.lamports.toNat).sum

/-- No two accounts hold more lamports than fit one account. -/
def Roomy (m : AccountMap) : Prop := ∀ k k', k ≠ k' →
  (m.getD k).lamports.toNat + (m.getD k').lamports.toNat < UInt64.size

lemma lamports_le_sum (entries : List (Key × Account)) (k : Key) :
    ((entries.lookup k).getD .empty).lamports.toNat ≤
      (entries.map fun e => e.2.lamports.toNat).sum := by
  induction entries with
  | nil => exact Nat.le_refl 0
  | cons e rest ih =>
    rw [lookup_cons_eq_ite, List.map_cons, List.sum_cons]
    split
    · exact Nat.le_add_right ..
    · exact le_add_of_le_right ih

lemma lamports_add_le_sum (entries : List (Key × Account)) (h : k ≠ k') :
    ((entries.lookup k).getD .empty).lamports.toNat +
        ((entries.lookup k').getD .empty).lamports.toNat ≤
      (entries.map fun e => e.2.lamports.toNat).sum := by
  induction entries with
  | nil => exact Nat.le_refl 0
  | cons e rest ih =>
    have hk := lamports_le_sum rest k
    have hk' := lamports_le_sum rest k'
    rw [lookup_cons_eq_ite, lookup_cons_eq_ite, List.map_cons, List.sum_cons]
    split
    · next he =>
      rw [if_neg (he ▸ h.symm), Option.getD_some]
      exact Nat.add_le_add_left hk' _
    · split
      · rw [Option.getD_some, Nat.add_comm]
        exact Nat.add_le_add_left hk _
      · exact le_add_of_le_right ih

lemma roomy_of_totalLamports (h : m.totalLamports < UInt64.size) : m.Roomy :=
  fun _ _ hne => lt_of_le_of_lt (lamports_add_le_sum m.entries hne) h

lemma Roomy.store (h : m.Roomy) : (m.set key { m.getD key with data := data }).Roomy := by
  have hlamports : ∀ k, ((m.set key { m.getD key with data := data }).getD k).lamports =
      (m.getD k).lamports := by
    intro k
    by_cases hk : k = key
    · rw [getD, find?_set, if_pos hk, hk]
      rfl
    · rw [getD, find?_set, if_neg hk]
      rfl
  intro k k' hne
  rw [hlamports, hlamports]
  exact h k k' hne

lemma exists_write_close (h : m.Roomy) (hclosed : m.find? key = some closed) (refundTo : Key) :
    ∃ m', m.write (.close key refundTo) = .ok m' := by
  have hroom : (((m.erase key).getD refundTo).lamports.toNat + closed.lamports.toNat <
      UInt64.size) := by
    rw [getD, find?_erase]
    split
    · exact (Nat.zero_add _).trans_lt closed.lamports.toNat_lt
    · next hne =>
      have hsum := h refundTo key hne
      rwa [getD, getD, hclosed, Option.getD_some] at hsum
  simp only [write, bind_eq_ok_iff, orError_eq_ok_iff, ensure_eq_ok, exists_const, pure_eq_ok_iff]
  exact ⟨_, closed, hclosed, hroom, rfl⟩

lemma exists_writeAll_of_stores {delta : Delta}
    (h : ∀ w ∈ delta, ∃ key data, w = .store key data) (m : AccountMap) :
    ∃ m', m.writeAll delta = .ok m' := by
  induction delta generalizing m with
  | nil => exact ⟨m, rfl⟩
  | cons w rest ih =>
    obtain ⟨key, data, rfl⟩ := h w (List.mem_cons_self ..)
    exact ih (fun w hw => h w (List.mem_cons_of_mem _ hw)) _

end AccountMap

namespace Ledger

variable {l l' : Ledger} {d : Deployment} {verify : Verifier} {dispatcher : Dispatcher}
  {accounts : List AccountRef} {data : List UInt8} {ix : Instruction} {auth : Authorization}
  {o : Outcome}

lemma exists_apply_of_stores {delta : Delta} (h : ∀ w ∈ delta, ∃ key data, w = .store key data) :
    ∃ l', l.apply delta = .ok l' := by
  obtain ⟨m, hm⟩ := AccountMap.exists_writeAll_of_stores h l.accounts
  simp only [apply, bind_eq_ok_iff, pure_eq_ok_iff]
  exact ⟨_, m, hm, rfl⟩

/-- A closing is committed between stores if its account is there and its lamports have room. -/
lemma exists_apply_close {key target refundTo : Key} {data bs : List UInt8} {rest : Delta}
    (hroom : l.accounts.totalLamports < UInt64.size) (htarget : l.view target = some bs)
    (hne : target ≠ key) (hrest : ∀ w ∈ rest, ∃ key data, w = .store key data) :
    ∃ l', l.apply (.store key data :: .close target refundTo :: rest) = .ok l' := by
  have hview : ((l.accounts.find? target).map Account.data).filter (· ≠ []) = some bs := htarget
  obtain ⟨closed, hclosed, -⟩ := Option.map_eq_some_iff.1 (Option.filter_eq_some_iff.1 hview).1
  have hstored : (l.accounts.set key { l.accounts.getD key with data := data }).find? target =
      some closed := by
    rw [AccountMap.find?_set, if_neg hne, hclosed]
  obtain ⟨m, hm⟩ := AccountMap.exists_write_close
    (AccountMap.roomy_of_totalLamports hroom).store hstored refundTo
  obtain ⟨m', hm'⟩ := AccountMap.exists_writeAll_of_stores hrest m
  simp only [apply, AccountMap.writeAll, bind_eq_ok_iff, pure_eq_ok_iff]
  exact ⟨_, m', ⟨_, rfl, m, hm, hm'⟩, rfl⟩

lemma commits_of_perform
    (hread : (l.context d verify accounts).readInstruction data = .ok (ix, auth))
    (hperform : ((l.context d verify accounts).perform dispatcher ix auth).2 = .ok o)
    (happly : l.apply o.delta = .ok l') :
    l.Commits d verify dispatcher accounts data ix auth o
      (l.process d verify dispatcher accounts data).ledger := by
  have hresult : (l.process d verify dispatcher accounts data).result = .ok o := by
    simp [process, Context.process, hread, hperform, happly]
  have hledger : (l.process d verify dispatcher accounts data).ledger = l' := by
    simp [process, Context.process, hread, hperform, happly]
  exact ⟨hresult, hread, hperform, by rw [hledger, happly]⟩

/-- An instruction other than an execution is answered if its checks hold and its writes can be
committed. -/
theorem answered_of_performs {delta : Delta} {dispatcher : Dispatcher}
    (hread : (l.context d verify accounts).readInstruction data = .ok (ix, auth))
    (hkind : ix.kind ≠ .execute) (hperforms : (l.context d verify accounts).Performs auth ix delta)
    (happly : ∃ l', l.apply delta = .ok l') :
    ∃ o, (l.process d verify dispatcher accounts data).result = .ok o ∧ o.kind = ix.kind ∧
      (l.process d verify dispatcher accounts data).ledger.view = delta.shown l.view := by
  obtain ⟨l', happly⟩ := happly
  have hcommits := commits_of_perform hread
    (Context.perform_of_performs hperforms hkind dispatcher) happly
  exact ⟨_, hcommits.answered, rfl, hcommits.view_eq⟩

end Ledger

end SmartWallet
