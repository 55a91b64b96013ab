import SmartWallet.Program.Run
import SmartWallet.Proofs.Authentication
import SmartWallet.Proofs.InstructionCodec
import SmartWallet.Proofs.View
import SmartWallet.Proofs.WalletRules

/-!
# What an instruction checks and writes

`Context.Performs` lists, for each instruction, everything that it has checked when it succeeds,
together with its writes. Later results about steps and runs split on it.
-/

namespace SmartWallet

namespace View

/-- The wallet record at a key, which lies at its own derived address. -/
structure HoldsWallet (v : View) (d : Deployment) (key : Key) (w : Wallet) : Prop where
  record : v.record? key = some (.wallet w)
  derived : (Recipe.wallet w.walletId.toList).derive d = .ok ⟨key, w.bump⟩

/-- The authority record at a key, which lies at its own derived address, names an entry of a
wallet by its id and seed. -/
structure Names (v : View) (d : Deployment) (walletKey : Key) (w : Wallet) (key : Key)
    (a : Authority) : Prop where
  record : ∃ bump, v.record? key = some (.authority ⟨bump, a.id, walletKey, a.seed⟩)
  derived : ∃ bump, (Recipe.authority walletKey a.seed).derive d = .ok ⟨key, bump⟩
  entry : w.authority? a.id = some a

/-- An authority record is not where a wallet is. -/
lemma Names.ne_of_holdsWallet {v : View} {d : Deployment} {walletKey key k : Key} {w w' : Wallet}
    {a : Authority} (h : v.Names d walletKey w key a) (hw : v.HoldsWallet d k w') : key ≠ k := by
  obtain ⟨bump, hmarker⟩ := h.record
  exact Records.ne_of_record_ne hmarker hw.record (by simp)

end View

/-- Who acts in an instruction: its first three accounts, the wallet record, the acting entry, and
how the entry authorised it. -/
structure Action where
  payer : AccountRef
  wallet : AccountRef
  marker : AccountRef
  record : Wallet
  entry : Authority
  outcome : AuthOutcome

namespace Context

variable {c : Context}

/-- The key of the account at a position. -/
def keyAt (c : Context) (index : Nat) : Option Key := (c.accounts[index]?).map AccountRef.key

/-- The payer signs, the wallet record and the acting authority's record are in their places, and
the acting entry is authenticated. -/
structure Acts (c : Context) (auth : Authorization) (allowSession : Bool) (s : Action) : Prop where
  payer : c.accounts[0]? = some s.payer
  signs : s.payer.signer = true
  wallet : c.accounts[1]? = some s.wallet
  holds : View.HoldsWallet c.data? c.deployment s.wallet.key s.record
  marker : c.accounts[2]? = some s.marker
  named : View.Names c.data? c.deployment s.wallet.key s.record s.marker.key s.entry
  authenticated : (c.request s.payer.key auth allowSession).authenticate c.verify s.entry =
    .ok s.outcome

/-- The caller of an execution, with the write that a signed challenge brings. -/
inductive Calls (c : Context) (auth : Authorization) (payer walletKey : Key) (w : Wallet)
    (key : Key) : Caller → Delta → Prop
  | authority {a : Authority} {o : AuthOutcome} {counted : Wallet}
      (named : View.Names c.data? c.deployment walletKey w key a)
      (authenticated : (c.request payer auth true).authenticate c.verify a = .ok o)
      (counts : w.recordCounter a.id o = .ok counted) :
      Calls c auth payer walletKey w key (.authority a.id a.role o.viaSession)
        (if o.newCounter.isSome then [.store walletKey counted.encode] else [])
  | session {s : SessionRecord}
      (record : View.record? c.data? key = some (.session s))
      (wallet : s.wallet = walletKey)
      (derived : ∃ bump, (Recipe.session walletKey s.sessionKey).derive c.deployment =
        .ok ⟨key, bump⟩)
      (live : s.isLive c.slot = true)
      (opener : ∃ a, w.authority? s.authorizerId = some a ∧ a.seed = s.authorizerSeed ∧
        a.role.manages = true)
      (signs : ∃ r ∈ c.accounts, r.signer = true ∧ r.key = s.sessionKey) :
      Calls c auth payer walletKey w key (.session s.authorizerId) []

/-- What a prepared execution has checked. -/
structure Prepares (c : Context) (calls : List PackedCall) (auth : Authorization)
    (p : PreparedExecution) (payer wallet caller vault : AccountRef) (w : Wallet) : Prop where
  payerAt : c.accounts[0]? = some payer
  signs : payer.signer = true
  walletAt : c.accounts[1]? = some wallet
  holds : View.HoldsWallet c.data? c.deployment wallet.key w
  callerAt : c.accounts[2]? = some caller
  vaultAt : c.accounts[3]? = some vault
  vaultDerived : (Recipe.vault wallet.key).derive c.deployment = .ok ⟨vault.key, w.vaultBump⟩
  authorized : c.Calls auth payer.key wallet.key w caller.key p.plan.caller p.delta
  policy : p.plan.policyRequired = p.plan.caller.policyRequired
  resolved : calls.mapM (c.resolveInner vault.key) = .ok p.plan.calls
  seeds : p.seeds = [Recipe.vaultTag, wallet.key.toList, [w.vaultBump]]

/-- What a successful instruction has checked, and what it writes. -/
inductive Performs (c : Context) (auth : Authorization) : Instruction → Delta → Prop
  | createWallet {walletId : Key} {owner : AuthorityPayload} {payer : AccountRef}
      {wallet vault marker : DerivedAddress} {record : Wallet}
      (payerAt : c.accounts[0]? = some payer)
      (signs : payer.signer = true)
      (system : c.keyAt 4 = some systemProgram)
      (walletDerived : (Recipe.wallet walletId.toList).derive c.deployment = .ok wallet)
      (walletAt : c.keyAt 1 = some wallet.key)
      (walletVacant : c.isVacant wallet.key = true)
      (vaultDerived : (Recipe.vault wallet.key).derive c.deployment = .ok vault)
      (vaultAt : c.keyAt 2 = some vault.key)
      (markerDerived : (Recipe.authority wallet.key owner.seed).derive c.deployment = .ok marker)
      (markerAt : c.keyAt 3 = some marker.key)
      (markerVacant : c.isVacant marker.key = true)
      (created : Wallet.new walletId wallet.bump vault.bump owner.seed owner.credential =
        .ok record) :
      Performs c auth (.createWallet walletId marker.bump owner)
        [.store wallet.key record.encode,
          .store marker.key (AuthorityMarker.encode ⟨marker.bump, 0, wallet.key, owner.seed⟩)]
  | addAuthority {role : Role} {p : AuthorityPayload} {proof : List UInt8} {s : Action}
      {marker : DerivedAddress} {counted grown : Wallet} {id : UInt8}
      (acts : c.Acts auth false s)
      (system : c.keyAt 4 = some systemProgram)
      (may : mayAdd s.entry.role role = true)
      (derived : (Recipe.authority s.wallet.key p.seed).derive c.deployment = .ok marker)
      (markerAt : c.keyAt 3 = some marker.key)
      (vacant : c.isVacant marker.key = true)
      (counts : s.record.recordCounter s.entry.id s.outcome = .ok counted)
      (inserts : counted.insert role p.seed p.credential = .ok (grown, id)) :
      Performs c auth (.addAuthority role p proof)
        [.store s.wallet.key grown.encode,
          .store marker.key (AuthorityMarker.encode ⟨marker.bump, id, s.wallet.key, p.seed⟩)]
  | removeAuthority {proof : List UInt8} {s : Action} {target refund : AccountRef}
      {a removed : Authority} {counted shrunk : Wallet}
      (targetAt : c.accounts[3]? = some target)
      (refundAt : c.accounts[4]? = some refund)
      (writable : refund.writable = true)
      (acts : c.Acts { auth with body := target.key.toList ++ refund.key.toList } false s)
      (named : View.Names c.data? c.deployment s.wallet.key s.record target.key a)
      (notOwner : a.role ≠ .owner)
      (may : mayRemove s.entry.role a.role = true)
      (counts : s.record.recordCounter s.entry.id s.outcome = .ok counted)
      (removes : counted.remove a.id = .ok (shrunk, removed)) :
      Performs c auth (.removeAuthority proof)
        [.store s.wallet.key shrunk.encode, .close target.key refund.key]
  | transferOwnership {p : AuthorityPayload} {proof : List UInt8} {s : Action}
      {marker : DerivedAddress} {counted moved : Wallet} {old : Authority}
      (acts : c.Acts auth false s)
      (system : c.keyAt 4 = some systemProgram)
      (isOwner : s.entry.role = .owner)
      (derived : (Recipe.authority s.wallet.key p.seed).derive c.deployment = .ok marker)
      (markerAt : c.keyAt 3 = some marker.key)
      (counts : s.record.recordCounter s.entry.id s.outcome = .ok counted)
      (replaces : counted.replaceOwner p.seed p.credential = .ok (moved, old))
      (vacant : marker.key = s.marker.key ∨ c.isVacant marker.key = true) :
      Performs c auth (.transferOwnership p proof)
        (.store s.wallet.key moved.encode ::
          (if marker.key = s.marker.key then [] else [.close s.marker.key s.payer.key]) ++
          [.store marker.key
            (AuthorityMarker.encode ⟨marker.bump, s.entry.id, s.wallet.key, p.seed⟩)])
  | execute {calls : List PackedCall} {proof : List UInt8} {p : PreparedExecution}
      {payer wallet caller vault : AccountRef} {w : Wallet}
      (prepares : c.Prepares calls auth p payer wallet caller vault w) :
      Performs c auth (.execute calls proof) p.delta
  | createSession {sessionKey : Key} {expiresAt : UInt64} {proof : List UInt8} {s : Action}
      {session : DerivedAddress} {counted : Wallet}
      (acts : c.Acts auth false s)
      (system : c.keyAt 4 = some systemProgram)
      (manages : s.entry.role.manages = true)
      (derived : (Recipe.session s.wallet.key sessionKey).derive c.deployment = .ok session)
      (sessionAt : c.keyAt 3 = some session.key)
      (vacant : c.data? session.key = none)
      (future : c.slot < expiresAt)
      (bounded : expiresAt - c.slot ≤ c.deployment.maxSessionSlots)
      (counts : s.record.recordCounter s.entry.id s.outcome = .ok counted) :
      Performs c auth (.createSession sessionKey expiresAt proof)
        ((if s.outcome.newCounter.isSome then [.store s.wallet.key counted.encode] else []) ++
          [.store session.key (SessionRecord.encode
            ⟨session.bump, s.entry.id, s.wallet.key, sessionKey, s.entry.seed, expiresAt⟩)])

/-! ## Shared checks -/

lemma account_eq_ok_iff {index : Nat} {r : AccountRef} :
    c.account index = .ok r ↔ c.accounts[index]? = some r :=
  orError_eq_ok_iff

lemma payer_eq_ok_iff {r : AccountRef} :
    c.payer = .ok r ↔ c.accounts[0]? = some r ∧ r.signer = true := by
  simp only [payer, bind_eq_ok_iff, account_eq_ok_iff, ensure_eq_ok, exists_const, pure_eq_ok_iff]
  constructor
  · rintro ⟨_, h, hs, rfl⟩
    exact ⟨h, hs⟩
  · rintro ⟨h, hs⟩
    exact ⟨r, h, hs, rfl⟩

lemma checkSystemProgram_eq_ok_iff {index : Nat} {u : Unit} :
    c.checkSystemProgram index = .ok u ↔ c.keyAt index = some systemProgram := by
  simp only [checkSystemProgram, bind_eq_ok_iff, account_eq_ok_iff, ensure_eq_ok, keyAt,
    Option.map_eq_some_iff]

lemma derive_eq_ok_iff {recipe : Recipe} {address : DerivedAddress} :
    c.derive recipe = .ok address ↔ recipe.derive c.deployment = .ok address :=
  ofRecord_eq_ok_iff

lemma loadWallet_eq_ok_iff {key : Key} {w : Wallet} :
    c.loadWallet key = .ok w ↔ View.HoldsWallet c.data? c.deployment key w := by
  simp only [loadWallet, bind_eq_ok_iff, orError_eq_ok_iff, ofRecord_eq_ok_iff, derive_eq_ok_iff,
    ensure_eq_ok, exists_const, pure_eq_ok_iff]
  constructor
  · rintro ⟨bs, hbs, _, hw, address, ha, rfl, hb, rfl⟩
    exact ⟨View.record?_eq_wallet_iff.2 ⟨bs, hbs, hw⟩, by rw [ha, hb]⟩
  · rintro ⟨hr, ha⟩
    obtain ⟨bs, hbs, hw⟩ := View.record?_eq_wallet_iff.1 hr
    exact ⟨bs, hbs, w, hw, _, ha, rfl, rfl, rfl⟩

lemma resolveAuthority_eq_ok_iff {walletKey key : Key} {w : Wallet} {a : Authority} :
    c.resolveAuthority walletKey w key = .ok a ↔
      View.Names c.data? c.deployment walletKey w key a := by
  simp only [resolveAuthority, bind_eq_ok_iff, orError_eq_ok_iff, derive_eq_ok_iff, ensure_eq_ok,
    exists_const, Option.filter_eq_some_iff, beq_iff_eq]
  constructor
  · rintro ⟨bs, hbs, m, hm, rfl, address, hd, rfl, ha, hs⟩
    have hid : m.authorityId = a.id := (Wallet.id_of_authority? ha).symm
    refine ⟨⟨m.bump, View.record?_eq_authority_iff.2 ⟨bs, hbs, ?_⟩⟩, ⟨address.bump, ?_⟩, ?_⟩
    · rw [hm, ← hid, hs]
    · rw [hs, hd]
    · rw [← hid, ha]
  · rintro ⟨⟨bump, hr⟩, ⟨bump', hd⟩, ha⟩
    obtain ⟨bs, hbs, hm⟩ := View.record?_eq_authority_iff.1 hr
    exact ⟨bs, hbs, _, hm, rfl, _, hd, rfl, ha, rfl⟩

lemma authenticate_eq_ok_iff {a : Authority} {auth : Authorization} {allowSession : Bool}
    {o : AuthOutcome} {payer : AccountRef} (hp : c.accounts[0]? = some payer) :
    c.authenticate a auth allowSession = .ok o ↔
      (c.request payer.key auth allowSession).authenticate c.verify a = .ok o := by
  simp only [authenticate, bind_eq_ok_iff, account_eq_ok_iff, hp]
  constructor
  · rintro ⟨_, ⟨⟩, h⟩
    exact h
  · intro h
    exact ⟨payer, rfl, h⟩

/-! ## The instructions -/

lemma acts_of_authenticate {auth : Authorization} {allowSession : Bool}
    {payer wallet marker : AccountRef} {w : Wallet} {a : Authority} {o : AuthOutcome}
    (hpayer : c.accounts[0]? = some payer ∧ payer.signer = true)
    (hwallet : c.accounts[1]? = some wallet)
    (hw : View.HoldsWallet c.data? c.deployment wallet.key w)
    (hmarker : c.accounts[2]? = some marker)
    (ha : View.Names c.data? c.deployment wallet.key w marker.key a)
    (ho : c.authenticate a auth allowSession = .ok o) :
    c.Acts auth allowSession ⟨payer, wallet, marker, w, a, o⟩ :=
  ⟨hpayer.1, hpayer.2, hwallet, hw, hmarker, ha, (authenticate_eq_ok_iff hpayer.1).1 ho⟩

lemma keyAt_of_account {index : Nat} {r : AccountRef} {key : Key}
    (h : c.accounts[index]? = some r) (hkey : r.key = key) : c.keyAt index = some key := by
  rw [keyAt, h, ← hkey]
  rfl

lemma exists_account_of_keyAt {index : Nat} {key : Key} (h : c.keyAt index = some key) :
    ∃ r, c.accounts[index]? = some r ∧ r.key = key :=
  Option.map_eq_some_iff.1 h

lemma performs_createWallet {auth : Authorization} {walletId : Key} {ownerBump : UInt8}
    {owner : AuthorityPayload} {delta : Delta}
    (h : c.createWallet walletId ownerBump owner = .ok delta) :
    c.Performs auth (.createWallet walletId ownerBump owner) delta := by
  simp only [createWallet, requireAccounts, bind_eq_ok_iff, ensure_eq_ok, exists_const,
    payer_eq_ok_iff, checkSystemProgram_eq_ok_iff, account_eq_ok_iff, derive_eq_ok_iff,
    ofRecord_eq_ok_iff, pure_eq_ok_iff] at h
  obtain ⟨-, payer, ⟨hpayer, hsigns⟩, hsystem, walletRef, hwalletRef, wallet, hwallet, hwalletKey,
    hwalletVacant, vault, hvault, vaultRef, hvaultRef, hvaultKey, marker, hmarker, markerRef,
    hmarkerRef, hmarkerKey, rfl, hmarkerVacant, record, hrecord, rfl⟩ := h
  exact .createWallet hpayer hsigns hsystem hwallet (keyAt_of_account hwalletRef hwalletKey)
    hwalletVacant hvault (keyAt_of_account hvaultRef hvaultKey) hmarker
    (keyAt_of_account hmarkerRef hmarkerKey) hmarkerVacant hrecord

lemma performs_addAuthority {auth : Authorization} {role : Role} {p : AuthorityPayload}
    {proof : List UInt8} {delta : Delta} (h : c.addAuthority role p auth = .ok delta) :
    c.Performs auth (.addAuthority role p proof) delta := by
  simp only [addAuthority, requireAccounts, bind_eq_ok_iff, ensure_eq_ok, exists_const,
    payer_eq_ok_iff, checkSystemProgram_eq_ok_iff, account_eq_ok_iff, derive_eq_ok_iff,
    loadWallet_eq_ok_iff, resolveAuthority_eq_ok_iff, ofRecord_eq_ok_iff, pure_eq_ok_iff] at h
  obtain ⟨-, payer, hpayer, hsystem, wallet, hwallet, w, hw, acting, hacting, a, ha, o, ho, hmay,
    marker, hmarker, markerRef, hmarkerRef, hmarkerKey, hvacant, counted, hcounted, ⟨grown, id⟩,
    hgrown, rfl⟩ := h
  exact .addAuthority (acts_of_authenticate hpayer hwallet hw hacting ha ho) hsystem hmay hmarker
    (keyAt_of_account hmarkerRef hmarkerKey) hvacant hcounted hgrown

lemma performs_removeAuthority {auth : Authorization} {proof : List UInt8} {delta : Delta}
    (h : c.removeAuthority auth = .ok delta) :
    c.Performs auth (.removeAuthority proof) delta := by
  simp only [removeAuthority, requireAccounts, bind_eq_ok_iff, ensure_eq_ok, exists_const,
    payer_eq_ok_iff, account_eq_ok_iff, loadWallet_eq_ok_iff, resolveAuthority_eq_ok_iff,
    ofRecord_eq_ok_iff, pure_eq_ok_iff] at h
  obtain ⟨-, payer, hpayer, wallet, hwallet, target, htarget, refund, hrefund, hwritable, w, hw,
    acting, hacting, a, ha, o, ho, b, hb, hnotOwner, hmay, counted, hcounted, ⟨shrunk, removed⟩,
    hshrunk, rfl⟩ := h
  exact .removeAuthority htarget hrefund hwritable
    (acts_of_authenticate hpayer hwallet hw hacting ha ho) hb hnotOwner hmay hcounted hshrunk

lemma performs_transferOwnership {auth : Authorization} {p : AuthorityPayload}
    {proof : List UInt8} {delta : Delta} (h : c.transferOwnership p auth = .ok delta) :
    c.Performs auth (.transferOwnership p proof) delta := by
  simp only [transferOwnership, requireAccounts, bind_eq_ok_iff, ensure_eq_ok, exists_const,
    payer_eq_ok_iff, checkSystemProgram_eq_ok_iff, account_eq_ok_iff, derive_eq_ok_iff,
    loadWallet_eq_ok_iff, resolveAuthority_eq_ok_iff, ofRecord_eq_ok_iff, pure_eq_ok_iff] at h
  obtain ⟨-, payer, hpayer, hsystem, wallet, hwallet, acting, hacting, w, hw, a, ha, o, ho, hrole,
    marker, hmarker, markerRef, hmarkerRef, hmarkerKey, counted, hcounted, ⟨moved, old⟩, hmoved,
    hvacant, rfl⟩ := h
  exact .transferOwnership (acts_of_authenticate hpayer hwallet hw hacting ha ho) hsystem hrole
    hmarker (keyAt_of_account hmarkerRef hmarkerKey) hcounted hmoved hvacant

lemma performs_createSession {auth : Authorization} {sessionKey : Key} {expiresAt : UInt64}
    {proof : List UInt8} {delta : Delta}
    (h : c.createSession sessionKey expiresAt auth = .ok delta) :
    c.Performs auth (.createSession sessionKey expiresAt proof) delta := by
  simp only [createSession, requireAccounts, bind_eq_ok_iff, ensure_eq_ok, exists_const,
    payer_eq_ok_iff, checkSystemProgram_eq_ok_iff, account_eq_ok_iff, derive_eq_ok_iff,
    loadWallet_eq_ok_iff, resolveAuthority_eq_ok_iff, ofRecord_eq_ok_iff, pure_eq_ok_iff] at h
  obtain ⟨-, payer, hpayer, hsystem, wallet, hwallet, w, hw, acting, hacting, a, ha, o, ho,
    hmanages, session, hsession, sessionRef, hsessionRef, hsessionKey, hvacant, hfuture, hbounded,
    counted, hcounted, rfl⟩ := h
  exact .createSession (acts_of_authenticate hpayer hwallet hw hacting ha ho) hsystem hmanages
    hsession (keyAt_of_account hsessionRef hsessionKey) hvacant hfuture hbounded hcounted

/-! ## Executions -/

lemma calls_of_authorizeSession {auth : Authorization} {payer walletKey key : Key} {w : Wallet}
    {caller : Caller} (h : c.authorizeSession walletKey w key = .ok caller) :
    c.Calls auth payer walletKey w key caller [] := by
  simp only [authorizeSession, bind_eq_ok_iff, ensure_eq_ok, exists_const, orError_eq_ok_iff,
    derive_eq_ok_iff, pure_eq_ok_iff, Option.any_eq_true, Bool.and_eq_true, beq_iff_eq,
    AccountRef.signs_iff] at h
  obtain ⟨bs, hbs, s, hs, hwallet, address, haddress, rfl, hlive, ⟨a, ha, hseed, hmanages⟩, hsigns,
    rfl⟩ := h
  exact .session (View.record?_eq_session_iff.2 ⟨bs, hbs, hs⟩) hwallet ⟨address.bump, haddress⟩
    hlive ⟨a, ha, hseed, hmanages⟩ hsigns

lemma calls_of_authorizeCaller {auth : Authorization} {payer : AccountRef} {walletKey key : Key}
    {w : Wallet} {caller : Caller} {delta : Delta} (hp : c.accounts[0]? = some payer)
    (h : c.authorizeCaller walletKey w key auth = .ok (caller, delta)) :
    c.Calls auth payer.key walletKey w key caller delta := by
  simp only [authorizeCaller] at h
  split at h
  · simp only [bind_eq_ok_iff, pure_eq_ok_iff, Prod.mk.injEq] at h
    obtain ⟨_, hcaller, rfl, rfl⟩ := h
    exact calls_of_authorizeSession hcaller
  · split at h
    · simp only [bind_eq_ok_iff, resolveAuthority_eq_ok_iff, authenticate_eq_ok_iff hp,
        ofRecord_eq_ok_iff, pure_eq_ok_iff, Prod.mk.injEq] at h
      obtain ⟨a, ha, o, ho, counted, hcounted, rfl, rfl⟩ := h
      exact .authority ha ho hcounted
    · cases h

lemma prepares_of_prepareExecution {auth : Authorization} {calls : List PackedCall}
    {p : PreparedExecution} (h : c.prepareExecution calls auth = .ok p) :
    ∃ payer wallet caller vault w, c.Prepares calls auth p payer wallet caller vault w := by
  simp only [prepareExecution, requireAccounts, bind_eq_ok_iff, ensure_eq_ok, exists_const,
    payer_eq_ok_iff, account_eq_ok_iff, derive_eq_ok_iff, loadWallet_eq_ok_iff, pure_eq_ok_iff] at h
  obtain ⟨-, payer, ⟨hpayer, hsigns⟩, wallet, hwallet, callerRef, hcallerRef, vaultRef, hvaultRef,
    w, hw, vault, hvault, hkey, hbump, ⟨caller, delta⟩, hcaller, resolved, hresolved, rfl⟩ := h
  refine ⟨payer, wallet, callerRef, vaultRef, w, hpayer, hsigns, hwallet, hw, hcallerRef, hvaultRef,
    ?_, calls_of_authorizeCaller hpayer hcaller, rfl, ?_, ?_⟩
  · rw [hkey, ← hbump, hvault]
  · rw [hkey, hresolved]
  · rw [hbump]

lemma Prepares.acts {calls : List PackedCall} {auth : Authorization} {p : PreparedExecution}
    {payer wallet caller vault : AccountRef} {w : Wallet} {a : Authority} {o : AuthOutcome}
    (h : c.Prepares calls auth p payer wallet caller vault w)
    (ha : View.Names c.data? c.deployment wallet.key w caller.key a)
    (ho : (c.request payer.key auth true).authenticate c.verify a = .ok o) :
    c.Acts auth true ⟨payer, wallet, caller, w, a, o⟩ :=
  ⟨h.payerAt, h.signs, h.walletAt, h.holds, h.callerAt, ha, ho⟩

/-! ## Whole instructions -/

lemma prepareExecution_of_perform {dispatcher : Dispatcher} {calls : List PackedCall}
    {proof : List UInt8} {auth : Authorization} {o : Outcome}
    (h : (c.perform dispatcher (.execute calls proof) auth).2 = .ok o) :
    ∃ p, c.prepareExecution calls auth = .ok p ∧ o = ⟨.execute, p.delta, some p.plan⟩ := by
  cases hp : c.prepareExecution calls auth with
  | error e => simp [perform, hp] at h
  | ok p =>
    simp only [perform, hp, dispatch] at h
    split at h
    · cases h
      exact ⟨p, rfl, rfl⟩
    · cases h

theorem performs_of_perform {dispatcher : Dispatcher} {ix : Instruction} {auth : Authorization}
    {o : Outcome} (h : (c.perform dispatcher ix auth).2 = .ok o) :
    o.kind = ix.kind ∧ c.Performs auth ix o.delta := by
  cases ix with
  | createWallet walletId ownerBump owner =>
    obtain ⟨delta, hdelta, rfl⟩ := map_eq_ok_iff.1 h
    exact ⟨rfl, performs_createWallet hdelta⟩
  | addAuthority role p proof =>
    obtain ⟨delta, hdelta, rfl⟩ := map_eq_ok_iff.1 h
    exact ⟨rfl, performs_addAuthority hdelta⟩
  | removeAuthority proof =>
    obtain ⟨delta, hdelta, rfl⟩ := map_eq_ok_iff.1 h
    exact ⟨rfl, performs_removeAuthority hdelta⟩
  | transferOwnership p proof =>
    obtain ⟨delta, hdelta, rfl⟩ := map_eq_ok_iff.1 h
    exact ⟨rfl, performs_transferOwnership hdelta⟩
  | execute calls proof =>
    obtain ⟨p, hp, rfl⟩ := prepareExecution_of_perform h
    obtain ⟨payer, wallet, caller, vault, w, hprepares⟩ := prepares_of_prepareExecution hp
    exact ⟨rfl, .execute hprepares⟩
  | createSession sessionKey expiresAt proof =>
    obtain ⟨delta, hdelta, rfl⟩ := map_eq_ok_iff.1 h
    exact ⟨rfl, performs_createSession hdelta⟩

lemma readInstruction_eq_ok_iff {data : List UInt8} {ix : Instruction} {auth : Authorization} :
    c.readInstruction data = .ok (ix, auth) ↔
      Instruction.decode c.deployment.profile data = .ok ix ∧
        ix.signedBody = .ok auth.body ∧
        auth.discriminator = ix.kind.discriminator c.deployment.profile ∧
        auth.proof = ix.proof := by
  simp only [readInstruction, bind_eq_ok_iff, pure_eq_ok_iff, Prod.mk.injEq]
  constructor
  · rintro ⟨_, hix, _, hbody, rfl, rfl⟩
    exact ⟨hix, hbody, rfl, rfl⟩
  · rintro ⟨hix, hbody, hd, hp⟩
    exact ⟨ix, hix, _, hbody, rfl, by rw [← hd, ← hp]⟩

end Context

namespace Ledger

variable {l : Ledger} {d : Deployment} {verify : Verifier} {dispatcher : Dispatcher}
  {accounts : List AccountRef} {data : List UInt8}

/-- What a run yields, step by step. -/
def trace {α : Type} (d : Deployment) (f : Ledger → Step → List α) : Ledger → List Step → List α
  | _, [] => []
  | l, s :: rest => f l s ++ trace d f (l.step d s) rest

/-- A successful step is the commit of what one instruction writes. -/
structure Commits (l : Ledger) (d : Deployment) (verify : Verifier) (dispatcher : Dispatcher)
    (accounts : List AccountRef) (data : List UInt8) (ix : Instruction) (auth : Authorization)
    (o : Outcome) (l' : Ledger) : Prop where
  answered : (l.process d verify dispatcher accounts data).result = .ok o
  read : (l.context d verify accounts).readInstruction data = .ok (ix, auth)
  performed : ((l.context d verify accounts).perform dispatcher ix auth).2 = .ok o
  applied : l.apply o.delta = .ok l'

theorem exists_commits {o : Outcome}
    (h : (l.process d verify dispatcher accounts data).result = .ok o) :
    ∃ ix auth, l.Commits d verify dispatcher accounts data ix auth o
      (l.process d verify dispatcher accounts data).ledger := by
  have hanswered := h
  unfold process Context.process at h ⊢
  cases hread : (l.context d verify accounts).readInstruction data with
  | error e => simp [hread] at h
  | ok read =>
    obtain ⟨ix, auth⟩ := read
    simp only [hread] at h ⊢
    cases hperform : ((l.context d verify accounts).perform dispatcher ix auth).2 with
    | error e => simp [hperform] at h
    | ok o' =>
      simp only [hperform] at h ⊢
      cases happly : l.apply o'.delta with
      | error e => simp [happly] at h
      | ok l' =>
        simp only [happly, Except.ok.injEq] at h ⊢
        subst h
        exact ⟨ix, auth, hanswered, hread, hperform, happly⟩

/-- Nothing is stored where nothing can be seen. -/
lemma view_of_isVacant {key : Key} (h : (l.context d verify accounts).isVacant key = true) :
    l.view key = none := by
  have h : ((l.data? key).getD []).isEmpty = true := h
  show l.data? key = none
  cases hk : l.data? key with
  | none => rfl
  | some bs =>
    have hbs : bs ≠ [] := by simpa using (Option.filter_eq_some_iff.1 hk).2
    simp [hk, hbs] at h

lemma log_process : (l.process d verify dispatcher accounts data).log =
    ((l.context d verify accounts).process dispatcher data).1 := by
  unfold process
  cases hresult : ((l.context d verify accounts).process dispatcher data).2 with
  | error e => simp [hresult]
  | ok o => cases happly : l.apply o.delta <;> simp [hresult, happly]

/-- A failed instruction leaves the ledger as it was. -/
theorem ledger_of_error {e : ProgramError}
    (h : (l.process d verify dispatcher accounts data).result = .error e) :
    (l.process d verify dispatcher accounts data).ledger = l := by
  unfold process at *
  cases hresult : ((l.context d verify accounts).process dispatcher data).2 with
  | error e => simp [hresult]
  | ok o =>
    simp only [hresult] at h ⊢
    cases happly : l.apply o.delta with
    | error e => rfl
    | ok l' => simp [happly] at h

/-- Each instruction either leaves the ledger as it was or commits what it writes. -/
theorem step_submit_cases :
    l.step d (.submit verify dispatcher accounts data) = l ∨
      ∃ ix auth o, l.Commits d verify dispatcher accounts data ix auth o
        (l.step d (.submit verify dispatcher accounts data)) := by
  simp only [step]
  cases h : (l.process d verify dispatcher accounts data).result with
  | error e => exact .inl (ledger_of_error h)
  | ok o =>
    obtain ⟨ix, auth, hcommits⟩ := exists_commits h
    exact .inr ⟨ix, auth, o, hcommits⟩

namespace Commits

variable {ix : Instruction} {auth : Authorization} {o : Outcome} {l' : Ledger}

lemma performs (h : l.Commits d verify dispatcher accounts data ix auth o l') :
    (l.context d verify accounts).Performs auth ix o.delta :=
  (Context.performs_of_perform h.performed).2

lemma view_eq (h : l.Commits d verify dispatcher accounts data ix auth o l') :
    l'.view = o.delta.shown l.view :=
  view_apply h.applied

lemma slot_eq (h : l.Commits d verify dispatcher accounts data ix auth o l') :
    l'.slot = l.slot := by
  have happlied := h.applied
  simp only [apply, bind_eq_ok_iff, pure_eq_ok_iff] at happlied
  obtain ⟨accounts, -, hledger⟩ := happlied
  rw [← hledger]

end Commits

lemma slot_process : (l.process d verify dispatcher accounts data).ledger.slot = l.slot := by
  cases h : (l.process d verify dispatcher accounts data).result with
  | error e => rw [ledger_of_error h]
  | ok o =>
    obtain ⟨ix, auth, hc⟩ := exists_commits h
    exact hc.slot_eq

end Ledger

/-! ## A wallet to look at -/

namespace Sample

def walletId : Key := .replicate 32 1

def walletKey : Key := ⟨[
  0x24, 0x57, 0xcd, 0x3c, 0x1f, 0x52, 0x2e, 0xfd, 0x2a, 0xc1, 0x35, 0x28, 0x8c, 0x7b, 0x40, 0x29,
  0xd5, 0x07, 0x69, 0xf6, 0x26, 0xec, 0x28, 0x3a, 0x7f, 0x85, 0x65, 0x2a, 0x8e, 0x69, 0xd7, 0x5e],
  rfl⟩

def vaultKey : Key := ⟨[
  0xd7, 0x3f, 0xdb, 0x67, 0x82, 0xdc, 0x1d, 0x6f, 0xa0, 0xb6, 0x4d, 0xac, 0xc6, 0x96, 0x71, 0x3b,
  0xc1, 0xfe, 0x3b, 0x87, 0x48, 0x95, 0xea, 0x09, 0x84, 0x70, 0x2c, 0xef, 0x91, 0x12, 0xe5, 0x82],
  rfl⟩

def markerKey : Key := ⟨[
  0x4a, 0x42, 0x25, 0xc1, 0x15, 0xf7, 0x4e, 0xbf, 0x31, 0x35, 0xc1, 0xbf, 0x35, 0xea, 0xb6, 0x4c,
  0xfa, 0x6e, 0x57, 0x1e, 0x7c, 0xf9, 0xbe, 0x31, 0x43, 0xa7, 0x89, 0xb0, 0x51, 0x77, 0x87, 0x44],
  rfl⟩

/-- A P-256 key with its seed. -/
def passkey : AuthorityPayload :=
  ⟨.replicate 32 1, .secp256r1 ⟨2 :: List.replicate 32 1, rfl⟩⟩

def payer : AccountRef := ⟨.replicate 32 9, true, true⟩

def ownerEntry (counter : UInt32) : Authority :=
  ⟨0, .owner, passkey.seed, counter, passkey.credential⟩

/-- The wallet with the counter of its owner. -/
def wallet (counter : UInt32) : Wallet := ⟨255, 255, walletId, [ownerEntry counter]⟩

lemma eq_ownerEntry {counter : UInt32} {i : UInt8} {a : Authority}
    (h : (wallet counter).authority? i = some a) : a = ownerEntry counter := by
  simpa [wallet] using Wallet.mem_of_authority? h

lemma wellFormed_wallet (counter : UInt32) : (wallet counter).WellFormed := by
  refine ⟨by simp [wallet], rfl, ?_⟩
  intro a ha
  simp only [wallet, List.mem_singleton] at ha
  subst ha
  exact ⟨rfl, rfl⟩

lemma derive_wallet : (Recipe.wallet walletId.toList).derive default = .ok ⟨walletKey, 255⟩ := by
  decide +kernel

lemma derive_vault : (Recipe.vault walletKey).derive default = .ok ⟨vaultKey, 255⟩ := by
  decide +kernel

lemma derive_marker :
    (Recipe.authority walletKey passkey.seed).derive default = .ok ⟨markerKey, 255⟩ := by
  decide +kernel

lemma walletKey_ne_markerKey : walletKey ≠ markerKey := by
  decide

/-- The wallet and its owner's marker, as they are stored. -/
def ledger (counter : UInt32) : Ledger :=
  ⟨⟨[(walletKey, ⟨0, (wallet counter).encode⟩),
    (markerKey, ⟨0, AuthorityMarker.encode ⟨255, 0, walletKey, passkey.seed⟩⟩)],
    by simp [walletKey_ne_markerKey]⟩, 0⟩

lemma record?_ledger (counter : UInt32) :
    (ledger counter).view.record? walletKey = some (.wallet (wallet counter)) := by
  have hdata : (ledger counter).view walletKey = some (wallet counter).encode := by
    simp [Ledger.view, Ledger.data?, Ledger.account?, AccountMap.find?, ledger,
      Wallet.encode_ne_nil]
  rw [View.record?, hdata]
  exact StoredRecord.decode?_encode_wallet (wellFormed_wallet counter)

lemma record?_ledger_marker (counter : UInt32) :
    (ledger counter).view.record? markerKey =
      some (.authority ⟨255, 0, walletKey, passkey.seed⟩) := by
  have hdata : (ledger counter).view markerKey =
      some (AuthorityMarker.encode ⟨255, 0, walletKey, passkey.seed⟩) := by
    have hne : (markerKey == walletKey) = false := by decide
    simp [Ledger.view, Ledger.data?, Ledger.account?, AccountMap.find?, ledger, List.lookup, hne,
      AuthorityMarker.encode_ne_nil]
  rw [View.record?, hdata, Option.bind_some, StoredRecord.decode?_encode_authority]

/-- The proof that the owner's key makes at slot 0. -/
def signature (kind : InstructionKind) (body : List UInt8) (accounts : List AccountRef)
    (counter : UInt32) : List UInt8 :=
  SignedProof.encode ⟨0, counter, Verifier.echoSignature
    (Challenge.digest ⟨[kind.number], body, payer.key, accounts, 0, counter⟩)⟩

/-- An owner that signs as the payer. -/
def manager : AuthorityPayload := .ofKey payer.key

def managerMarkerKey : Key := ⟨[
  0xfe, 0x0b, 0x10, 0x08, 0x00, 0x82, 0x01, 0xf4, 0x6b, 0x7e, 0xbb, 0x44, 0x8d, 0x5e, 0x89, 0xf9,
  0xa1, 0xa6, 0x8c, 0xf4, 0x51, 0x7f, 0x5c, 0xd8, 0xc9, 0x8a, 0x8f, 0x8f, 0x6d, 0x82, 0x39, 0x20],
  rfl⟩

/-- The manager creates the wallet. -/
def founding : Step :=
  .submit .echo .acceptAll
    [payer, ⟨walletKey, false, true⟩, ⟨vaultKey, false, false⟩, ⟨managerMarkerKey, false, true⟩,
      ⟨systemProgram, false, false⟩]
    (InstructionKind.createWallet.number :: walletId.toList ++ [manager.kind.tag, 255] ++
      Instruction.padding ++ manager.encode)

def foundedWallet : Wallet :=
  ⟨255, 255, walletId, [⟨0, .owner, manager.seed, 0, manager.credential⟩]⟩

/-- The manager's wallet and marker, as they are stored. -/
def managedLedger : Ledger :=
  ⟨(AccountMap.empty.set walletKey ⟨0, foundedWallet.encode⟩).set managerMarkerKey
    ⟨0, AuthorityMarker.encode ⟨255, 0, walletKey, manager.seed⟩⟩, 0⟩

lemma step_founding : Ledger.empty.step default founding = managedLedger := by
  decide +kernel

/-- What comes after the founding starts from what it stores. -/
lemma run_founding (steps : List Step) :
    Ledger.empty.run default (founding :: steps) = managedLedger.run default steps := by
  rw [Ledger.run_cons, step_founding]

end Sample

end SmartWallet
