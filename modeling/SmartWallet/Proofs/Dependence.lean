import SmartWallet.Proofs.Footprint

/-!
# What an instruction depends on

An instruction on a wallet sees the records of that wallet, and whether its own new addresses are
vacant. An account that holds a record of another wallet looks to it like any other account that is
of no use: it fails in the same way, whatever the record is and even if there is none.
-/

namespace SmartWallet

/-! ## Checks that agree -/

section Checks

variable {ε α β : Type}

lemma bind_eq_bind {x y : Except ε α} {f g : α → Except ε β} (hx : x = y)
    (h : ∀ a, y = .ok a → f a = g a) : x >>= f = y >>= g := by
  subst hx
  cases x with
  | error e => rfl
  | ok a => exact h a rfl

end Checks

lemma Authority.failsBy_read {bs : List UInt8} : FailsBy .invalidAccountData (read bs) := by
  unfold read
  split
  · refine failsBy_orError.bind fun counter => ?_
    refine failsBy_orError.bind fun seed => ?_
    refine failsBy_mapError.bind fun kind => ?_
    refine failsBy_mapError.bind fun role => ?_
    refine failsBy_orError.bind fun credential => ?_
    exact failsBy_ensure.bind fun _ => failsBy_ok
  · exact failsBy_error

lemma Wallet.failsBy_readAuthorities {fuel : Nat} {last? : Option UInt8} {bs : List UInt8} :
    FailsBy .invalidAccountData (readAuthorities fuel last? bs) := by
  induction fuel generalizing last? bs with
  | zero =>
    cases bs with
    | nil => exact failsBy_ok
    | cons b bs => exact failsBy_error
  | succ fuel ih =>
    cases bs with
    | nil => exact failsBy_ok
    | cons b bs =>
      refine Authority.failsBy_read.bind fun a => ?_
      exact failsBy_ensure.bind fun _ => ih.bind fun _ => failsBy_ok

lemma Wallet.failsBy_decode {bs : List UInt8} : FailsBy .invalidAccountData (decode bs) := by
  unfold decode
  split
  · refine failsBy_ensure.bind fun _ => ?_
    refine failsBy_orError.bind fun walletId => ?_
    refine failsBy_readAuthorities.bind fun authorities => ?_
    exact failsBy_ensure.bind fun _ => failsBy_ensure.bind fun _ => failsBy_ok
  · exact failsBy_error

/-! ## Views that look alike -/

namespace View

/-- What an account holds, if anything, does not belong to a wallet. -/
def Away (v : View) (wallet key : Key) : Prop :=
  ∀ r, v.record? key = some r → r.home key ≠ wallet

/-- Two views look alike to an instruction on a wallet that creates accounts from some recipes. -/
structure AlikeFor (d : Deployment) (wallet : Key) (recipes : List Recipe) (v v' : View) :
    Prop where
  data : ∀ key, v' key = v key ∨ v.Away wallet key ∧ v'.Away wallet key
  fresh : ∀ recipe ∈ recipes, ∀ key, recipe.address d = .ok key → recipe.home key = wallet →
    v' key = v key

end View

namespace Context

variable {c : Context} {v : View} {wallet key : Key} {w : Wallet} {recipes : List Recipe}
  {auth : Authorization} {recipe : Recipe} {address : DerivedAddress}

/-- The same inputs on other data. -/
def withData (c : Context) (v : View) : Context := { c with data? := v }

@[simp] lemma data?_withData : (c.withData v).data? = v := rfl

@[simp] lemma derive_withData : (c.withData v).derive recipe = c.derive recipe := rfl

lemma loadWallet_of_away (h : View.Away c.data? wallet wallet) :
    c.loadWallet wallet = .error .invalidAccountData := by
  unfold loadWallet
  cases hbs : c.data? wallet with
  | none => rfl
  | some bs =>
    have hnone : Wallet.decode bs = .error .invalidAccountData := by
      refine Wallet.failsBy_decode.eq_error fun w hw => ?_
      exact h _ (View.record?_eq_wallet_iff.2 ⟨bs, hbs, hw⟩) rfl
    show ofRecord (Wallet.decode bs) >>= _ = _
    rw [hnone]
    rfl

lemma resolveAuthority_of_away (h : View.Away c.data? wallet key) :
    c.resolveAuthority wallet w key = .error .unauthorized := by
  unfold resolveAuthority
  cases hbs : c.data? key with
  | none => rfl
  | some bs =>
    cases hm : AuthorityMarker.decode? bs with
    | none => simp [orError, hm, Bind.bind, Except.bind]
    | some m =>
      have hne : m.wallet ≠ wallet := h _ (View.record?_eq_authority_iff.2 ⟨bs, hbs, hm⟩)
      simp [orError, hm, ensure, hne, Bind.bind, Except.bind]

lemma authorizeSession_of_away (h : View.Away c.data? wallet key) :
    c.authorizeSession wallet w key = .error .unauthorized := by
  unfold authorizeSession
  cases hbs : c.data? key with
  | none => rfl
  | some bs =>
    cases hs : SessionRecord.decode? bs with
    | none => simp [orError, hs, Bind.bind, Except.bind]
    | some s =>
      have hne : s.wallet ≠ wallet := h _ (View.record?_eq_session_iff.2 ⟨bs, hbs, hs⟩)
      simp [orError, hs, ensure, hne, Bind.bind, Except.bind]

lemma authorizeCaller_of_away (h : View.Away c.data? wallet key) :
    c.authorizeCaller wallet w key auth = .error .unauthorized := by
  simp only [authorizeCaller, authorizeSession_of_away h, resolveAuthority_of_away h]
  split
  · rfl
  · split <;> rfl

namespace AlikeFor

variable (h : View.AlikeFor c.deployment wallet recipes c.data? v)
include h

lemma loadWallet_eq : (c.withData v).loadWallet wallet = c.loadWallet wallet := by
  rcases h.data wallet with hsame | ⟨hbefore, hafter⟩
  · simp only [loadWallet, data?_withData, derive_withData, hsame]
  · rw [loadWallet_of_away hbefore, loadWallet_of_away (c := c.withData v) hafter]

lemma resolveAuthority_eq : (c.withData v).resolveAuthority wallet w key =
    c.resolveAuthority wallet w key := by
  rcases h.data key with hsame | ⟨hbefore, hafter⟩
  · simp only [resolveAuthority, data?_withData, derive_withData, hsame]
  · rw [resolveAuthority_of_away hbefore, resolveAuthority_of_away (c := c.withData v) hafter]

lemma authorizeCaller_eq : (c.withData v).authorizeCaller wallet w key auth =
    c.authorizeCaller wallet w key auth := by
  rcases h.data key with hsame | ⟨hbefore, hafter⟩
  · have hsession : (c.withData v).authorizeSession wallet w key =
        c.authorizeSession wallet w key := by
      simp only [authorizeSession, data?_withData, derive_withData, hsame]
      rfl
    unfold authorizeCaller
    rw [hsession, resolveAuthority_eq h, data?_withData, hsame]
    rfl
  · rw [authorizeCaller_of_away hbefore, authorizeCaller_of_away (c := c.withData v) hafter]

lemma data_eq (hmem : recipe ∈ recipes) (hderive : c.derive recipe = .ok address)
    (hhome : recipe.home address.key = wallet) : v address.key = c.data? address.key :=
  h.fresh recipe hmem _ (Recipe.address_of_derive (derive_eq_ok_iff.1 hderive)) hhome

lemma isVacant_eq (hmem : recipe ∈ recipes) (hderive : c.derive recipe = .ok address)
    (hhome : recipe.home address.key = wallet) :
    (c.withData v).isVacant address.key = c.isVacant address.key := by
  rw [isVacant, isVacant, data?_withData, data_eq h hmem hderive hhome]

end AlikeFor

/-! ## The instructions -/

/-- The data looks alike to an instruction on the wallet at the second account. -/
def SeesAlike (c : Context) (ix : Instruction) (v : View) : Prop :=
  ∀ r, c.accounts[1]? = some r →
    View.AlikeFor c.deployment r.key (ix.recipes r.key) c.data? v

lemma SeesAlike.of_account {ix : Instruction} {r : AccountRef} (h : c.SeesAlike ix v)
    (hr : c.account 1 = .ok r) :
    View.AlikeFor c.deployment r.key (ix.recipes r.key) c.data? v :=
  h r (account_eq_ok_iff.1 hr)

lemma createWallet_withData {walletId : Key} {ownerBump : UInt8} {owner : AuthorityPayload}
    (h : c.SeesAlike (.createWallet walletId ownerBump owner) v) :
    (c.withData v).createWallet walletId ownerBump owner =
      c.createWallet walletId ownerBump owner := by
  unfold createWallet
  refine bind_eq_bind rfl fun _ _ => ?_
  refine bind_eq_bind rfl fun _ _ => ?_
  refine bind_eq_bind rfl fun _ _ => ?_
  refine bind_eq_bind rfl fun walletRef hwalletRef => ?_
  refine bind_eq_bind rfl fun address hderive => ?_
  refine bind_eq_bind rfl fun _ hkey => ?_
  have hsees := h.of_account hwalletRef
  rw [ensure_eq_ok] at hkey
  rw [hkey] at hsees
  have hwallet := AlikeFor.isVacant_eq hsees (List.mem_cons_self ..) hderive rfl
  refine bind_eq_bind (by rw [hwallet]) fun _ _ => ?_
  refine bind_eq_bind rfl fun _ _ => ?_
  refine bind_eq_bind rfl fun _ _ => ?_
  refine bind_eq_bind rfl fun _ _ => ?_
  refine bind_eq_bind rfl fun marker hmarker => ?_
  have hvacant := AlikeFor.isVacant_eq hsees (by simp [Instruction.recipes]) hmarker rfl
  refine bind_eq_bind rfl fun _ _ => ?_
  refine bind_eq_bind rfl fun _ _ => ?_
  refine bind_eq_bind rfl fun _ _ => ?_
  rw [hvacant]

lemma addAuthority_withData {role : Role} {p : AuthorityPayload} {proof : List UInt8}
    (h : c.SeesAlike (.addAuthority role p proof) v) :
    (c.withData v).addAuthority role p auth = c.addAuthority role p auth := by
  unfold addAuthority
  refine bind_eq_bind rfl fun _ _ => ?_
  refine bind_eq_bind rfl fun _ _ => ?_
  refine bind_eq_bind rfl fun _ _ => ?_
  refine bind_eq_bind rfl fun walletRef hwalletRef => ?_
  have hsees := h.of_account hwalletRef
  refine bind_eq_bind (AlikeFor.loadWallet_eq hsees) fun _ _ => ?_
  refine bind_eq_bind rfl fun _ _ => ?_
  refine bind_eq_bind (AlikeFor.resolveAuthority_eq hsees) fun _ _ => ?_
  refine bind_eq_bind rfl fun _ _ => ?_
  refine bind_eq_bind rfl fun _ _ => ?_
  refine bind_eq_bind rfl fun marker hmarker => ?_
  have hvacant := AlikeFor.isVacant_eq hsees (List.mem_singleton_self _) hmarker rfl
  refine bind_eq_bind rfl fun _ _ => ?_
  refine bind_eq_bind rfl fun _ _ => ?_
  rw [hvacant]

lemma removeAuthority_withData {proof : List UInt8}
    (h : c.SeesAlike (.removeAuthority proof) v) :
    (c.withData v).removeAuthority auth = c.removeAuthority auth := by
  unfold removeAuthority
  refine bind_eq_bind rfl fun _ _ => ?_
  refine bind_eq_bind rfl fun _ _ => ?_
  refine bind_eq_bind rfl fun walletRef hwalletRef => ?_
  have hsees := h.of_account hwalletRef
  refine bind_eq_bind rfl fun _ _ => ?_
  refine bind_eq_bind rfl fun _ _ => ?_
  refine bind_eq_bind rfl fun _ _ => ?_
  refine bind_eq_bind (AlikeFor.loadWallet_eq hsees) fun _ _ => ?_
  refine bind_eq_bind rfl fun _ _ => ?_
  refine bind_eq_bind (AlikeFor.resolveAuthority_eq hsees) fun _ _ => ?_
  refine bind_eq_bind rfl fun _ _ => ?_
  exact bind_eq_bind (AlikeFor.resolveAuthority_eq hsees) fun _ _ => rfl

lemma transferOwnership_withData {p : AuthorityPayload} {proof : List UInt8}
    (h : c.SeesAlike (.transferOwnership p proof) v) :
    (c.withData v).transferOwnership p auth = c.transferOwnership p auth := by
  unfold transferOwnership
  refine bind_eq_bind rfl fun _ _ => ?_
  refine bind_eq_bind rfl fun _ _ => ?_
  refine bind_eq_bind rfl fun _ _ => ?_
  refine bind_eq_bind rfl fun walletRef hwalletRef => ?_
  have hsees := h.of_account hwalletRef
  refine bind_eq_bind rfl fun _ _ => ?_
  refine bind_eq_bind (AlikeFor.loadWallet_eq hsees) fun _ _ => ?_
  refine bind_eq_bind (AlikeFor.resolveAuthority_eq hsees) fun _ _ => ?_
  refine bind_eq_bind rfl fun _ _ => ?_
  refine bind_eq_bind rfl fun _ _ => ?_
  refine bind_eq_bind rfl fun marker hmarker => ?_
  have hvacant := AlikeFor.isVacant_eq hsees (List.mem_singleton_self _) hmarker rfl
  refine bind_eq_bind rfl fun _ _ => ?_
  refine bind_eq_bind rfl fun _ _ => ?_
  refine bind_eq_bind rfl fun _ _ => ?_
  refine bind_eq_bind rfl fun _ _ => ?_
  rw [hvacant]

lemma createSession_withData {sessionKey : Key} {expiresAt : UInt64} {proof : List UInt8}
    (h : c.SeesAlike (.createSession sessionKey expiresAt proof) v) :
    (c.withData v).createSession sessionKey expiresAt auth =
      c.createSession sessionKey expiresAt auth := by
  unfold createSession
  refine bind_eq_bind rfl fun _ _ => ?_
  refine bind_eq_bind rfl fun _ _ => ?_
  refine bind_eq_bind rfl fun _ _ => ?_
  refine bind_eq_bind rfl fun walletRef hwalletRef => ?_
  have hsees := h.of_account hwalletRef
  refine bind_eq_bind (AlikeFor.loadWallet_eq hsees) fun _ _ => ?_
  refine bind_eq_bind rfl fun _ _ => ?_
  refine bind_eq_bind (AlikeFor.resolveAuthority_eq hsees) fun _ _ => ?_
  refine bind_eq_bind rfl fun _ _ => ?_
  refine bind_eq_bind rfl fun _ _ => ?_
  refine bind_eq_bind rfl fun session hsession => ?_
  have hdata := AlikeFor.data_eq hsees (List.mem_singleton_self _) hsession rfl
  refine bind_eq_bind rfl fun _ _ => ?_
  refine bind_eq_bind rfl fun _ _ => ?_
  rw [data?_withData, hdata]
  rfl

lemma prepareExecution_withData {calls : List PackedCall} {proof : List UInt8}
    (h : c.SeesAlike (.execute calls proof) v) :
    (c.withData v).prepareExecution calls auth = c.prepareExecution calls auth := by
  unfold prepareExecution
  refine bind_eq_bind rfl fun _ _ => ?_
  refine bind_eq_bind rfl fun _ _ => ?_
  refine bind_eq_bind rfl fun walletRef hwalletRef => ?_
  have hsees := h.of_account hwalletRef
  refine bind_eq_bind rfl fun _ _ => ?_
  refine bind_eq_bind rfl fun _ _ => ?_
  refine bind_eq_bind (AlikeFor.loadWallet_eq hsees) fun _ _ => ?_
  refine bind_eq_bind rfl fun _ _ => ?_
  refine bind_eq_bind rfl fun _ _ => ?_
  refine bind_eq_bind rfl fun _ _ => ?_
  exact bind_eq_bind (AlikeFor.authorizeCaller_eq hsees) fun _ _ => rfl

lemma perform_withData {dispatcher : Dispatcher} {ix : Instruction} (h : c.SeesAlike ix v) :
    (c.withData v).perform dispatcher ix auth = c.perform dispatcher ix auth := by
  cases ix with
  | createWallet walletId ownerBump owner => simp only [perform, createWallet_withData h]
  | addAuthority role p proof => simp only [perform, addAuthority_withData h]
  | removeAuthority proof => simp only [perform, removeAuthority_withData h]
  | transferOwnership p proof => simp only [perform, transferOwnership_withData h]
  | createSession sessionKey expiresAt proof => simp only [perform, createSession_withData h]
  | execute calls proof => simp only [perform, prepareExecution_withData h]

/-- An instruction hands over the same calls and gives the same answer on data that looks alike. -/
theorem process_withData {dispatcher : Dispatcher} {data : List UInt8}
    (h : ∀ ix, Instruction.decode c.deployment.profile data = .ok ix → c.SeesAlike ix v) :
    (c.withData v).process dispatcher data = c.process dispatcher data := by
  have hread : (c.withData v).readInstruction data = c.readInstruction data := rfl
  rw [process, process, hread]
  split
  · rfl
  · next ix auth hix =>
    exact perform_withData (h ix (readInstruction_eq_ok_iff.1 hix).1)

end Context

end SmartWallet
