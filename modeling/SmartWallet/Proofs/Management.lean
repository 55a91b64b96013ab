import SmartWallet.Proofs.Effects

/-!
# Who manages a wallet

An instruction that changes a wallet's authorities, moves its ownership or opens a session succeeds
only if an entry of the wallet authorises it with its master credential and has a role that may.
-/

namespace SmartWallet

namespace Instruction

/-- The bytes that a signature for the instruction covers. A removal has no body of its own and
covers its target and its refund. -/
def Signs (accounts : List AccountRef) (body : List UInt8) : Instruction → Prop
  | .removeAuthority _ => ∃ target refund, accounts[3]? = some target ∧
      accounts[4]? = some refund ∧ body = target.key.toList ++ refund.key.toList
  | ix => ix.signedBody = .ok body

/-- What the role of an entry allows, and what lies at the fourth account. -/
def AllowedBy (v : View) (d : Deployment) (accounts : List AccountRef) (walletKey : Key)
    (w : Wallet) (a : Authority) : Instruction → Prop
  | .addAuthority role p _ =>
    role ≠ .owner ∧ (a.role = .owner ∨ a.role = .admin ∧ role = .spender) ∧
      ∃ r bump, accounts[3]? = some r ∧ v r.key = none ∧
        (Recipe.authority walletKey p.seed).derive d = .ok ⟨r.key, bump⟩
  | .removeAuthority _ =>
    ∃ r target, accounts[3]? = some r ∧ v.Names d walletKey w r.key target ∧
      target.role ≠ .owner ∧ (a.role = .owner ∨ a.role = .admin ∧ target.role = .spender)
  | .transferOwnership p _ =>
    a.role = .owner ∧ ∃ r bump, accounts[3]? = some r ∧
      (Recipe.authority walletKey p.seed).derive d = .ok ⟨r.key, bump⟩
  | .createSession sessionKey _ _ =>
    (a.role = .owner ∨ a.role = .admin) ∧ ∃ r bump, accounts[3]? = some r ∧ v r.key = none ∧
      (Recipe.session walletKey sessionKey).derive d = .ok ⟨r.key, bump⟩
  | .createWallet .. | .execute .. => False

end Instruction

namespace Context

lemma mayAdd_iff {acting role : Role} : mayAdd acting role = true ↔
    role ≠ .owner ∧ (acting = .owner ∨ acting = .admin ∧ role = .spender) := by
  cases acting <;> cases role <;> simp [mayAdd]

lemma mayRemove_iff {acting target : Role} : mayRemove acting target = true ↔
    acting = .owner ∨ acting = .admin ∧ target = .spender := by
  cases acting <;> cases target <;> simp [mayRemove]

variable {c : Context} {auth : Authorization} {s : Action}

/-- Where sessions are not allowed, an action is the master credential's. -/
lemma Acts.byMaster {allowSession : Bool} (h : c.Acts auth allowSession s)
    (hallow : allowSession = false) :
    (c.request s.payer.key auth false).ByMaster c.verify s.entry s.outcome.newCounter := by
  subst hallow
  rcases AuthRequest.byMaster_or_bySession h.authenticated with ⟨-, hm⟩ | ⟨-, hs, -⟩
  · exact hm
  · cases hs

/-- Every managing instruction has an action behind it that its entry's role allows. -/
theorem Performs.allowed {ix : Instruction} {delta : Delta} (hp : c.Performs auth ix delta)
    (hvisible : ∀ key, c.isVacant key = true → c.data? key = none)
    (hbody : ix.signedBody = .ok auth.body) (hcreate : ix.kind ≠ .createWallet)
    (hexecute : ix.kind ≠ .execute) :
    ∃ s body, ix.Signs c.accounts body ∧ c.Acts { auth with body := body } false s ∧
      ix.AllowedBy c.data? c.deployment c.accounts s.wallet.key s.record s.entry := by
  cases hp with
  | createWallet => exact absurd rfl hcreate
  | @addAuthority role p proof s marker counted grown id hacts _ hmay hderived hmarkerAt hvacant =>
    obtain ⟨r, hr, hkey⟩ := exists_account_of_keyAt hmarkerAt
    obtain ⟨hrole, hacting⟩ := mayAdd_iff.1 hmay
    refine ⟨s, auth.body, hbody, hacts, hrole, hacting, r, marker.bump, hr, ?_, ?_⟩
    · rw [hkey]
      exact hvisible _ hvacant
    · rw [hkey, hderived]
  | @removeAuthority proof s target refund a removed counted shrunk htargetAt hrefundAt _ hacts
      hnamed hrole hmay =>
    exact ⟨s, _, ⟨target, refund, htargetAt, hrefundAt, rfl⟩, hacts, target, a, htargetAt, hnamed,
      hrole, mayRemove_iff.1 hmay⟩
  | @transferOwnership p proof s marker counted moved old hacts _ hrole hderived hmarkerAt =>
    obtain ⟨r, hr, hkey⟩ := exists_account_of_keyAt hmarkerAt
    exact ⟨s, auth.body, hbody, hacts, hrole, r, marker.bump, hr, by rw [hkey, hderived]⟩
  | execute => exact absurd rfl hexecute
  | @createSession sessionKey expiresAt proof s session counted hacts _ hmanages hderived hsessionAt
      hvacant =>
    obtain ⟨r, hr, hkey⟩ := exists_account_of_keyAt hsessionAt
    refine ⟨s, auth.body, hbody, hacts, Role.manages_iff.1 hmanages, r, session.bump, hr, ?_, ?_⟩
    · rw [hkey, hvacant]
    · rw [hkey, hderived]

end Context

namespace Ledger

/-- A successful instruction on the authorities, the ownership or the sessions of a wallet was paid
for by a signer and authorised by an entry of the wallet at the second account, which the third
account names. The entry used its master credential, on this instruction and these accounts, and its
role allows the instruction. -/
theorem management_authorized {l : Ledger} {d : Deployment} {verify : Verifier}
    {dispatcher : Dispatcher} {accounts : List AccountRef} {data : List UInt8} {o : Outcome}
    (h : (l.process d verify dispatcher accounts data).result = .ok o)
    (hkind : o.kind = .addAuthority ∨ o.kind = .removeAuthority ∨ o.kind = .transferOwnership ∨
      o.kind = .createSession) :
    ∃ ix payer wallet marker w a body counter?,
      Instruction.decode d.profile data = .ok ix ∧ ix.kind = o.kind ∧
      accounts[0]? = some payer ∧ payer.signer = true ∧
      accounts[1]? = some wallet ∧ l.view.HoldsWallet d wallet.key w ∧
      accounts[2]? = some marker ∧ l.view.Names d wallet.key w marker.key a ∧
      ix.Signs accounts body ∧
      AuthRequest.ByMaster ⟨accounts, ix.proof, body, ix.kind.discriminator d.profile, payer.key,
        l.slot, false⟩ verify a counter? ∧
      ix.AllowedBy l.view d accounts wallet.key w a := by
  obtain ⟨ix, auth, hc⟩ := exists_commits h
  obtain ⟨hdecode, hbody, hdiscriminator, hproof⟩ := Context.readInstruction_eq_ok_iff.1 hc.read
  have hix := (Context.performs_of_perform hc.performed).1
  have hcreate : ix.kind ≠ .createWallet := by
    rw [← hix]
    rcases hkind with hk | hk | hk | hk <;> simp [hk]
  have hexecute : ix.kind ≠ .execute := by
    rw [← hix]
    rcases hkind with hk | hk | hk | hk <;> simp [hk]
  obtain ⟨s, body, hsigns, hacts, hallowed⟩ :=
    hc.performs.allowed (fun _ => view_of_isVacant) hbody hcreate hexecute
  have hmaster := hacts.byMaster rfl
  simp only [Context.request, hdiscriminator, hproof] at hmaster
  exact ⟨ix, s.payer, s.wallet, s.marker, s.record, s.entry, body, s.outcome.newCounter, hdecode,
    hix.symm, hacts.payer, hacts.signs, hacts.wallet, hacts.holds, hacts.marker, hacts.named,
    hsigns, hmaster, hallowed⟩

end Ledger

namespace Sample

def spender : AuthorityPayload := .ofKey (.replicate 32 2)

def spenderMarkerKey : Key := ⟨[
  0x7d, 0x08, 0x54, 0x70, 0x43, 0x72, 0xd4, 0xec, 0x1e, 0x9f, 0xdc, 0x7b, 0x14, 0xc5, 0x52, 0x2b,
  0x6a, 0x52, 0x37, 0x5b, 0xde, 0x56, 0xfd, 0x30, 0x66, 0xe6, 0x1d, 0x63, 0x3a, 0x0a, 0xcb, 0xa5],
  rfl⟩

lemma derive_spenderMarker :
    (Recipe.authority walletKey spender.seed).derive default = .ok ⟨spenderMarkerKey, 255⟩ := by
  decide +kernel

/-- The accounts of an instruction by which the owner adds the spender. -/
def additionAccounts : List AccountRef :=
  [payer, ⟨walletKey, false, true⟩, ⟨markerKey, false, false⟩, ⟨spenderMarkerKey, false, true⟩,
    ⟨systemProgram, false, false⟩]

def addition : List UInt8 :=
  InstructionKind.addAuthority.number :: [spender.kind.tag, Role.spender.tag] ++
    Instruction.padding ++ spender.encode ++
    signature .addAuthority ([spender.kind.tag, Role.spender.tag] ++ spender.encode)
      additionAccounts 1

lemma kind_addition :
    (((ledger 0).process default .echo .acceptAll additionAccounts addition).result.map
      Outcome.kind) = .ok .addAuthority := by
  decide +kernel

/-- The owner adds a spender by a signature. -/
theorem addition_authorized :
    ∃ (o : Outcome) (ix : Instruction) (body : List UInt8) (counter? : Option UInt32),
      ((ledger 0).process default .echo .acceptAll additionAccounts addition).result = .ok o ∧
      ix.kind = .addAuthority ∧ ix.Signs additionAccounts body ∧
      AuthRequest.ByMaster ⟨additionAccounts, ix.proof, body, [1], payer.key, 0, false⟩ .echo
        (ownerEntry 0) counter? := by
  obtain ⟨o, ho, hkind⟩ := map_eq_ok_iff.1 kind_addition
  obtain ⟨ix, p, r, m, w, a, body, counter?, -, hix, hp, -, hr, hw, -, ha, hsigns, hmaster, -⟩ :=
    Ledger.management_authorized ho (.inl hkind)
  rw [hkind] at hix
  cases hp
  cases hr
  have hw : some (StoredRecord.wallet (wallet 0)) = some (.wallet w) := by
    rw [← record?_ledger 0, hw.record]
  cases hw
  have hentry := eq_ownerEntry ha.entry
  subst hentry
  rw [hix] at hmaster
  exact ⟨o, ix, body, counter?, ho, hix, hsigns, hmaster⟩

end Sample

end SmartWallet
