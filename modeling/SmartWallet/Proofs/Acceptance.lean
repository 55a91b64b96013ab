import SmartWallet.Proofs.Fidelity
import SmartWallet.Proofs.Management
import SmartWallet.Proofs.SignedDigest
import SmartWallet.Proofs.Sufficiency
import SmartWallet.Proofs.Vacancy

/-!
# What a client prepares is accepted

An instruction that a client prepares for a wallet as it stands succeeds, if the rules of the wallet
permit what it asks for and the acting entry authorises it by its master credential. Accounts,
addresses, bytes and digests of the two sides agree, so that nothing else is needed.
-/

namespace SmartWallet

/-! ## Requests -/

/-- What an entry of a wallet can ask for. -/
inductive ManagementRequest
  | addAuthority (role : Role) (authority : AuthorityPayload)
  | removeAuthority (targetSeed refund : Key)
  | transferOwnership (newOwner : AuthorityPayload)
  | createSession (sessionKey : Key) (expiresAt : UInt64)

namespace ManagementRequest

variable (d : Deployment)

/-- The instruction that a client prepares for the entry with the given seed. -/
def prepare (payer wallet actingSeed : Key) (signers : List Key) :
    ManagementRequest → Except ProgramError PreparedInstruction
  | addAuthority role authority =>
    PreparedInstruction.addAuthority d payer wallet actingSeed role authority signers
  | removeAuthority targetSeed refund =>
    PreparedInstruction.removeAuthority d payer wallet actingSeed targetSeed refund signers
  | transferOwnership newOwner =>
    PreparedInstruction.transferOwnership d payer wallet actingSeed newOwner signers
  | createSession sessionKey expiresAt =>
    PreparedInstruction.createSession d payer wallet actingSeed sessionKey expiresAt signers

/-- The rules that a request of an entry has to meet. -/
def Permitted (l : Ledger) (wallet : Key) (w : Wallet) (a : Authority) : ManagementRequest → Prop
  | addAuthority role p => p.WellFormed ∧ Context.mayAdd a.role role = true ∧
      (∀ b ∈ w.authorities, b.seed ≠ p.seed) ∧ w.authorities.length < 256
  | removeAuthority targetSeed _ => ∃ b ∈ w.authorities, b.seed = targetSeed ∧ b.role ≠ .owner ∧
      Context.mayRemove a.role b.role = true
  | transferOwnership p => p.WellFormed ∧ a.role = .owner ∧
      ∀ b ∈ w.authorities, b.seed = p.seed → b.id = a.id
  | createSession sessionKey expiresAt => a.role.manages = true ∧ l.slot < expiresAt ∧
      expiresAt.toNat ≤ l.slot.toNat + d.maxSessionSlots.toNat ∧
      ∀ key s, l.view.record? key = some (.session s) →
        ¬ (s.wallet = wallet ∧ s.sessionKey = sessionKey)

/-- What a request of an entry leaves behind. -/
def Granted (before after : Records) (wallet : Key) (a : Authority) : ManagementRequest → Prop
  | addAuthority role p => ∃ id, before.authorityAt? ⟨wallet, id⟩ = none ∧
      after.authorityAt? ⟨wallet, id⟩ = some ⟨id, role, p.seed, 0, p.credential⟩
  | removeAuthority targetSeed _ => ∃ b, before.authorityAt? ⟨wallet, b.id⟩ = some b ∧
      b.seed = targetSeed ∧ after.authorityAt? ⟨wallet, b.id⟩ = none
  | transferOwnership p => after.authorityAt? ⟨wallet, a.id⟩ =
      some ⟨a.id, .owner, p.seed, 0, p.credential⟩
  | createSession sessionKey expiresAt => ∃ session,
      (Recipe.session wallet sessionKey).derive d = .ok session ∧ after session.key =
        some (.session ⟨session.bump, a.id, wallet, sessionKey, a.seed, expiresAt⟩)

end ManagementRequest

/-- An entry authorises a prepared instruction by its master credential, at a slot of the ledger:
its key is among the signers, or it signs the instruction for its next counter at a recent slot. -/
inductive PreparedInstruction.AuthorisedBy (d : Deployment) (slot : UInt64) (verify : Verifier)
    (a : Authority) (signers : List Key) (p : PreparedInstruction) : PreparedInstruction → Prop
  | signer {key : Key} (master : a.credential.ed25519Master? = some key) (listed : key ∈ signers)
      (proof : List UInt8) : AuthorisedBy d slot verify a signers p (p.withProof proof)
  | signature {key : CompressedKey} {signDigest : Key → Except String Signature} {madeAt : UInt64}
      {signed : PreparedInstruction} (master : a.credential.secp256r1Master? = some key)
      (signs : p.sign d signDigest madeAt (a.counter + 1) = .ok signed)
      (notEarly : madeAt ≤ slot) (recent : slot.toNat - madeAt.toNat ≤ 60)
      (accepted : ∀ digest signature, signDigest digest = .ok signature →
        verify key digest signature = true) :
      AuthorisedBy d slot verify a signers p signed

/-! ## What is received -/

namespace PreparedInstruction

lemma sign_eq_ok_iff {d : Deployment} {p signed : PreparedInstruction}
    {signDigest : Key → Except String Signature} {slot : UInt64} {counter : UInt32} :
    p.sign d signDigest slot counter = .ok signed ↔ ∃ challenge signature,
      p.challenge d slot counter = .ok challenge ∧
      signDigest challenge.digest = .ok signature ∧
      signed = p.withProof (SignedProof.encode ⟨slot, counter, signature⟩) := by
  simp only [sign, digest, ClientError.ofProgram, bind_eq_ok_iff, mapError_eq_ok_iff, map_eq_ok_iff,
    pure_eq_ok_iff]
  constructor
  · rintro ⟨_, ⟨challenge, hchallenge, rfl⟩, signature, hsignature, rfl⟩
    exact ⟨challenge, signature, hchallenge, hsignature, rfl⟩
  · rintro ⟨challenge, signature, hchallenge, hsignature, rfl⟩
    exact ⟨_, ⟨challenge, hchallenge, rfl⟩, signature, hsignature, rfl⟩

variable {d : Deployment} {l : Ledger} {verify : Verifier} {a : Authority} {signers : List Key}
  {p sent : PreparedInstruction}

/-- The program reads what was prepared, and the acting entry's master credential authorises it. -/
lemma AuthorisedBy.received (h : p.AuthorisedBy d l.slot verify a signers sent)
    (hsignable : p.Signable) (hwf : ∀ e, p.instruction.enrolled? = some e → e.WellFormed)
    (hsigners : ∀ key ∈ signers, ⟨key, true, false⟩ ∈ p.accounts) :
    ∃ proof data auth counter?, sent.toCall d = .ok ⟨d.program, p.accounts, data⟩ ∧
      (l.context d verify p.accounts).readInstruction data =
        .ok (p.instruction.withProof proof, auth) ∧
      ((l.context d verify p.accounts).request p.payer ((l.context d verify
        p.accounts).actingAuthorization auth (p.instruction.withProof proof)) false).ByMaster verify
        a counter? := by
  have hread : ∀ proof data, (p.instruction.withProof proof).encode d.profile = .ok data →
      ∃ auth, (l.context d verify p.accounts).readInstruction data =
        .ok (p.instruction.withProof proof, auth) ∧
        auth.proof = (p.instruction.withProof proof).proof := by
    intro proof data hencode
    obtain ⟨body, hbody⟩ := hsignable.body
    have hdecode := Instruction.decode_of_encode
      (by simpa only [Instruction.enrolled?_withProof] using hwf) hencode
    exact ⟨⟨_, body, _⟩, Context.readInstruction_eq_ok_iff.2
      ⟨hdecode, Instruction.signedBody_withProof.trans hbody, rfl, rfl⟩, rfl⟩
  cases h with
  | signer master listed proof =>
    obtain ⟨data, hencode, hcall⟩ := hsignable.exists_toCall proof d
    obtain ⟨auth, hauth, -⟩ := hread proof data hencode
    exact ⟨proof, data, auth, none, hcall, hauth,
      .signer master ⟨_, hsigners _ listed, rfl, rfl⟩⟩
  | @signature key signDigest madeAt _ master signs notEarly recent accepted =>
    obtain ⟨challenge, signature, hchallenge, hsignature, rfl⟩ := sign_eq_ok_iff.1 signs
    obtain ⟨data, hencode, hcall⟩ := hsignable.exists_toCall
      (SignedProof.encode ⟨madeAt, a.counter + 1, signature⟩) d
    obtain ⟨auth, hauth, hproof⟩ := hread _ data hencode
    obtain ⟨body, hbody⟩ := hsignable.exists_signedBody
    rw [Signable.challenge_eq_ok hbody, Except.ok.injEq] at hchallenge
    subst hchallenge
    refine ⟨_, data, auth, some (a.counter + 1), hcall, hauth, ?_⟩
    rw [hsignable.actingAuthorization_eq hencode rfl hbody hauth]
    have hsigned : AuthRequest.SignedBy ((l.context d verify p.accounts).request p.payer
        ⟨p.instruction.kind.discriminator d.profile, body, auth.proof⟩ false) verify a
        ⟨madeAt, a.counter + 1, signature⟩ :=
      ⟨hproof.trans (Instruction.proof_withProof hsignable.kind), rfl, notEarly, recent, key,
        master, accepted _ _ hsignature⟩
    exact .signature hsigned

end PreparedInstruction

/-! ## What is granted -/

namespace Ledger.Orderly

variable {l : Ledger} {d : Deployment} {created : List Recipe} {verify : Verifier}
  {accounts : List AccountRef} {auth : Authorization} {proof : List UInt8} {s : Action}
  {address : DerivedAddress}

lemma isVacant_of_view {key : Key} (h : l.view key = none) :
    (l.context d verify accounts).isVacant key = true := by
  have hdata : l.data? key = none := h
  show ((l.data? key).getD []).isEmpty = true
  rw [hdata]
  rfl

lemma acts {wallet : Key} {w : Wallet} {a : Authority} {counter? : Option UInt32}
    {payer walletRef marker third fourth : AccountRef} {signers : List Key}
    (h : l.Orderly d created) (hw : l.view.record? wallet = some (.wallet w))
    (ha : a ∈ w.authorities) (hderived : (Recipe.authority wallet a.seed).derive d = .ok address)
    (hsigns : payer.signer = true) (hwallet : walletRef.key = wallet)
    (hmarker : marker.key = address.key)
    (hmaster : ((l.context d verify (PreparedInstruction.actingAccounts payer walletRef marker third
      fourth signers)).request payer.key auth false).ByMaster verify a counter?) :
    (l.context d verify (PreparedInstruction.actingAccounts payer walletRef marker third fourth
      signers)).Acts auth false ⟨payer, walletRef, marker, w, a, ⟨false, counter?⟩⟩ := by
  subst hwallet
  exact ⟨rfl, hsigns, rfl, h.holdsWallet hw, rfl, hmarker ▸ h.names hw ha hderived,
    AuthRequest.authenticate_of_byMaster hmaster⟩

lemma addAuthority_performs {role : Role} {p : AuthorityPayload} (h : l.Orderly d created)
    (hacts : (l.context d verify accounts).Acts auth false s)
    (hsystem : (l.context d verify accounts).keyAt 4 = some systemProgram)
    (hderived : (Recipe.authority s.wallet.key p.seed).derive d = .ok address)
    (hmarker : (l.context d verify accounts).keyAt 3 = some address.key)
    (hapart : Recipe.Apart d (created ++ [.authority s.wallet.key p.seed]))
    (hpermitted : (ManagementRequest.addAuthority role p).Permitted d l s.wallet.key s.record
      s.entry) :
    ∃ delta, (l.context d verify accounts).Performs auth (.addAuthority role p proof) delta ∧
      (∃ l', l.apply delta = .ok l') ∧
      (ManagementRequest.addAuthority role p).Granted d l.view.record?
        (View.record? (delta.shown l.view)) s.wallet.key s.entry := by
  obtain ⟨hpayload, hmay, hseed, hroom⟩ := hpermitted
  have hw : l.view.record? s.wallet.key = some (.wallet s.record) := hacts.holds.record
  have hentry := hacts.named.entry
  obtain ⟨counted, hcounts⟩ := Wallet.exists_recordCounter hentry s.outcome
  have hcounted := hacts.wellFormed_counted hcounts
  have hrecord := View.wellFormed_of_record? hw
  obtain ⟨grown, id, hinserts⟩ : ∃ grown id, counted.insert role p.seed p.credential =
      .ok (grown, id) := by
    refine Wallet.exists_insert (Context.mayAdd_iff.1 hmay).1 (fun b hb hs => ?_) hpayload.seed
      (by rwa [Wallet.length_recordCounter hentry hcounts])
    obtain ⟨b', hb', -, hs'⟩ := hrecord.exists_mem_before hentry hcounts hb
    exact hseed b' hb' (hs'.trans hs)
  have hgrown := hcounted.insert hpayload.compressed hinserts
  have hview := h.vacant_of_unregistered hapart (List.mem_singleton_self _) hderived hw hseed
  have hne : s.wallet.key ≠ address.key :=
    Records.ne_of_record_ne hw (View.record?_of_vacant hview) (by simp)
  obtain ⟨hfree, hget⟩ := Wallet.authority?_insert hcounted hinserts
  refine ⟨_, .addAuthority hacts hsystem hmay hderived hmarker (isVacant_of_view hview) hcounts
    hinserts, exists_apply_of_stores (by simp), id, ?_, ?_⟩
  · rw [Records.authorityAt?_of_wallet hw]
    cases hold : s.record.authority? id with
    | none => rfl
    | some b =>
      obtain ⟨counter, hb⟩ := Wallet.exists_after_recordCounter hentry hcounts hold
      rw [hfree] at hb
      cases hb
  · rw [View.record?_enrolment hgrown]
    have hafter : Function.update (Function.update l.view.record? s.wallet.key
        (some (.wallet grown))) address.key (some (.authority ⟨address.bump, id, s.wallet.key,
          p.seed⟩)) s.wallet.key = some (.wallet grown) := by
      rw [Function.update_of_ne hne, Function.update_self]
    rw [Records.authorityAt?_of_wallet hafter, hget, if_pos rfl]

lemma removeAuthority_performs {target refund : AccountRef} {a : Authority}
    (hacts : (l.context d verify accounts).Acts
      { auth with body := target.key.toList ++ refund.key.toList } false s)
    (htarget : (l.context d verify accounts).accounts[3]? = some target)
    (hrefund : (l.context d verify accounts).accounts[4]? = some refund)
    (hwritable : refund.writable = true)
    (hnames : View.Names l.view d s.wallet.key s.record target.key a)
    (hroom : l.accounts.totalLamports < UInt64.size) (hrole : a.role ≠ .owner)
    (hmay : Context.mayRemove s.entry.role a.role = true) :
    ∃ delta, (l.context d verify accounts).Performs auth (.removeAuthority proof) delta ∧
      (∃ l', l.apply delta = .ok l') ∧
      (ManagementRequest.removeAuthority a.seed refund.key).Granted d l.view.record?
        (View.record? (delta.shown l.view)) s.wallet.key s.entry := by
  have hw : l.view.record? s.wallet.key = some (.wallet s.record) := hacts.holds.record
  have hentry := hacts.named.entry
  obtain ⟨counted, hcounts⟩ := Wallet.exists_recordCounter hentry s.outcome
  have hcounted := hacts.wellFormed_counted hcounts
  obtain ⟨counter, hafter⟩ := Wallet.exists_after_recordCounter hentry hcounts hnames.entry
  obtain ⟨shrunk, hremoves⟩ : ∃ w', counted.remove a.id = .ok (w', _) :=
    Wallet.exists_remove hafter hrole
  obtain ⟨bump, hmarker⟩ := hnames.record
  obtain ⟨bs, hbs, -⟩ := View.record?_eq_some_iff.1 hmarker
  have hne : target.key ≠ s.wallet.key := Records.ne_of_record_ne hmarker hw (by simp)
  refine ⟨_, .removeAuthority htarget hrefund hwritable hacts hnames hrole hmay hcounts hremoves,
    exists_apply_close hroom hbs hne (by simp), a, ?_, rfl, ?_⟩
  · rw [Records.authorityAt?_of_wallet hw, hnames.entry]
  · rw [View.record?_removal (hcounted.remove hremoves)]
    have hafter : Function.update (Function.update l.view.record? s.wallet.key
        (some (.wallet shrunk))) target.key none s.wallet.key = some (.wallet shrunk) := by
      rw [Function.update_of_ne hne.symm, Function.update_self]
    rw [Records.authorityAt?_of_wallet hafter, Wallet.authority?_remove hcounted hremoves,
      if_pos rfl]

lemma transferOwnership_performs {p : AuthorityPayload} (h : l.Orderly d created)
    (hacts : (l.context d verify accounts).Acts auth false s)
    (hsystem : (l.context d verify accounts).keyAt 4 = some systemProgram)
    (hderived : (Recipe.authority s.wallet.key p.seed).derive d = .ok address)
    (hmarker : (l.context d verify accounts).keyAt 3 = some address.key)
    (hapart : Recipe.Apart d (created ++ [.authority s.wallet.key p.seed]))
    (hroom : l.accounts.totalLamports < UInt64.size)
    (hpermitted : (ManagementRequest.transferOwnership p).Permitted d l s.wallet.key s.record
      s.entry) :
    ∃ delta, (l.context d verify accounts).Performs auth (.transferOwnership p proof) delta ∧
      (∃ l', l.apply delta = .ok l') ∧
      (ManagementRequest.transferOwnership p).Granted d l.view.record?
        (View.record? (delta.shown l.view)) s.wallet.key s.entry := by
  obtain ⟨hpayload, hrole, hseed⟩ := hpermitted
  have hw : l.view.record? s.wallet.key = some (.wallet s.record) := hacts.holds.record
  have hentry := hacts.named.entry
  obtain ⟨counted, hcounts⟩ := Wallet.exists_recordCounter hentry s.outcome
  have hcounted := hacts.wellFormed_counted hcounts
  have hrecord := View.wellFormed_of_record? hw
  obtain ⟨counter, hafter⟩ := Wallet.exists_after_recordCounter hentry hcounts hentry
  obtain ⟨moved, hreplaces⟩ : ∃ w', counted.replaceOwner p.seed p.credential =
      .ok (w', { s.entry with counter := counter }) := by
    refine Wallet.exists_replaceOwner hcounted (Wallet.mem_of_authority? hafter) hrole
      (fun b hb hs => ?_) hpayload.seed
    obtain ⟨b', hb', hid, hs'⟩ := hrecord.exists_mem_before hentry hcounts hb
    exact hid.symm.trans (hseed b' hb' (hs'.trans hs))
  have hmoved := hcounted.replaceOwner hpayload.compressed hreplaces
  obtain ⟨bump, hcurrent⟩ := hacts.named.record
  obtain ⟨bs, hbs, -⟩ := View.record?_eq_some_iff.1 hcurrent
  have hne : s.marker.key ≠ s.wallet.key := Records.ne_of_record_ne hcurrent hw (by simp)
  -- the new seed is the owner's own or nobody's
  have hvacant : address.key = s.marker.key ∨ l.view address.key = none := by
    by_cases hsame : s.entry.seed = p.seed
    · obtain ⟨bump', hown⟩ := hacts.named.derived
      rw [hsame] at hown
      exact .inl (congrArg DerivedAddress.key (Registry.derived_eq hderived hown))
    · refine .inr (h.vacant_of_unregistered hapart (List.mem_singleton_self _) hderived hw ?_)
      intro b hb hs
      have hb' := hrecord.mem_iff.1 hb
      rw [hseed b hb hs, hentry, Option.some.injEq] at hb'
      exact hsame (hb' ▸ hs)
  have hmarkerKey : address.key ≠ s.wallet.key := by
    rcases hvacant with hk | hk
    · rwa [hk]
    · exact (Records.ne_of_record_ne hw (View.record?_of_vacant hk) (by simp)).symm
  have happly : ∃ l', l.apply (.store s.wallet.key moved.encode ::
      (if address.key = s.marker.key then [] else [.close s.marker.key s.payer.key]) ++
      [.store address.key (AuthorityMarker.encode
        ⟨address.bump, s.entry.id, s.wallet.key, p.seed⟩)]) = .ok l' := by
    split
    · exact exists_apply_of_stores (by simp)
    · exact exists_apply_close hroom hbs hne (by simp)
  refine ⟨_, .transferOwnership hacts hsystem hrole hderived hmarker hcounts hreplaces
    (hvacant.imp_right isVacant_of_view), happly, ?_⟩
  rw [View.record?_transfer hmoved]
  have hstored : Function.update (Function.update (Function.update l.view.record? s.wallet.key
      (some (.wallet moved))) s.marker.key none) address.key (some (.authority ⟨address.bump,
        s.entry.id, s.wallet.key, p.seed⟩)) s.wallet.key = some (.wallet moved) := by
    rw [Function.update_of_ne hmarkerKey.symm, Function.update_of_ne hne.symm,
      Function.update_self]
  show Records.authorityAt? _ _ = _
  rw [Records.authorityAt?_of_wallet hstored, Wallet.authority?_replaceOwner hcounted hreplaces,
    if_pos rfl]

lemma createSession_performs {sessionKey : Key} {expiresAt : UInt64} (h : l.Orderly d created)
    (hacts : (l.context d verify accounts).Acts auth false s)
    (hsystem : (l.context d verify accounts).keyAt 4 = some systemProgram)
    (hderived : (Recipe.session s.wallet.key sessionKey).derive d = .ok address)
    (hsession : (l.context d verify accounts).keyAt 3 = some address.key)
    (hapart : Recipe.Apart d (created ++ [.session s.wallet.key sessionKey]))
    (hpermitted : (ManagementRequest.createSession sessionKey expiresAt).Permitted d l s.wallet.key
      s.record s.entry) :
    ∃ delta, (l.context d verify accounts).Performs auth
        (.createSession sessionKey expiresAt proof) delta ∧
      (∃ l', l.apply delta = .ok l') ∧
      (ManagementRequest.createSession sessionKey expiresAt).Granted d l.view.record?
        (View.record? (delta.shown l.view)) s.wallet.key s.entry := by
  obtain ⟨hmanages, hfuture, hbounded, hopen⟩ := hpermitted
  obtain ⟨counted, hcounts⟩ := Wallet.exists_recordCounter hacts.named.entry s.outcome
  have hview := h.vacant_of_unopened hapart (List.mem_singleton_self _) hderived hopen
  have hlifetime : expiresAt - l.slot ≤ d.maxSessionSlots := by
    rw [UInt64.le_iff_toNat_le, UInt64.toNat_sub_of_le _ _ (UInt64.le_of_lt hfuture)]
    omega
  refine ⟨_, .createSession hacts hsystem hmanages hderived hsession hview hfuture hlifetime
    hcounts, exists_apply_of_stores ?_, address, hderived, ?_⟩
  · split <;> simp
  · rw [Delta.shown_append, Delta.shown_cons, Delta.shown_nil, Write.shown_session,
      View.record?_put (StoredRecord.decode?_encode_session _), Function.update_self]

end Ledger.Orderly

namespace Ledger

variable {l : Ledger} {d : Deployment} {verify : Verifier} {dispatcher : Dispatcher}

/-- A permitted request is granted once the entry has authorised what was prepared for it. -/
theorem request_granted {created : List Recipe} {r : ManagementRequest} {payer wallet : Key}
    {w : Wallet} {a : Authority} {signers : List Key} {p sent : PreparedInstruction}
    (h : l.Orderly d created) (hw : l.view.record? wallet = some (.wallet w))
    (ha : a ∈ w.authorities) (hprepare : r.prepare d payer wallet a.seed signers = .ok p)
    (hapart : Recipe.Apart d (created ++ p.instruction.recipes wallet))
    (hroom : l.accounts.totalLamports < UInt64.size) (hpermitted : r.Permitted d l wallet w a)
    (hauth : p.AuthorisedBy d l.slot verify a signers sent) :
    ∃ call o, sent.toCall d = .ok call ∧
      (l.process d verify dispatcher call.accounts call.data).result = .ok o ∧
      o.kind = p.instruction.kind ∧ r.Granted d l.view.record?
        (l.process d verify dispatcher call.accounts call.data).ledger.view.record? wallet a := by
  have hsigner : ∀ {payer wallet acting third fourth : AccountRef}, ∀ key ∈ signers,
      ⟨key, true, false⟩ ∈
        PreparedInstruction.actingAccounts payer wallet acting third fourth signers :=
    fun key hkey => List.mem_append_right _ (List.mem_map.2 ⟨key, hkey, rfl⟩)
  cases r with
  | addAuthority role authority =>
    have hsignable := (PreparedInstruction.Built.addAuthority hprepare).signable.2
    obtain ⟨acting, marker, hacting, hmarker, rfl⟩ :=
      PreparedInstruction.addAuthority_eq_ok_iff.1 hprepare
    obtain ⟨proof, data, auth, counter?, hcall, hread, hmaster⟩ := hauth.received hsignable
      (by rintro e ⟨⟩; exact hpermitted.1) hsigner
    have hacts := h.acts hw ha hacting rfl rfl rfl hmaster
    obtain ⟨delta, hperforms, happly, hgranted⟩ :=
      h.addAuthority_performs hacts rfl hmarker rfl hapart hpermitted
    obtain ⟨o, hresult, hkind, hview⟩ := answered_of_performs hread nofun hperforms happly
    exact ⟨_, o, hcall, hresult, hkind, hview ▸ hgranted⟩
  | removeAuthority targetSeed refund =>
    have hsignable := (PreparedInstruction.Built.removeAuthority hprepare).signable.2
    obtain ⟨acting, target, hacting, htarget, rfl⟩ :=
      PreparedInstruction.removeAuthority_eq_ok_iff.1 hprepare
    obtain ⟨proof, data, auth, counter?, hcall, hread, hmaster⟩ := hauth.received hsignable
      (by rintro e ⟨⟩) hsigner
    obtain ⟨b, hb, rfl, hrole, hmay⟩ := hpermitted
    have hacts := h.acts hw ha hacting rfl rfl rfl hmaster
    obtain ⟨delta, hperforms, happly, hgranted⟩ :=
      Orderly.removeAuthority_performs hacts rfl rfl rfl (h.names hw hb htarget) hroom hrole hmay
    obtain ⟨o, hresult, hkind, hview⟩ := answered_of_performs hread nofun hperforms happly
    exact ⟨_, o, hcall, hresult, hkind, hview ▸ hgranted⟩
  | transferOwnership newOwner =>
    have hsignable := (PreparedInstruction.Built.transferOwnership hprepare).signable.2
    obtain ⟨acting, marker, hacting, hmarker, rfl⟩ :=
      PreparedInstruction.transferOwnership_eq_ok_iff.1 hprepare
    obtain ⟨proof, data, auth, counter?, hcall, hread, hmaster⟩ := hauth.received hsignable
      (by rintro e ⟨⟩; exact hpermitted.1) hsigner
    have hacts := h.acts hw ha hacting rfl rfl rfl hmaster
    obtain ⟨delta, hperforms, happly, hgranted⟩ :=
      h.transferOwnership_performs hacts rfl hmarker rfl hapart hroom hpermitted
    obtain ⟨o, hresult, hkind, hview⟩ := answered_of_performs hread nofun hperforms happly
    exact ⟨_, o, hcall, hresult, hkind, hview ▸ hgranted⟩
  | createSession sessionKey expiresAt =>
    have hsignable := (PreparedInstruction.Built.createSession hprepare).signable.2
    obtain ⟨acting, session, hacting, hsession, rfl⟩ :=
      PreparedInstruction.createSession_eq_ok_iff.1 hprepare
    obtain ⟨proof, data, auth, counter?, hcall, hread, hmaster⟩ := hauth.received hsignable
      (by rintro e ⟨⟩) hsigner
    have hacts := h.acts hw ha hacting rfl rfl rfl hmaster
    obtain ⟨delta, hperforms, happly, hgranted⟩ :=
      h.createSession_performs hacts rfl hsession rfl hapart hpermitted
    obtain ⟨o, hresult, hkind, hview⟩ := answered_of_performs hread nofun hperforms happly
    exact ⟨_, o, hcall, hresult, hkind, hview ▸ hgranted⟩

/-- A wallet is created where neither it nor its owner's marker can be seen. -/
theorem creation_granted {created : List Recipe} {payer walletId wallet marker : Key}
    {owner : AuthorityPayload} {p : PreparedInstruction}
    (hprepare : PreparedInstruction.createWallet d payer walletId owner = .ok p)
    (hwf : owner.WellFormed) (hwallet : (Recipe.wallet walletId.toList).address d = .ok wallet)
    (hmarker : (Recipe.authority wallet owner.seed).address d = .ok marker)
    (hvacant : l.data? wallet = none) (hmarkerVacant : l.data? marker = none)
    (hapart : Recipe.Apart d (created ++ p.instruction.recipes wallet)) :
    ∃ call o, p.toCall d = .ok call ∧
      (l.process d verify dispatcher call.accounts call.data).result = .ok o ∧
      o.kind = .createWallet ∧ ∃ w,
        (l.process d verify dispatcher call.accounts call.data).ledger.view.record? wallet =
          some (.wallet w) ∧
        w.walletId = walletId ∧ w.authorities = [⟨0, .owner, owner.seed, 0, owner.credential⟩] := by
  obtain ⟨walletAt, vaultAt, markerAt, hwalletAt, hvaultAt, hmarkerAt, rfl⟩ :=
    PreparedInstruction.createWallet_eq_ok_iff.1 hprepare
  rw [Recipe.address_of_derive hwalletAt, Except.ok.injEq] at hwallet
  subst hwallet
  rw [Recipe.address_of_derive hmarkerAt, Except.ok.injEq] at hmarker
  subst hmarker
  have hne : walletAt.key ≠ markerAt.key := by
    intro hkey
    have hsame := hapart (.wallet walletId.toList) (by simp [Instruction.recipes])
      (.authority walletAt.key owner.seed) (by simp [Instruction.recipes])
      (by rw [Recipe.address_of_derive hwalletAt, Recipe.address_of_derive hmarkerAt, hkey])
    cases hsame
  obtain ⟨data, hencode⟩ := Instruction.exists_encode
    (rfl : (Instruction.createWallet walletId markerAt.bump owner).signedBody = .ok []) d.profile
  have hdecode := Instruction.decode_of_encode (by rintro e ⟨⟩; exact hwf) hencode
  obtain ⟨record, hcreated⟩ : ∃ record, Wallet.new walletId walletAt.bump vaultAt.bump owner.seed
      owner.credential = .ok record := ⟨_, Wallet.new_eq_ok_iff.2 ⟨hwf.seed, rfl⟩⟩
  have heq := (Wallet.new_eq_ok_iff.1 hcreated).2
  have hrecord := (Wallet.registered_new hcreated hwf.compressed).toWellFormed
  have hperforms : (l.context d verify [⟨payer, true, true⟩, ⟨walletAt.key, false, true⟩,
      ⟨vaultAt.key, false, true⟩, ⟨markerAt.key, false, true⟩,
      ⟨systemProgram, false, false⟩]).Performs
      ⟨InstructionKind.createWallet.discriminator d.profile, [], []⟩
      (.createWallet walletId markerAt.bump owner) _ :=
    .createWallet rfl rfl rfl hwalletAt rfl (Orderly.isVacant_of_view hvacant) hvaultAt rfl
      hmarkerAt rfl (Orderly.isVacant_of_view hmarkerVacant) hcreated
  obtain ⟨o, hresult, hkind, hview⟩ := answered_of_performs
    (Context.readInstruction_eq_ok_iff.2 ⟨hdecode, rfl, rfl, rfl⟩) (by simp [Instruction.kind])
    hperforms (exists_apply_of_stores (by simp))
  refine ⟨_, o, bind_eq_ok_iff.2 ⟨data, hencode, rfl⟩, hresult, hkind, record, ?_, by rw [heq],
    by rw [heq]⟩
  rw [hview, View.record?_enrolment hrecord, Function.update_of_ne hne, Function.update_self]

/-- After any run from the empty ledger, what a client prepares is accepted: the creation of a
wallet where nothing can be seen, and every permitted request of a registered entry that authorises
it by its master credential. -/
theorem prepared_accepted (d : Deployment) (steps : List Step) (verify : Verifier)
    (dispatcher : Dispatcher)
    (hroom : (empty.run d steps).accounts.totalLamports < UInt64.size) :
    (∀ {payer walletId wallet marker : Key} {owner : AuthorityPayload} {p : PreparedInstruction},
      PreparedInstruction.createWallet d payer walletId owner = .ok p → owner.WellFormed →
      (Recipe.wallet walletId.toList).address d = .ok wallet →
      (Recipe.authority wallet owner.seed).address d = .ok marker →
      (empty.run d steps).data? wallet = none → (empty.run d steps).data? marker = none →
      Recipe.Apart d (empty.runRecipes d steps ++ p.instruction.recipes wallet) →
      ∃ call o, p.toCall d = .ok call ∧
        ((empty.run d steps).process d verify dispatcher call.accounts call.data).result = .ok o ∧
        o.kind = .createWallet ∧ ∃ w,
          ((empty.run d steps).process d verify dispatcher call.accounts
            call.data).ledger.view.record? wallet = some (.wallet w) ∧
          w.walletId = walletId ∧
          w.authorities = [⟨0, .owner, owner.seed, 0, owner.credential⟩]) ∧
    ∀ {r : ManagementRequest} {payer wallet : Key} {w : Wallet} {a : Authority} {signers : List Key}
      {p sent : PreparedInstruction},
      (empty.run d steps).view.record? wallet = some (.wallet w) → a ∈ w.authorities →
      r.prepare d payer wallet a.seed signers = .ok p →
      Recipe.Apart d (empty.runRecipes d steps ++ p.instruction.recipes wallet) →
      r.Permitted d (empty.run d steps) wallet w a →
      p.AuthorisedBy d (empty.run d steps).slot verify a signers sent →
      ∃ call o, sent.toCall d = .ok call ∧
        ((empty.run d steps).process d verify dispatcher call.accounts call.data).result = .ok o ∧
        o.kind = p.instruction.kind ∧ r.Granted d (empty.run d steps).view.record?
          ((empty.run d steps).process d verify dispatcher call.accounts
            call.data).ledger.view.record? wallet a := by
  constructor
  · intro payer walletId wallet marker owner p hprepare hwf hwallet hmarker hvacant hmarkerVacant
      hapart
    exact creation_granted hprepare hwf hwallet hmarker hvacant hmarkerVacant hapart
  · intro r payer wallet w a signers p sent hw ha hprepare hapart hpermitted hauth
    have horderly := orderly_run steps (hapart.mono (List.subset_append_left ..))
    exact request_granted horderly hw ha hprepare hapart hroom hpermitted hauth

end Ledger

namespace Sample

/-- The manager is to add the spender. -/
def managedAddition : PreparedInstruction :=
  ⟨payer.key, .addAuthority .spender spender [],
    [payer, ⟨walletKey, false, true⟩, ⟨managerMarkerKey, false, false⟩,
      ⟨spenderMarkerKey, false, true⟩, ⟨systemProgram, false, false⟩, ⟨payer.key, true, false⟩]⟩

lemma derive_managerMarker :
    (Recipe.authority walletKey manager.seed).derive default = .ok ⟨managerMarkerKey, 255⟩ := by
  decide +kernel

lemma state_founded : founded.accounts.totalLamports < UInt64.size ∧
    founded.view.record? walletKey = some (.wallet foundedWallet) ∧
    Ledger.empty.runRecipes default [founding] =
      [.wallet walletId.toList, .vault walletKey, .authority walletKey manager.seed] := by
  rw [founded, run_founding]
  decide +kernel

lemma apart_managedAddition : Recipe.Apart default
    (Ledger.empty.runRecipes default [founding] ++
      managedAddition.instruction.recipes walletKey) := by
  rw [state_founded.2.2]
  apply Recipe.apart_of_nodup
  simp only [managedAddition, Instruction.recipes, List.cons_append, List.nil_append, List.map_cons,
    List.map_nil, Recipe.address_of_derive derive_wallet, Recipe.address_of_derive derive_vault,
    Recipe.address_of_derive derive_managerMarker, Recipe.address_of_derive derive_spenderMarker]
  decide

/-- The manager's addition of a spender is accepted as it was prepared. -/
theorem managedAddition_accepted :
    ∃ call o, managedAddition.toCall default = .ok call ∧
      (founded.process default .rejectAll .acceptAll call.accounts call.data).result = .ok o ∧
      o.kind = .addAuthority ∧
      ∃ id, (founded.process default .rejectAll .acceptAll call.accounts
        call.data).ledger.authorityAt? ⟨walletKey, id⟩ =
          some ⟨id, .spender, spender.seed, 0, spender.credential⟩ := by
  obtain ⟨hroom, hw, -⟩ := state_founded
  have hprepare : (ManagementRequest.addAuthority .spender spender).prepare default payer.key
      walletKey manager.seed [payer.key] = .ok managedAddition :=
    PreparedInstruction.addAuthority_eq_ok_iff.2
      ⟨_, _, derive_managerMarker, derive_spenderMarker, rfl⟩
  have hpermitted : (ManagementRequest.addAuthority .spender spender).Permitted default founded
      walletKey foundedWallet ⟨0, .owner, manager.seed, 0, manager.credential⟩ :=
    ⟨wellFormed_spender, rfl, by decide, by decide⟩
  obtain ⟨call, o, hcall, hresult, hkind, id, -, hgranted⟩ :=
    (Ledger.prepared_accepted default [founding] .rejectAll .acceptAll hroom).2 hw
      (List.mem_singleton_self _) hprepare apart_managedAddition hpermitted
      (.signer rfl (List.mem_singleton_self _) [])
  exact ⟨call, o, hcall, hresult, hkind, id, hgranted⟩

end Sample

end SmartWallet
