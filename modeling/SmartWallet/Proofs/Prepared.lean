import SmartWallet.Proofs.Entries
import SmartWallet.Proofs.Fidelity

/-!
# What a client prepares

A prepared instruction starts with its payer as a writable signer and can always be encoded. What it
asks its authority to sign is what the program will check a signature against, as long as the
program is given the same accounts.
-/

namespace SmartWallet

namespace PreparedInstruction

variable {d : Deployment} {payer wallet : Key} {signers : List Key} {p : PreparedInstruction}

/-! ## Layouts -/

lemma createWallet_eq_ok_iff {walletId : Key} {owner : AuthorityPayload} :
    createWallet d payer walletId owner = .ok p ↔ ∃ wallet vault marker,
      (Recipe.wallet walletId.toList).derive d = .ok wallet ∧
      (Recipe.vault wallet.key).derive d = .ok vault ∧
      (Recipe.authority wallet.key owner.seed).derive d = .ok marker ∧
      p = ⟨payer, .createWallet walletId marker.bump owner,
        [⟨payer, true, true⟩, ⟨wallet.key, false, true⟩, ⟨vault.key, false, true⟩,
          ⟨marker.key, false, true⟩, ⟨systemProgram, false, false⟩]⟩ := by
  simp only [createWallet, Recipe.address, bind_eq_ok_iff, ofRecord_eq_ok_iff, map_eq_ok_iff,
    pure_eq_ok_iff]
  constructor
  · rintro ⟨_, ⟨w, hw, rfl⟩, _, ⟨v, hv, rfl⟩, m, hm, rfl⟩
    exact ⟨w, v, m, hw, hv, hm, rfl⟩
  · rintro ⟨w, v, m, hw, hv, hm, rfl⟩
    exact ⟨_, ⟨w, hw, rfl⟩, _, ⟨v, hv, rfl⟩, m, hm, rfl⟩

/-- The accounts of an instruction that an authority authorises. -/
def actingAccounts (payer wallet : AccountRef) (acting third fourth : AccountRef)
    (signers : List Key) : List AccountRef :=
  [payer, wallet, acting, third, fourth] ++ signerRefs signers

lemma addAuthority_eq_ok_iff {actingSeed : Key} {role : Role} {authority : AuthorityPayload} :
    addAuthority d payer wallet actingSeed role authority signers = .ok p ↔ ∃ acting marker,
      (Recipe.authority wallet actingSeed).derive d = .ok acting ∧
      (Recipe.authority wallet authority.seed).derive d = .ok marker ∧
      p = ⟨payer, .addAuthority role authority [],
        actingAccounts ⟨payer, true, true⟩ ⟨wallet, false, true⟩ ⟨acting.key, false, false⟩
          ⟨marker.key, false, true⟩ ⟨systemProgram, false, false⟩ signers⟩ := by
  simp only [addAuthority, Recipe.address, bind_eq_ok_iff, ofRecord_eq_ok_iff, map_eq_ok_iff,
    pure_eq_ok_iff]
  constructor
  · rintro ⟨_, ⟨a, ha, rfl⟩, _, ⟨m, hm, rfl⟩, rfl⟩
    exact ⟨a, m, ha, hm, rfl⟩
  · rintro ⟨a, m, ha, hm, rfl⟩
    exact ⟨_, ⟨a, ha, rfl⟩, _, ⟨m, hm, rfl⟩, rfl⟩

lemma removeAuthority_eq_ok_iff {actingSeed targetSeed refund : Key} :
    removeAuthority d payer wallet actingSeed targetSeed refund signers = .ok p ↔
      ∃ acting target, (Recipe.authority wallet actingSeed).derive d = .ok acting ∧
      (Recipe.authority wallet targetSeed).derive d = .ok target ∧
      p = ⟨payer, .removeAuthority [],
        actingAccounts ⟨payer, true, true⟩ ⟨wallet, false, true⟩ ⟨acting.key, false, false⟩
          ⟨target.key, false, true⟩ ⟨refund, false, true⟩ signers⟩ := by
  simp only [removeAuthority, Recipe.address, bind_eq_ok_iff, ofRecord_eq_ok_iff, map_eq_ok_iff,
    pure_eq_ok_iff]
  constructor
  · rintro ⟨_, ⟨a, ha, rfl⟩, _, ⟨t, ht, rfl⟩, rfl⟩
    exact ⟨a, t, ha, ht, rfl⟩
  · rintro ⟨a, t, ha, ht, rfl⟩
    exact ⟨_, ⟨a, ha, rfl⟩, _, ⟨t, ht, rfl⟩, rfl⟩

lemma transferOwnership_eq_ok_iff {ownerSeed : Key} {newOwner : AuthorityPayload} :
    transferOwnership d payer wallet ownerSeed newOwner signers = .ok p ↔ ∃ current next,
      (Recipe.authority wallet ownerSeed).derive d = .ok current ∧
      (Recipe.authority wallet newOwner.seed).derive d = .ok next ∧
      p = ⟨payer, .transferOwnership newOwner [],
        actingAccounts ⟨payer, true, true⟩ ⟨wallet, false, true⟩ ⟨current.key, false, true⟩
          ⟨next.key, false, true⟩ ⟨systemProgram, false, false⟩ signers⟩ := by
  simp only [transferOwnership, Recipe.address, bind_eq_ok_iff, ofRecord_eq_ok_iff, map_eq_ok_iff,
    pure_eq_ok_iff]
  constructor
  · rintro ⟨_, ⟨a, ha, rfl⟩, _, ⟨m, hm, rfl⟩, rfl⟩
    exact ⟨a, m, ha, hm, rfl⟩
  · rintro ⟨a, m, ha, hm, rfl⟩
    exact ⟨_, ⟨a, ha, rfl⟩, _, ⟨m, hm, rfl⟩, rfl⟩

lemma createSession_eq_ok_iff {actingSeed sessionKey : Key} {expiresAt : UInt64} :
    createSession d payer wallet actingSeed sessionKey expiresAt signers = .ok p ↔
      ∃ acting session, (Recipe.authority wallet actingSeed).derive d = .ok acting ∧
      (Recipe.session wallet sessionKey).derive d = .ok session ∧
      p = ⟨payer, .createSession sessionKey expiresAt [],
        actingAccounts ⟨payer, true, true⟩ ⟨wallet, false, false⟩ ⟨acting.key, false, false⟩
          ⟨session.key, false, true⟩ ⟨systemProgram, false, false⟩ signers⟩ := by
  simp only [createSession, Recipe.address, bind_eq_ok_iff, ofRecord_eq_ok_iff, map_eq_ok_iff,
    pure_eq_ok_iff]
  constructor
  · rintro ⟨_, ⟨a, ha, rfl⟩, _, ⟨s, hs, rfl⟩, rfl⟩
    exact ⟨a, s, ha, hs, rfl⟩
  · rintro ⟨a, s, ha, hs, rfl⟩
    exact ⟨_, ⟨a, ha, rfl⟩, _, ⟨s, hs, rfl⟩, rfl⟩

/-- Prepared by one of the layouts for an authority or a session to authorise. -/
inductive Built (d : Deployment) (payer : Key) (p : PreparedInstruction) : Prop
  | addAuthority {wallet actingSeed : Key} {role : Role} {authority : AuthorityPayload}
      {signers : List Key}
      (built : addAuthority d payer wallet actingSeed role authority signers = .ok p)
  | removeAuthority {wallet actingSeed targetSeed refund : Key} {signers : List Key}
      (built : removeAuthority d payer wallet actingSeed targetSeed refund signers = .ok p)
  | transferOwnership {wallet ownerSeed : Key} {newOwner : AuthorityPayload} {signers : List Key}
      (built : transferOwnership d payer wallet ownerSeed newOwner signers = .ok p)
  | createSession {wallet actingSeed sessionKey : Key} {expiresAt : UInt64} {signers : List Key}
      (built : createSession d payer wallet actingSeed sessionKey expiresAt signers = .ok p)
  | execute {wallet caller : Key} {calls : List Call} {signers : List Key}
      (built : execute d payer wallet caller calls signers = .ok p)

/-- What every layout for an acting authority provides. -/
structure Signable (p : PreparedInstruction) : Prop where
  payer : p.accounts[0]? = some ⟨p.payer, true, true⟩
  kind : p.instruction.kind ≠ .createWallet
  body : ∃ body, p.instruction.signedBody = .ok body
  removal : p.instruction.kind = .removeAuthority → ∃ payer wallet acting target refund rest,
    p.accounts = payer :: wallet :: acting :: target :: refund :: rest

theorem Built.signable (h : Built d payer p) : p.payer = payer ∧ p.Signable := by
  cases h with
  | addAuthority built =>
    obtain ⟨acting, marker, -, -, rfl⟩ := addAuthority_eq_ok_iff.1 built
    exact ⟨rfl, rfl, nofun, ⟨_, rfl⟩, nofun⟩
  | removeAuthority built =>
    obtain ⟨acting, target, -, -, rfl⟩ := removeAuthority_eq_ok_iff.1 built
    exact ⟨rfl, rfl, nofun, ⟨_, rfl⟩, fun _ => ⟨_, _, _, _, _, _, rfl⟩⟩
  | transferOwnership built =>
    obtain ⟨current, next, -, -, rfl⟩ := transferOwnership_eq_ok_iff.1 built
    exact ⟨rfl, rfl, nofun, ⟨_, rfl⟩, nofun⟩
  | createSession built =>
    obtain ⟨acting, session, -, -, rfl⟩ := createSession_eq_ok_iff.1 built
    exact ⟨rfl, rfl, nofun, ⟨_, rfl⟩, nofun⟩
  | execute built =>
    obtain ⟨vault, packed, batch, rest, hexec⟩ := executes_of_execute built
    obtain rfl := hexec.prepared
    exact ⟨rfl, rfl, nofun, ⟨batch, hexec.encoded⟩, nofun⟩

/-! ## What is signed -/

namespace Signable

lemma signedBody_of_kind (hkind : p.instruction.kind ≠ .removeAuthority) :
    p.signedBody = p.instruction.signedBody := by
  unfold signedBody
  cases hix : p.instruction with
  | removeAuthority proof => exact absurd (by rw [hix]; rfl) hkind
  | _ => rfl

lemma exists_signedBody (h : p.Signable) : ∃ body, p.signedBody = .ok body := by
  by_cases hkind : p.instruction.kind = .removeAuthority
  · cases hix : p.instruction with
    | removeAuthority proof => exact ⟨_, by rw [signedBody, hix]⟩
    | _ => rw [hix] at hkind; cases hkind
  · rw [signedBody_of_kind hkind]
    exact h.body

lemma exists_toCall (h : p.Signable) (proof : List UInt8) (d : Deployment) :
    ∃ data, (p.instruction.withProof proof).encode d.profile = .ok data ∧
      (p.withProof proof).toCall d = .ok ⟨d.program, p.accounts, data⟩ := by
  obtain ⟨body, hbody⟩ := h.body
  obtain ⟨data, hdata⟩ := Instruction.exists_encode
    (Instruction.signedBody_withProof.trans hbody : (p.instruction.withProof proof).signedBody = _)
    d.profile
  refine ⟨data, hdata, ?_⟩
  simp only [toCall, bind_eq_ok_iff, pure_eq_ok_iff]
  exact ⟨data, hdata, rfl⟩

/-- The program makes out what the client signed: the same discriminator and the same body. -/
theorem actingAuthorization_eq {c : Context} {proof data body : List UInt8} {ix : Instruction}
    {auth : Authorization} (h : p.Signable)
    (hencode : (p.instruction.withProof proof).encode c.deployment.profile = .ok data)
    (hkeys : c.accounts.map AccountRef.key = p.accounts.map AccountRef.key)
    (hbody : p.signedBody = .ok body) (hread : c.readInstruction data = .ok (ix, auth)) :
    c.actingAuthorization auth ix =
      ⟨p.instruction.kind.discriminator c.deployment.profile, body, auth.proof⟩ := by
  obtain ⟨hdecode, hsigned, hdiscriminator, -⟩ := Context.readInstruction_eq_ok_iff.1 hread
  obtain ⟨hkind, hsame⟩ := Instruction.signedBody_of_decode hencode hdecode
  rw [Instruction.kind_withProof] at hkind
  rw [Instruction.signedBody_withProof, hsigned] at hsame
  rw [hkind] at hdiscriminator
  by_cases hremoval : p.instruction.kind = .removeAuthority
  · obtain ⟨payer, wallet, acting, target, refund, rest, haccounts⟩ := h.removal hremoval
    cases ix with
    | removeAuthority proof' =>
      rw [haccounts] at hkeys
      simp only [List.map_cons, List.map_eq_cons_iff] at hkeys
      obtain ⟨_, _, hc, -, _, _, rfl, -, _, _, rfl, -, target', _, rfl, htarget, refund', _, rfl,
        hrefund, -⟩ := hkeys
      have hcovered : body = target'.key.toList ++ refund'.key.toList := by
        cases hix : p.instruction with
        | removeAuthority proof =>
          simp only [signedBody, hix, haccounts, Except.ok.injEq] at hbody
          simp [← hbody, htarget, hrefund]
        | _ => rw [hix] at hremoval; cases hremoval
      simp [Context.actingAuthorization, hc, hcovered, hdiscriminator]
    | _ => rw [hremoval] at hkind; cases hkind
  · rw [signedBody_of_kind hremoval, ← hsame, Except.ok.injEq] at hbody
    have hacting : c.actingAuthorization auth ix = auth := by
      cases ix with
      | removeAuthority proof' => exact absurd hkind.symm hremoval
      | _ => rfl
    rw [hacting, ← hdiscriminator, ← hbody]

end Signable

end PreparedInstruction

end SmartWallet
