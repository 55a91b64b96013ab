import SmartWallet.Authentication
import SmartWallet.Proofs.RecordCodec

/-!
# Who authorises a request

An authority's master credential is its Ed25519 key, which must sign, or its P-256 key, whose
signature must cover the next counter and a recent slot. `AuthRequest.authenticate` reports the
master credential whenever it applies, and an embedded session key only if it does not.
-/

namespace SmartWallet

namespace SignedProof

lemma decode?_encode (p : SignedProof) : decode? p.encode = some p := by
  simp [decode?, encode, Bytes.ofList?_toList]

lemma decode?_eq_some_iff {bs : List UInt8} {p : SignedProof} :
    decode? bs = some p ↔ bs = p.encode := by
  constructor
  · intro h
    simp only [decode?, Option.bind_eq_bind, Option.bind_eq_some_iff, Prod.exists,
      Bytes.split?_eq_some_iff, Bytes.ofList?_eq_some_iff, Option.pure_def, Option.some.injEq] at h
    obtain ⟨slot, _, rfl, counter, _, rfl, signature, rfl, rfl⟩ := h
    simp [encode, Bytes.bytesOfUInt64_toUInt64, Bytes.bytesOfUInt32_toUInt32]
  · rintro rfl
    exact decode?_encode p

end SignedProof

namespace AuthRequest

variable {r : AuthRequest} {verify : Verifier} {a : Authority}

/-- The proof is a signature by the authority's P-256 key for its next counter, made at a slot that
is not in the future and at most 60 slots old. -/
structure SignedBy (r : AuthRequest) (verify : Verifier) (a : Authority) (p : SignedProof) :
    Prop where
  sent : r.proof = p.encode
  counter : p.counter = a.counter + 1
  notEarly : p.slot ≤ r.slot
  recent : r.slot.toNat - p.slot.toNat ≤ 60
  verified : ∃ key, a.credential.secp256r1Master? = some key ∧
    verify key (r.challenge p.slot p.counter).digest p.signature = true

/-- The authority's master credential authorises the request; a signature also tells the counter
that it uses up. -/
inductive ByMaster (r : AuthRequest) (verify : Verifier) (a : Authority) : Option UInt32 → Prop
  | signer {key : Key} (master : a.credential.ed25519Master? = some key)
      (signs : ∃ s ∈ r.accounts, s.signer = true ∧ s.key = key) : ByMaster r verify a none
  | signature {p : SignedProof} (signed : r.SignedBy verify a p) :
      ByMaster r verify a (some p.counter)

/-- The authority's session key signs before it expires, where that is allowed. -/
def BySession (r : AuthRequest) (a : Authority) : Prop :=
  r.allowSession = true ∧ ∃ key expiresAt, a.credential.session? = some (key, expiresAt) ∧
    (∃ s ∈ r.accounts, s.signer = true ∧ s.key = key) ∧ r.slot < expiresAt

lemma isRecent_iff {slot : UInt64} :
    r.isRecent slot = true ↔ slot ≤ r.slot ∧ r.slot.toNat - slot.toNat ≤ 60 := by
  simp only [isRecent, Bool.and_eq_true, decide_eq_true_eq]
  refine and_congr_right fun hle => ?_
  rw [UInt64.le_iff_toNat_le, UInt64.toNat_sub_of_le _ _ hle]
  rfl

lemma viaSession_eq_ok_iff {o : AuthOutcome} :
    r.viaSession a = .ok o ↔ r.BySession a ∧ o = .session := by
  unfold viaSession BySession
  cases a.credential.session? with
  | none => simp
  | some s =>
    obtain ⟨key, expiresAt⟩ := s
    simp only [Bool.and_eq_true, AccountRef.signs_iff, Option.some.injEq, Prod.mk.injEq]
    constructor
    · intro h
      split at h
      · next hs =>
        split at h
        · next hlive =>
          cases h
          exact ⟨⟨hs.1, key, expiresAt, ⟨rfl, rfl⟩, hs.2, hlive⟩, rfl⟩
        · cases h
      · cases h
    · rintro ⟨⟨hallow, _, _, ⟨rfl, rfl⟩, hs, hlive⟩, rfl⟩
      rw [if_pos ⟨hallow, hs⟩, if_pos hlive]

lemma usesSecp256r1_of_secp256r1Master? {key : CompressedKey}
    (h : a.credential.secp256r1Master? = some key) : a.kind.usesSecp256r1 = true := by
  unfold Authority.kind
  cases hc : a.credential <;> simp_all [Credential.secp256r1Master?, Credential.kind,
    AuthorityKind.usesSecp256r1]

lemma usesSecp256r1_of_ed25519Master? {key : Key}
    (h : a.credential.ed25519Master? = some key) : a.kind.usesSecp256r1 = false := by
  unfold Authority.kind
  cases hc : a.credential <;> simp_all [Credential.ed25519Master?, Credential.kind,
    AuthorityKind.usesSecp256r1]

lemma bySecp256r1_of_signedBy {p : SignedProof} (h : r.SignedBy verify a p) :
    r.bySecp256r1 verify a = .ok (.signed p.counter) := by
  obtain ⟨key, hkey, hv⟩ := h.verified
  have hd : SignedProof.decode? r.proof = some p := SignedProof.decode?_eq_some_iff.2 h.sent
  have hr : r.isRecent p.slot = true := isRecent_iff.2 ⟨h.notEarly, h.recent⟩
  simp only [bySecp256r1, hkey, hd, orError, ensure, h.counter, hr, Bind.bind, Except.bind,
    Pure.pure, Except.pure, if_true]
  rw [← h.counter, if_pos hv]

/-- The master credential is what counts if it applies. -/
theorem authenticate_of_byMaster {counter? : Option UInt32} (h : r.ByMaster verify a counter?) :
    r.authenticate verify a = .ok ⟨false, counter?⟩ := by
  cases h with
  | signer master signs =>
    have hs := AccountRef.signs_iff.2 signs
    simp [authenticate, usesSecp256r1_of_ed25519Master? master, byEd25519, master, hs, orError,
      AuthOutcome.master, Bind.bind, Except.bind, Pure.pure, Except.pure]
  | signature signed =>
    obtain ⟨key, hkey, -⟩ := signed.verified
    rw [authenticate, if_pos (usesSecp256r1_of_secp256r1Master? hkey),
      bySecp256r1_of_signedBy signed]
    rfl

/-- A proof that has the form of a signature counts as one, for the next counter only. -/
lemma counter_of_authenticate {o : AuthOutcome} {key : CompressedKey} {p : SignedProof}
    (h : r.authenticate verify a = .ok o) (hkey : a.credential.secp256r1Master? = some key)
    (hp : r.proof = p.encode) : p.counter = a.counter + 1 := by
  have hd : SignedProof.decode? r.proof = some p := SignedProof.decode?_eq_some_iff.2 hp
  rw [authenticate, if_pos (usesSecp256r1_of_secp256r1Master? hkey)] at h
  simp only [bySecp256r1, hkey, hd, bind_eq_ok_iff, ensure_eq_ok, exists_const] at h
  obtain ⟨_, -, hcounter, -⟩ := h
  exact hcounter

theorem byMaster_or_bySession {o : AuthOutcome} (h : r.authenticate verify a = .ok o) :
    (o.viaSession = false ∧ r.ByMaster verify a o.newCounter) ∨ (o = .session ∧ r.BySession a) := by
  unfold authenticate at h
  split at h
  · simp only [bySecp256r1, bind_eq_ok_iff, orError_eq_ok_iff] at h
    obtain ⟨key, hkey, h⟩ := h
    split at h
    · next hd =>
      obtain ⟨hs, rfl⟩ := viaSession_eq_ok_iff.1 h
      exact .inr ⟨rfl, hs⟩
    · next p hd =>
      simp only [bind_eq_ok_iff, ensure_eq_ok, exists_const, pure_eq_ok_iff] at h
      obtain ⟨hc, hr, hv, rfl⟩ := h
      obtain ⟨hle, hage⟩ := isRecent_iff.1 hr
      exact .inl ⟨rfl, .signature
        ⟨SignedProof.decode?_eq_some_iff.1 hd, hc, hle, hage, key, hkey, hv⟩⟩
  · simp only [byEd25519, bind_eq_ok_iff, orError_eq_ok_iff] at h
    obtain ⟨key, hkey, h⟩ := h
    split at h
    · next hs =>
      cases h
      exact .inl ⟨rfl, .signer hkey (AccountRef.signs_iff.1 hs)⟩
    · obtain ⟨hs, rfl⟩ := viaSession_eq_ok_iff.1 h
      exact .inr ⟨rfl, hs⟩

end AuthRequest

end SmartWallet
