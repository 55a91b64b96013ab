import SmartWallet.Proofs.Authentication

/-!
# How an authority's request is decided

A request has one of five answers, and `AuthRequest.Decides` says when each of them is given: the
P-256 key signed the challenge, the Ed25519 key signs the transaction, a session key stands in for
either of them, that session key has expired, or nobody authorises the request.
-/

namespace SmartWallet

namespace SignedProof

lemma length_encode (p : SignedProof) : p.encode.length = size := by
  simp [encode, size, bytesOfUInt64, bytesOfUInt32, Bytes.length_toList]

/-- Any bytes of the right length are those of a proof. -/
lemma exists_encode {bs : List UInt8} (h : bs.length = size) :
    ∃ p : SignedProof, bs = p.encode := by
  have hslot : (bs.take 8).length = 8 := by simp [h, size]
  have hcounter : ((bs.drop 8).take 4).length = 4 := by simp [h, size]
  have hsignature : ((bs.drop 8).drop 4).length = 64 := by simp [h, size]
  refine ⟨⟨Bytes.toUInt64 ⟨_, hslot⟩, Bytes.toUInt32 ⟨_, hcounter⟩, ⟨_, hsignature⟩⟩, ?_⟩
  rw [encode, Bytes.bytesOfUInt64_toUInt64, Bytes.bytesOfUInt32_toUInt32, List.append_assoc,
    List.take_append_drop, List.take_append_drop]

lemma decode?_eq_none_iff {bs : List UInt8} : decode? bs = none ↔ bs.length ≠ size := by
  rw [Option.eq_none_iff_forall_ne_some]
  simp only [Ne, decode?_eq_some_iff]
  constructor
  · intro h hlength
    obtain ⟨p, hp⟩ := exists_encode hlength
    exact h p hp
  · rintro h p rfl
    exact h p.length_encode

end SignedProof

/-- A credential has a master key of either kind. -/
lemma Credential.exists_master (c : Credential) :
    (∃ key, c.ed25519Master? = some key) ∨ ∃ key, c.secp256r1Master? = some key := by
  cases c <;> simp [ed25519Master?, secp256r1Master?]

namespace AuthRequest

variable {r : AuthRequest} {verify : Verifier} {a : Authority} {expiresAt : UInt64}
  {answer : Except ProgramError AuthOutcome}

/-- The key is that of some signer. -/
def Signer (r : AuthRequest) (key : Key) : Prop := ∃ s ∈ r.accounts, s.signer = true ∧ s.key = key

/-- The Ed25519 key of the authority signs. -/
def MasterSigns (r : AuthRequest) (a : Authority) : Prop :=
  ∃ key, a.credential.ed25519Master? = some key ∧ r.Signer key

/-- The master key does not come into it: the Ed25519 key does not sign, or what should be a
signature by the P-256 key has another length. -/
inductive SkipsMaster (r : AuthRequest) (a : Authority) : Prop
  | ed25519 {key : Key} (master : a.credential.ed25519Master? = some key) (absent : ¬r.Signer key)
  | secp256r1 {key : CompressedKey} (master : a.credential.secp256r1Master? = some key)
      (length : r.proof.length ≠ 76)

/-- Sessions are allowed, and the session key signs. -/
def SessionSigns (r : AuthRequest) (a : Authority) (expiresAt : UInt64) : Prop :=
  r.allowSession = true ∧ ∃ key, a.credential.session? = some (key, expiresAt) ∧ r.Signer key

/-- The answers to a request. -/
inductive Decides (r : AuthRequest) (verify : Verifier) (a : Authority) :
    Except ProgramError AuthOutcome → Prop
  | signed {p : SignedProof} (signed : r.SignedBy verify a p) :
      Decides r verify a (.ok (.signed p.counter))
  | master (signs : r.MasterSigns a) : Decides r verify a (.ok .master)
  | session {expiresAt : UInt64} (signs : r.SessionSigns a expiresAt) (skips : r.SkipsMaster a)
      (live : r.slot < expiresAt) : Decides r verify a (.ok .session)
  | expired {expiresAt : UInt64} (signs : r.SessionSigns a expiresAt) (skips : r.SkipsMaster a)
      (lapsed : expiresAt ≤ r.slot) : Decides r verify a (.error .sessionExpired)
  | refused (unsigned : ¬∃ p, r.SignedBy verify a p) (absent : ¬r.MasterSigns a)
      (alone : ¬∃ expiresAt, r.SessionSigns a expiresAt ∧ r.SkipsMaster a) :
      Decides r verify a (.error .unauthorized)

/-- What is left when neither a master key signs the transaction nor the master is skipped. -/
lemma exists_signature (hmaster : ¬r.MasterSigns a) (hskips : ¬r.SkipsMaster a) :
    ∃ key p, a.credential.secp256r1Master? = some key ∧ r.proof = SignedProof.encode p := by
  rcases a.credential.exists_master with ⟨key, hkey⟩ | ⟨key, hkey⟩
  · by_cases hsigner : r.Signer key
    · exact absurd ⟨key, hkey, hsigner⟩ hmaster
    · exact absurd (.ed25519 hkey hsigner) hskips
  · by_cases hlength : r.proof.length = SignedProof.size
    · obtain ⟨p, hp⟩ := SignedProof.exists_encode hlength
      exact ⟨key, p, hkey, hp⟩
    · exact absurd (.secp256r1 hkey hlength) hskips

lemma viaSession_of_sessionSigns (h : r.SessionSigns a expiresAt) :
    r.viaSession a = if r.slot < expiresAt then .ok .session else .error .sessionExpired := by
  obtain ⟨hallow, key, hsession, hsigns⟩ := h
  simp [viaSession, hsession, hallow, AccountRef.signs_iff.2 hsigns]

lemma viaSession_of_not_sessionSigns (h : ∀ expiresAt, ¬r.SessionSigns a expiresAt) :
    r.viaSession a = .error .unauthorized := by
  unfold viaSession
  cases hsession : a.credential.session? with
  | none => rfl
  | some s =>
    obtain ⟨key, expiresAt⟩ := s
    refine if_neg fun hs => h expiresAt ?_
    rw [Bool.and_eq_true, AccountRef.signs_iff] at hs
    exact ⟨hs.1, key, hsession, hs.2⟩

lemma authenticate_of_skipsMaster (h : r.SkipsMaster a) :
    r.authenticate verify a = r.viaSession a := by
  cases h with
  | @ed25519 key master absent =>
    have habsent : AccountRef.signs r.accounts key = false := by
      rw [← Bool.not_eq_true, AccountRef.signs_iff]
      exact absent
    rw [authenticate, if_neg (by simp [usesSecp256r1_of_ed25519Master? master])]
    simp [byEd25519, master, habsent, orError, Bind.bind, Except.bind]
  | secp256r1 master length =>
    rw [authenticate, if_pos (usesSecp256r1_of_secp256r1Master? master)]
    simp [bySecp256r1, master, SignedProof.decode?_eq_none_iff.2 length, orError, Bind.bind,
      Except.bind]

lemma authenticate_of_masterSigns (h : r.MasterSigns a) :
    r.authenticate verify a = .ok .master := by
  obtain ⟨key, hkey, hsigns⟩ := h
  exact authenticate_of_byMaster (.signer hkey hsigns)

/-- A proof of the right length is never anything but a signature: if it is not a good one, no
session key is asked. -/
lemma authenticate_of_unsigned {key : CompressedKey} {p : SignedProof}
    (hkey : a.credential.secp256r1Master? = some key) (hp : r.proof = p.encode)
    (h : ¬r.SignedBy verify a p) : r.authenticate verify a = .error .unauthorized := by
  have hdecode : SignedProof.decode? r.proof = some p := SignedProof.decode?_eq_some_iff.2 hp
  rw [authenticate, if_pos (usesSecp256r1_of_secp256r1Master? hkey)]
  refine FailsBy.eq_error ?_ fun o ho => h ?_
  · simp only [bySecp256r1, hkey, hdecode]
    exact FailsBy.bind failsBy_ok fun _ => failsBy_ensure.bind fun _ =>
      failsBy_ensure.bind fun _ => failsBy_ensure.bind fun _ => failsBy_ok
  · simp only [bySecp256r1, hkey, hdecode, bind_eq_ok_iff, orError_eq_ok_iff, ensure_eq_ok,
      exists_const] at ho
    obtain ⟨_, ⟨⟩, hcounter, hrecent, hverified, -⟩ := ho
    obtain ⟨hle, hage⟩ := isRecent_iff.1 hrecent
    exact ⟨hp, hcounter, hle, hage, key, hkey, hverified⟩

lemma Decides.authenticate_eq (h : r.Decides verify a answer) :
    r.authenticate verify a = answer := by
  cases h with
  | signed signed => exact authenticate_of_byMaster (.signature signed)
  | master signs => exact authenticate_of_masterSigns signs
  | session signs skips live =>
    rw [authenticate_of_skipsMaster skips, viaSession_of_sessionSigns signs, if_pos live]
  | expired signs skips lapsed =>
    rw [authenticate_of_skipsMaster skips, viaSession_of_sessionSigns signs,
      if_neg (UInt64.not_lt.2 lapsed)]
  | refused unsigned absent alone =>
    by_cases hskips : r.SkipsMaster a
    · rw [authenticate_of_skipsMaster hskips]
      exact viaSession_of_not_sessionSigns fun expiresAt hs => alone ⟨expiresAt, hs, hskips⟩
    · obtain ⟨key, p, hkey, hp⟩ := exists_signature absent hskips
      exact authenticate_of_unsigned hkey hp fun hs => unsigned ⟨p, hs⟩

lemma exists_decides (r : AuthRequest) (verify : Verifier) (a : Authority) :
    ∃ answer, r.Decides verify a answer := by
  by_cases hsigned : ∃ p, r.SignedBy verify a p
  · obtain ⟨p, hp⟩ := hsigned
    exact ⟨_, .signed hp⟩
  by_cases hmaster : r.MasterSigns a
  · exact ⟨_, .master hmaster⟩
  by_cases hsession : ∃ expiresAt, r.SessionSigns a expiresAt ∧ r.SkipsMaster a
  · obtain ⟨expiresAt, hsigns, hskips⟩ := hsession
    rcases UInt64.lt_or_le r.slot expiresAt with hlive | hlapsed
    · exact ⟨_, .session hsigns hskips hlive⟩
    · exact ⟨_, .expired hsigns hskips hlapsed⟩
  · exact ⟨_, .refused hsigned hmaster hsession⟩

lemma authenticate_eq_iff : r.authenticate verify a = answer ↔ r.Decides verify a answer := by
  constructor
  · rintro rfl
    obtain ⟨answer, hanswer⟩ := exists_decides r verify a
    rwa [hanswer.authenticate_eq]
  · exact Decides.authenticate_eq

/-- Each answer is given exactly under its own conditions: a new counter after a good signature, the
plain master outcome if the Ed25519 key signs, the two session answers only if the master key does
not come into it, and a refusal in every other case. -/
theorem decision_complete (r : AuthRequest) (verify : Verifier) (a : Authority) :
    (∀ viaSession counter, r.authenticate verify a = .ok ⟨viaSession, some counter⟩ ↔
      viaSession = false ∧ ∃ p, r.SignedBy verify a p ∧ p.counter = counter) ∧
    (r.authenticate verify a = .ok .master ↔ r.MasterSigns a) ∧
    (r.authenticate verify a = .ok .session ↔
      ∃ expiresAt, r.SessionSigns a expiresAt ∧ r.SkipsMaster a ∧ r.slot < expiresAt) ∧
    (r.authenticate verify a = .error .sessionExpired ↔
      ∃ expiresAt, r.SessionSigns a expiresAt ∧ r.SkipsMaster a ∧ expiresAt ≤ r.slot) ∧
    (r.authenticate verify a = .error .unauthorized ↔
      (¬∃ p, r.SignedBy verify a p) ∧ ¬r.MasterSigns a ∧
        ¬∃ expiresAt, r.SessionSigns a expiresAt ∧ r.SkipsMaster a) := by
  simp only [authenticate_eq_iff]
  refine ⟨fun viaSession counter => ⟨fun h => ?_, ?_⟩, ⟨fun h => ?_, .master⟩,
    ⟨fun h => ?_, ?_⟩, ⟨fun h => ?_, ?_⟩, ⟨fun h => ?_, ?_⟩⟩
  · cases h with | signed signed => exact ⟨rfl, _, signed, rfl⟩
  · rintro ⟨rfl, p, signed, rfl⟩
    exact .signed signed
  · cases h with | master signs => exact signs
  · cases h with | session signs skips live => exact ⟨_, signs, skips, live⟩
  · rintro ⟨expiresAt, signs, skips, live⟩
    exact .session signs skips live
  · cases h with | expired signs skips lapsed => exact ⟨_, signs, skips, lapsed⟩
  · rintro ⟨expiresAt, signs, skips, lapsed⟩
    exact .expired signs skips lapsed
  · cases h with | refused unsigned absent alone => exact ⟨unsigned, absent, alone⟩
  · rintro ⟨unsigned, absent, alone⟩
    exact .refused unsigned absent alone

end AuthRequest

end SmartWallet
