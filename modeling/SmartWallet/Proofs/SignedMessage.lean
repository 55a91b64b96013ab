import SmartWallet.Proofs.Odometer

/-!
# What a signature binds

The message of a signature has no separators. It can still be taken apart in one way only: the
discriminator tells the instruction, the body ends where its own bytes say so, the slot and the
counter have fixed lengths at the end, and what is left is the payer and whole accounts.
-/

namespace SmartWallet

namespace Challenge

lemma flagByte_injective : Function.Injective flagByte := by
  decide

lemma accountBytes_append_inj {a a' : AccountRef} {rest rest' : List UInt8}
    (h : accountBytes a ++ rest = accountBytes a' ++ rest') : a = a' ∧ rest = rest' := by
  obtain ⟨key, signer, writable⟩ := a
  obtain ⟨key', signer', writable'⟩ := a'
  simp only [accountBytes, List.append_assoc] at h
  obtain ⟨rfl, hflags⟩ := Bytes.append_inj h
  simp only [List.cons_append, List.nil_append, List.cons.injEq,
    flagByte_injective.eq_iff] at hflags
  obtain ⟨rfl, rfl, rfl⟩ := hflags
  exact ⟨rfl, rfl⟩

lemma accountBytes_ne_nil (a : AccountRef) : accountBytes a ≠ [] := by
  simp [accountBytes]

lemma flatMap_accountBytes_injective :
    Function.Injective fun accounts : List AccountRef => accounts.flatMap accountBytes := by
  intro accounts accounts' h
  induction accounts generalizing accounts' with
  | nil =>
    cases accounts' with
    | nil => rfl
    | cons a accounts' => simp [accountBytes_ne_nil] at h
  | cons a accounts ih =>
    cases accounts' with
    | nil => simp [accountBytes_ne_nil] at h
    | cons a' accounts' =>
      simp only [List.flatMap_cons] at h
      obtain ⟨rfl, hrest⟩ := accountBytes_append_inj h
      rw [ih hrest]

/-- Slot and counter are the last twelve bytes of a message. -/
lemma parts_of_bytes_eq {c c' : Challenge} (h : c.bytes = c'.bytes) :
    (c.discriminator ++ (c.body ++ (c.payer.toList ++ c.accounts.flatMap accountBytes)) =
      c'.discriminator ++ (c'.body ++ (c'.payer.toList ++ c'.accounts.flatMap accountBytes))) ∧
      c.slot = c'.slot ∧ c.counter = c'.counter := by
  obtain ⟨hrest, hcounter⟩ := List.append_inj' h (by simp [bytesOfUInt32])
  obtain ⟨hfront, hslot⟩ := List.append_inj' hrest (by simp [bytesOfUInt64])
  refine ⟨by simpa only [List.append_assoc] using hfront, ?_, ?_⟩
  · exact Bytes.ofUInt64_injective (Bytes.ext hslot)
  · exact Bytes.ofUInt32_injective (Bytes.ext hcounter)

end Challenge

namespace Instruction

/-- What a signature covers of an instruction. A removal has no body of its own and is covered by
its target and its refund. -/
def signedPayload (target refund : Key) : Instruction → Except ProgramError (List UInt8)
  | .removeAuthority _ => .ok (target.toList ++ refund.toList)
  | ix => ix.signedBody

/-- The bytes that a signature covers of an instruction of a known kind end where they end. -/
lemma signedPayload_append_inj {ix ix' : Instruction} {target refund target' refund' : Key}
    {p p' rest rest' : List UInt8} (hwf : ix.WellFormed) (hwf' : ix'.WellFormed)
    (hkind : ix.kind = ix'.kind) (hcreate : ix.kind ≠ .createWallet)
    (hp : ix.signedPayload target refund = .ok p)
    (hp' : ix'.signedPayload target' refund' = .ok p') (h : p ++ rest = p' ++ rest') :
    ix.withProof [] = ix'.withProof [] ∧
      (ix.kind = .removeAuthority → target = target' ∧ refund = refund') ∧ rest = rest' := by
  cases ix with
  | createWallet => exact absurd rfl hcreate
  | addAuthority role q proof =>
    cases ix' with
    | addAuthority role' q' proof' =>
      cases hp
      cases hp'
      simp only [List.cons_append, List.nil_append, List.cons.injEq,
        AuthorityKind.tag_injective.eq_iff, Role.tag_injective.eq_iff] at h
      -- the leading tag fixes the kind, and with it the length of the credential
      obtain ⟨hqkind, rfl, hq⟩ := h
      obtain ⟨rfl, rfl⟩ :=
        AuthorityPayload.append_inj (hwf.enrolled q rfl) (hwf'.enrolled q' rfl) hqkind hq
      exact ⟨rfl, by rintro ⟨⟩, rfl⟩
    | _ => cases hkind
  | removeAuthority proof =>
    cases ix' with
    | removeAuthority proof' =>
      cases hp
      cases hp'
      simp only [List.append_assoc] at h
      obtain ⟨rfl, hrefund⟩ := Bytes.append_inj h
      obtain ⟨rfl, rfl⟩ := Bytes.append_inj hrefund
      exact ⟨rfl, fun _ => ⟨rfl, rfl⟩, rfl⟩
    | _ => cases hkind
  | transferOwnership q proof =>
    cases ix' with
    | transferOwnership q' proof' =>
      cases hp
      cases hp'
      simp only [List.cons_append, List.cons.injEq, AuthorityKind.tag_injective.eq_iff] at h
      obtain ⟨hqkind, hq⟩ := h
      obtain ⟨rfl, rfl⟩ :=
        AuthorityPayload.append_inj (hwf.enrolled q rfl) (hwf'.enrolled q' rfl) hqkind hq
      exact ⟨rfl, by rintro ⟨⟩, rfl⟩
    | _ => cases hkind
  | execute calls proof =>
    cases ix' with
    | execute calls' proof' =>
      obtain ⟨rfl, rfl⟩ := Batch.append_inj hp hp' h
      exact ⟨rfl, by rintro ⟨⟩, rfl⟩
    | _ => cases hkind
  | createSession sessionKey expiresAt proof =>
    cases ix' with
    | createSession sessionKey' expiresAt' proof' =>
      cases hp
      cases hp'
      simp only [List.append_assoc] at h
      obtain ⟨rfl, hexpiry⟩ := Bytes.append_inj h
      obtain ⟨hbytes, rfl⟩ :=
        Bytes.append_inj (a := .ofUInt64 expiresAt) (b := .ofUInt64 expiresAt') hexpiry
      cases Bytes.ofUInt64_injective hbytes
      exact ⟨rfl, by rintro ⟨⟩, rfl⟩
    | _ => cases hkind

end Instruction

/-- What an authority is asked to sign. Only a removal has a target and a refund. -/
structure SigningRequest where
  instruction : Instruction
  target : Key
  refund : Key
  payer : Key
  accounts : List AccountRef
  slot : UInt64
  counter : UInt32

namespace SigningRequest

/-- The challenge of a request, whose bytes are hashed for the signature. -/
def challenge (r : SigningRequest) (profile : DiscriminatorProfile) :
    Except ProgramError Challenge := do
  let body ← r.instruction.signedPayload r.target r.refund
  pure ⟨r.instruction.kind.discriminator profile, body, r.payer, r.accounts, r.slot, r.counter⟩

variable {r r' : SigningRequest} {profile : DiscriminatorProfile} {c c' : Challenge}

lemma challenge_eq_ok_iff : r.challenge profile = .ok c ↔
    ∃ body, r.instruction.signedPayload r.target r.refund = .ok body ∧
      c = ⟨r.instruction.kind.discriminator profile, body, r.payer, r.accounts, r.slot,
        r.counter⟩ := by
  simp only [challenge, bind_eq_ok_iff, pure_eq_ok_iff, @eq_comm _ c]

lemma exists_challenge (h : r.instruction.WellFormed) (profile : DiscriminatorProfile) :
    ∃ c, r.challenge profile = .ok c := by
  obtain ⟨ix, target, refund, payer, accounts, slot, counter⟩ := r
  obtain ⟨body, hbody⟩ := h.signed
  cases ix with
  | removeAuthority proof => exact ⟨_, rfl⟩
  | _ => exact ⟨_, challenge_eq_ok_iff.2 ⟨body, hbody, rfl⟩⟩

/-- The request that a signature answers when some bytes and accounts are sent with it. -/
structure MadeBy (r : SigningRequest) (profile : DiscriminatorProfile) (data : List UInt8)
    (sent : List AccountRef) (p : SignedProof) : Prop where
  instruction : Instruction.decode profile data = .ok r.instruction
  removal : r.instruction.kind = .removeAuthority →
    sent[3]?.map AccountRef.key = some r.target ∧ sent[4]?.map AccountRef.key = some r.refund
  payer : sent[0]?.map AccountRef.key = some r.payer
  accounts : r.accounts = sent
  slot : r.slot = p.slot
  counter : r.counter = p.counter

/-- What an instruction covers is what a request for it covers, whose target and refund are those of
its accounts. -/
lemma signedPayload_of_signs {ix : Instruction} {sent : List AccountRef} {body : List UInt8}
    (h : ix.Signs sent body) : ∃ target refund, ix.signedPayload target refund = .ok body ∧
      (ix.kind = .removeAuthority →
        sent[3]?.map AccountRef.key = some target ∧ sent[4]?.map AccountRef.key = some refund) := by
  cases ix with
  | removeAuthority proof =>
    obtain ⟨target, refund, htarget, hrefund, rfl⟩ := h
    exact ⟨target.key, refund.key, rfl, fun _ => by simp [htarget, hrefund]⟩
  | _ => exact ⟨systemProgram, systemProgram, h, nofun⟩

/-- A signature is accepted only for the message of the request that it came with. -/
theorem exists_madeBy {l : Ledger} {d : Deployment} {verify : Verifier} {dispatcher : Dispatcher}
    {sent : List AccountRef} {data : List UInt8} {e : EntryRef} {p : SignedProof}
    (h : l.StepSignedBy d e p (.submit verify dispatcher sent data)) :
    ∃ (r : SigningRequest) (c : Challenge) (a : Authority) (key : CompressedKey),
      r.MadeBy d.profile data sent p ∧ r.challenge d.profile = .ok c ∧ l.authorityAt? e = some a ∧
        a.credential.secp256r1Master? = some key ∧
        verify key (Sha256.hash c.bytes) p.signature = true := by
  obtain ⟨-, hdecode, hcovered, hpayer, -, hw, -, ha, rfl, hsigned⟩ := h
  obtain ⟨key, hkey, hverified⟩ := hsigned.verified
  obtain ⟨target, refund, hbody, hremoval⟩ := signedPayload_of_signs hcovered
  exact ⟨⟨_, target, refund, _, sent, p.slot, p.counter⟩, _, _, key,
    ⟨hdecode, hremoval, congrArg _ hpayer, rfl, rfl, rfl⟩, challenge_eq_ok_iff.2 ⟨_, hbody, rfl⟩,
    Records.authorityAt?_eq_some_iff.2 ⟨_, hw.record, ha.entry⟩, hkey, hverified⟩

/-- Two requests are for the same thing: they agree in all but the proofs that were sent. -/
structure Agrees (r r' : SigningRequest) : Prop where
  kind : r.instruction.kind = r'.instruction.kind
  instruction : r.instruction.withProof [] = r'.instruction.withProof []
  removal : r.instruction.kind = .removeAuthority → r.target = r'.target ∧ r.refund = r'.refund
  payer : r.payer = r'.payer
  accounts : r.accounts = r'.accounts
  slot : r.slot = r'.slot
  counter : r.counter = r'.counter

lemma agrees_of_bytes_eq (hwf : r.instruction.WellFormed) (hwf' : r'.instruction.WellFormed)
    (hcreate : r.instruction.kind ≠ .createWallet) (hc : r.challenge profile = .ok c)
    (hc' : r'.challenge profile = .ok c') (h : c.bytes = c'.bytes) : r.Agrees r' := by
  obtain ⟨body, hbody, rfl⟩ := challenge_eq_ok_iff.1 hc
  obtain ⟨body', hbody', rfl⟩ := challenge_eq_ok_iff.1 hc'
  obtain ⟨hfront, hslot, hcounter⟩ := Challenge.parts_of_bytes_eq h
  obtain ⟨hdiscriminator, hrest⟩ :=
    List.append_inj hfront (by simp only [InstructionKind.length_discriminator])
  have hkind := InstructionKind.discriminator_injective profile hdiscriminator
  obtain ⟨hinstruction, hremoval, hparties⟩ :=
    Instruction.signedPayload_append_inj hwf hwf' hkind hcreate hbody hbody' hrest
  obtain ⟨hpayer, haccounts⟩ := Bytes.append_inj hparties
  exact ⟨hkind, hinstruction, hremoval, hpayer,
    Challenge.flatMap_accountBytes_injective haccounts, hslot, hcounter⟩

/-- Two requests with the same message, each for an instruction that some bytes hold, are for the
same thing. The message exists for every such request. A signature that the program accepts is one
for the message of the request that it came with, so that no other request can bring it. -/
theorem message_binds_request {bs bs' : List UInt8}
    (hr : Instruction.decode profile bs = .ok r.instruction)
    (hr' : Instruction.decode profile bs' = .ok r'.instruction)
    (hcreate : r.instruction.kind ≠ .createWallet) :
    (∃ c c', r.challenge profile = .ok c ∧ r'.challenge profile = .ok c' ∧
      (c.bytes = c'.bytes → r.Agrees r')) ∧
    ∀ (l : Ledger) (d : Deployment) (verify : Verifier) (dispatcher : Dispatcher)
      (sent : List AccountRef) (data : List UInt8) (e : EntryRef) (p : SignedProof),
      d.profile = profile → l.StepSignedBy d e p (.submit verify dispatcher sent data) →
      ∃ (asked : SigningRequest) (checked : Challenge) (a : Authority) (key : CompressedKey),
        asked.MadeBy profile data sent p ∧ asked.challenge profile = .ok checked ∧
        l.authorityAt? e = some a ∧ a.credential.secp256r1Master? = some key ∧
        verify key (Sha256.hash checked.bytes) p.signature = true ∧
        ∀ c, r.challenge profile = .ok c → c.bytes = checked.bytes → r.Agrees asked := by
  have hwf := Instruction.wellFormed_of_decode hr
  constructor
  · have hwf' := Instruction.wellFormed_of_decode hr'
    obtain ⟨c, hc⟩ := exists_challenge hwf profile
    obtain ⟨c', hc'⟩ := exists_challenge hwf' profile
    exact ⟨c, c', hc, hc', agrees_of_bytes_eq hwf hwf' hcreate hc hc'⟩
  · rintro l d verify dispatcher sent data e p rfl hsigned
    obtain ⟨asked, checked, a, key, hmade, hchecked, ha, hkey, hverified⟩ := exists_madeBy hsigned
    have hasked := Instruction.wellFormed_of_decode hmade.instruction
    exact ⟨asked, checked, a, key, hmade, hchecked, ha, hkey, hverified, fun c hc hbytes =>
      agrees_of_bytes_eq hwf hasked hcreate hc hchecked hbytes⟩

end SigningRequest

namespace Sample

def additionWith (proof : List UInt8) : List UInt8 :=
  InstructionKind.addAuthority.number :: [spender.kind.tag, Role.spender.tag] ++
    Instruction.padding ++ spender.encode ++ proof

def additionRequest (proof : List UInt8) : SigningRequest :=
  ⟨.addAuthority .spender spender proof, systemProgram, systemProgram, payer.key, additionAccounts,
    0, 1⟩

def additionStep : Step := .submit .echo .acceptAll additionAccounts addition

lemma signer?_additionStep : (ledger 0).signer? default additionStep = some ⟨walletKey, 0⟩ := by
  decide +kernel

/-- The proof is all that two requests with one message may differ in. The owner's signature is
accepted for that message. -/
theorem additions_agree :
    ∃ c p asked checked key, (additionRequest []).challenge .compact = .ok c ∧
      (additionRequest [7]).challenge .compact = .ok c ∧
      (additionRequest []).Agrees (additionRequest [7]) ∧
      (ledger 0).StepSignedBy default ⟨walletKey, 0⟩ p additionStep ∧
      SigningRequest.MadeBy asked .compact addition additionAccounts p ∧
      asked.challenge .compact = .ok checked ∧
      Verifier.echo key (Sha256.hash checked.bytes) p.signature = true := by
  have hdecode : Instruction.decode .compact (additionWith []) =
    .ok (additionRequest []).instruction := by decide +kernel
  have hdecode' : Instruction.decode .compact (additionWith [7]) =
    .ok (additionRequest [7]).instruction := by decide +kernel
  obtain ⟨⟨c, c', hc, hc', hagrees⟩, haccepted⟩ :=
    SigningRequest.message_binds_request hdecode hdecode' (by decide)
  cases hc
  cases hc'
  obtain ⟨p, hsigned⟩ := Ledger.signer?_iff_signed.1 signer?_additionStep
  obtain ⟨asked, checked, a, key, hmade, hchecked, -, -, hverified, -⟩ :=
    haccepted _ _ _ _ _ _ _ _ rfl hsigned
  exact ⟨_, p, asked, checked, key, rfl, rfl, hagrees rfl, hsigned, hmade, hchecked, hverified⟩

end Sample

end SmartWallet
