import SmartWallet.Client.Draft.Management
import SmartWallet.Proofs.Assembly
import SmartWallet.Proofs.Prepared
import SmartWallet.Proofs.SignedMessage

/-!
# Signatures across a transaction

A P-256 authority signs the accounts as the client lists them, and the program checks its signature
against the accounts as the message gives them back. The two messages are the same exactly if every
key of the list asks for the same privileges wherever it occurs. A removal that refunds its payer
names the payer twice, once without its signature, so that the two messages of it always differ.
-/

namespace SmartWallet

namespace AccountRef

variable {accounts refs : List AccountRef} {a : AccountRef}

/-- Every key asks for the same privileges wherever it occurs. -/
def Uniform (accounts : List AccountRef) : Prop :=
  ∀ a ∈ accounts, ∀ b ∈ accounts, a.key = b.key → a = b

instance : DecidablePred Uniform := fun accounts =>
  inferInstanceAs (Decidable (∀ a ∈ accounts, ∀ b ∈ accounts, a.key = b.key → a = b))

lemma Uniform.united_eq (h : Uniform accounts) (ha : a ∈ accounts) :
    united accounts a.key = a := by
  have hany (p : AccountRef → Bool) : (accounts.any fun b => b.key == a.key && p b) = p a := by
    rw [Bool.eq_iff_iff, List.any_eq_true]
    constructor
    · rintro ⟨b, hb, hp⟩
      rw [Bool.and_eq_true, beq_iff_eq] at hp
      rw [h a ha b hb hp.1.symm, hp.2]
    · exact fun hp => ⟨a, ha, by simp [hp]⟩
  rw [united, hany, hany]

lemma map_united_eq_iff :
    (accounts.map fun a => united accounts a.key) = accounts ↔ Uniform accounts := by
  constructor
  · intro h a ha b hb hkey
    have hself : ∀ r ∈ accounts, united accounts r.key = r := by
      rwa [← List.map_inj_left, List.map_id']
    rw [← hself a ha, ← hself b hb, hkey]
  · intro h
    conv_rhs => rw [← List.map_id' accounts]
    exact List.map_congr_left fun a ha => h.united_eq ha

lemma united_of_mem {key : Key} (h : ⟨key, true, true⟩ ∈ refs) :
    united refs key = ⟨key, true, true⟩ := by
  simp only [united, AccountRef.mk.injEq, true_and, List.any_eq_true]
  exact ⟨⟨_, h, by simp⟩, ⟨_, h, by simp⟩⟩

/-- A reference that is asked for again, or that asks for nothing, adds nothing. -/
lemma united_cons (h : a ∈ refs ∨ a = ⟨a.key, false, false⟩) (key : Key) :
    united (a :: refs) key = united refs key := by
  rcases h with h | h
  · simp only [united, List.any_cons, AccountRef.mk.injEq, true_and, Bool.or_eq_right_iff_imp]
    exact ⟨fun hs => List.any_eq_true.2 ⟨a, h, hs⟩, fun hw => List.any_eq_true.2 ⟨a, h, hw⟩⟩
  · rw [h]
    simp [united]

end AccountRef

/-- The challenge that the program checks a signature against. -/
def Context.checked (c : Context) (payer : Key) (ix : Instruction) (auth : Authorization)
    (slot : UInt64) (counter : UInt32) : Challenge :=
  (c.request payer (c.actingAuthorization auth ix) (ix.kind = .execute)).challenge slot counter

/-- A signature is accepted only for what is checked, by the passkey of its entry. -/
lemma Ledger.StepSignedBy.verify_checked {l : Ledger} {d : Deployment} {verify : Verifier}
    {dispatcher : Dispatcher} {accounts : List AccountRef} {data : List UInt8} {ix : Instruction}
    {auth : Authorization} {payer : Key} {signer writable : Bool} {e : EntryRef} {q : SignedProof}
    (h : l.StepSignedBy d e q (.submit verify dispatcher accounts data))
    (hread : (l.context d verify accounts).readInstruction data = .ok (ix, auth))
    (hpayer : accounts[0]? = some ⟨payer, signer, writable⟩) :
    ∃ a key, l.authorityAt? e = some a ∧ a.credential.secp256r1Master? = some key ∧
      verify key ((l.context d verify accounts).checked payer ix auth q.slot q.counter).digest
        q.signature = true := by
  obtain ⟨ho, hdecode, hcovered, hpayer', -, hw, -, ha, rfl, hsigned⟩ := h
  obtain ⟨ix', auth', hc⟩ := exists_commits ho
  obtain ⟨rfl, rfl⟩ := Prod.mk.inj (Except.ok.inj (hc.read.symm.trans hread))
  obtain rfl := Except.ok.inj ((Context.readInstruction_eq_ok_iff.1 hread).1.symm.trans hdecode)
  obtain rfl := Option.some.inj (hpayer'.symm.trans hpayer)
  obtain ⟨key, hkey, hverified⟩ := hsigned.verified
  refine ⟨_, key, Records.authorityAt?_eq_some_iff.2 ⟨_, hw.record, ha.entry⟩, hkey, ?_⟩
  rw [Context.checked, hc.performs.request_eq hread hcovered]
  exact hverified

/-- Two messages that differ in nothing but their accounts differ in their bytes. -/
lemma Challenge.bytes_eq_iff {discriminator body : List UInt8} {payer : Key}
    {accounts accounts' : List AccountRef} {slot : UInt64} {counter : UInt32} :
    (⟨discriminator, body, payer, accounts, slot, counter⟩ : Challenge).bytes =
        (⟨discriminator, body, payer, accounts', slot, counter⟩ : Challenge).bytes ↔
      accounts = accounts' := by
  constructor
  · intro h
    have hfront := (parts_of_bytes_eq h).1
    simp only [List.append_cancel_left_eq] at hfront
    exact flatMap_accountBytes_injective hfront
  · rintro rfl
    rfl

namespace PreparedInstruction

variable {d : Deployment} {payer : Key} {p : PreparedInstruction} {proof : List UInt8}
  {connection : Connection} {tx : Transaction} {slot : UInt64} {counter : UInt32}

lemma toTransaction_eq_ok_iff : p.toTransaction d connection = .ok tx ↔ ∃ call blockhash,
    p.toCall d = .ok call ∧ connection.latestBlockhash = .ok blockhash ∧
      tx = .unsigned (.compile p.payer blockhash [call]) := by
  simp only [toTransaction, ClientError.ofProgram, Transaction.assemble, Connection.answer,
    bind_eq_ok_iff, mapError_eq_ok_iff, pure_eq_ok_iff, @eq_comm _ tx]
  exact exists_congr fun call => exists_and_left.symm

lemma Signable.challenge_eq_ok {body : List UInt8} (hbody : p.signedBody = .ok body) :
    p.challenge d slot counter = .ok
      ⟨p.instruction.kind.discriminator d.profile, body, p.payer, p.accounts, slot, counter⟩ := by
  simp only [challenge, bind_eq_ok_iff, pure_eq_ok_iff]
  exact ⟨body, hbody, rfl⟩

lemma digest_eq_ok_iff {key : Key} : p.digest d slot counter = .ok key ↔
    ∃ signed, p.challenge d slot counter = .ok signed ∧ signed.digest = key := by
  rw [digest, map_eq_ok_iff]

lemma Signable.checked_eq {c : Context} {data body : List UInt8} {ix : Instruction}
    {auth : Authorization} (h : p.Signable)
    (hencode : (p.instruction.withProof proof).encode c.deployment.profile = .ok data)
    (hkeys : c.accounts.map AccountRef.key = p.accounts.map AccountRef.key)
    (hbody : p.signedBody = .ok body) (hread : c.readInstruction data = .ok (ix, auth)) :
    c.checked p.payer ix auth slot counter =
      ⟨p.instruction.kind.discriminator c.deployment.profile, body, p.payer, c.accounts, slot,
        counter⟩ := by
  simp only [Context.checked, Context.request, AuthRequest.challenge,
    h.actingAuthorization_eq hencode hkeys hbody hread]

/-- In a message of its own, a prepared instruction shows each of its accounts with all privileges
that its list asks for the key. -/
lemma Signable.seen?_eq {blockhash : Key} {data : List UInt8} (h : p.Signable)
    (hfits : Message.Fits (Message.layout p.payer [⟨d.program, p.accounts, data⟩])) :
    (Message.compile p.payer blockhash [⟨d.program, p.accounts, data⟩]).seen?
      (.compile ((Message.layout p.payer [⟨d.program, p.accounts, data⟩]).map AccountRef.key)
        ⟨d.program, p.accounts, data⟩) =
      some (p.accounts.map fun a => AccountRef.united p.accounts a.key) := by
  rw [Message.seen?_compile hfits (List.mem_singleton.2 rfl)]
  have hpayer : (⟨p.payer, true, true⟩ : AccountRef) ∈ p.accounts := List.mem_of_getElem? h.payer
  simp only [Message.requested, Message.askedBy, List.flatMap_singleton]
  -- the message asks for the payer and for the program once more
  refine congrArg some (List.map_congr_left fun a _ => ?_)
  rw [AccountRef.united_cons (.inl (List.mem_cons_of_mem _ hpayer)),
    AccountRef.united_cons (.inr rfl)]

/-- The program checks the message that was signed exactly if the accounts that it sees are the ones
of the list. -/
lemma Signable.bytes_checked_eq_iff {c : Context} {data body : List UInt8} {ix : Instruction}
    {auth : Authorization} (h : p.Signable)
    (hencode : (p.instruction.withProof proof).encode c.deployment.profile = .ok data)
    (hseen : c.accounts = p.accounts.map fun a => AccountRef.united p.accounts a.key)
    (hbody : p.signedBody = .ok body) (hread : c.readInstruction data = .ok (ix, auth))
    (slot : UInt64) (counter : UInt32) :
    (c.checked p.payer ix auth slot counter).bytes =
        (⟨p.instruction.kind.discriminator c.deployment.profile, body, p.payer, p.accounts, slot,
          counter⟩ : Challenge).bytes ↔
      AccountRef.Uniform p.accounts := by
  have hkeys : c.accounts.map AccountRef.key = p.accounts.map AccountRef.key := by
    rw [hseen, List.map_map]
    rfl
  rw [h.checked_eq hencode hkeys hbody hread, hseen]
  exact Challenge.bytes_eq_iff.trans AccountRef.map_united_eq_iff

/-- A removal that refunds its payer is not uniform: the payer signs, and the refund does not. -/
theorem not_uniform_of_refund_payer {wallet actingSeed targetSeed : Key} {signers : List Key}
    (h : removeAuthority d payer wallet actingSeed targetSeed payer signers = .ok p) :
    ¬ AccountRef.Uniform p.accounts := by
  obtain ⟨acting, target, -, -, rfl⟩ := removeAuthority_eq_ok_iff.1 h
  intro huniform
  have hsame := huniform ⟨payer, true, true⟩ (by simp [actingAccounts])
    ⟨payer, false, true⟩ (by simp [actingAccounts]) rfl
  cases hsame

/-- The message that an authority signs is the message that the program checks exactly if every key
of the list asks for the same privileges wherever it occurs; a removal that refunds its payer does
not. What the authority signs is the digest of the one, and what the program accepts is a signature
of the digest of the other. -/
theorem digest_survives_iff_uniform (h : Built d payer p) (slot : UInt64) (counter : UInt32)
    (htx : (p.withProof proof).toTransaction d connection = .ok tx) :
    (∃ call signed, (p.withProof proof).toCall d = .ok call ∧
      p.challenge d slot counter = .ok signed ∧ p.digest d slot counter = .ok signed.digest ∧
      (Message.Fits (Message.layout payer [call]) → ∃ compiled seen,
        tx.message.calls = [compiled] ∧ compiled.data = call.data ∧
        tx.message.seen? compiled = some seen ∧ seen[0]? = some ⟨payer, true, true⟩ ∧
        ∀ (l : Ledger) (verify : Verifier) (ix : Instruction) (auth : Authorization),
          (l.context d verify seen).readInstruction call.data = .ok (ix, auth) →
          let checked := (l.context d verify seen).checked payer ix auth
          ((checked slot counter).bytes = signed.bytes ↔ AccountRef.Uniform p.accounts) ∧
            (AccountRef.Uniform p.accounts → (checked slot counter).digest = signed.digest) ∧
            ∀ dispatcher e q,
              l.StepSignedBy d e q (.submit verify dispatcher seen call.data) → ∃ a key,
                l.authorityAt? e = some a ∧ a.credential.secp256r1Master? = some key ∧
                verify key (checked q.slot q.counter).digest q.signature = true)) ∧
    ∀ wallet actingSeed targetSeed signers,
      removeAuthority d payer wallet actingSeed targetSeed payer signers = .ok p →
        ¬ AccountRef.Uniform p.accounts := by
  refine ⟨?_, fun _ _ _ _ hremoval => not_uniform_of_refund_payer hremoval⟩
  obtain ⟨rfl, hsignable⟩ := h.signable
  obtain ⟨body, hbody⟩ := hsignable.exists_signedBody
  obtain ⟨data, hencode, hcall⟩ := hsignable.exists_toCall proof d
  obtain ⟨call, blockhash, hcall', -, rfl⟩ := toTransaction_eq_ok_iff.1 htx
  rw [hcall, Except.ok.injEq] at hcall'
  subst hcall'
  have hchallenge : p.challenge d slot counter = .ok _ := Signable.challenge_eq_ok hbody
  have hpayer : (p.accounts.map fun a => AccountRef.united p.accounts a.key)[0]? =
      some ⟨p.payer, true, true⟩ := by
    rw [List.getElem?_map, hsignable.payer, Option.map_some,
      AccountRef.united_of_mem (List.mem_of_getElem? hsignable.payer)]
  refine ⟨_, _, hcall, hchallenge, digest_eq_ok_iff.2 ⟨_, hchallenge, rfl⟩,
    fun hfits => ⟨_, _, rfl, rfl, hsignable.seen?_eq hfits, hpayer, ?_⟩⟩
  intro l verify ix auth hread
  have hsame := hsignable.bytes_checked_eq_iff hencode rfl hbody hread slot counter
  exact ⟨hsame, fun huniform => congrArg Sha256.hash (hsame.2 huniform),
    fun dispatcher e q hsigned => hsigned.verify_checked hread hpayer⟩

end PreparedInstruction

namespace Sample

def connection : Connection := ⟨fun _ => .ok none, .ok (.replicate 32 7), .ok 0⟩

/-- The owner's passkey is to add the spender. -/
def preparedAddition : PreparedInstruction :=
  ⟨payer.key, .addAuthority .spender spender [], additionAccounts⟩

lemma built_preparedAddition : PreparedInstruction.Built default payer.key preparedAddition := by
  have hbuilt : PreparedInstruction.addAuthority default payer.key walletKey passkey.seed .spender
      spender [] = .ok preparedAddition :=
    PreparedInstruction.addAuthority_eq_ok_iff.2 ⟨_, _, derive_marker, derive_spenderMarker, rfl⟩
  exact .addAuthority hbuilt

def additionTransaction : Transaction :=
  .unsigned (.compile payer.key (.replicate 32 7)
    [⟨(default : Deployment).program, additionAccounts, additionWith []⟩])

lemma wellFormed_spender : spender.WellFormed := ⟨rfl, rfl⟩

lemma decode_addition (proof : List UInt8) : Instruction.decode .compact (additionWith proof) =
    .ok (.addAuthority .spender spender proof) := by
  have hencode : (Instruction.addAuthority .spender spender proof).encode .compact =
      .ok (additionWith proof) := rfl
  exact Instruction.decode_of_encode (by rintro p ⟨⟩; exact wellFormed_spender) hencode

/-- The addition lists each account once, and the program sees it as it was signed. -/
theorem preparedAddition_survives :
    AccountRef.Uniform preparedAddition.accounts ∧
      ∃ (signed : Challenge) (seen : List AccountRef) (ix : Instruction) (auth : Authorization),
        preparedAddition.challenge default 0 1 = .ok signed ∧
        preparedAddition.digest default 0 1 = .ok signed.digest ∧
        ((ledger 0).context default .echo seen).readInstruction (additionWith []) =
          .ok (ix, auth) ∧
        (((ledger 0).context default .echo seen).checked payer.key ix auth 0 1).digest =
          signed.digest := by
  have htx : (preparedAddition.withProof []).toTransaction default connection =
      .ok additionTransaction :=
    PreparedInstruction.toTransaction_eq_ok_iff.2 ⟨_, _, rfl, rfl, rfl⟩
  obtain ⟨⟨call, signed, hcall, hsigned, hdigest, hsurvives⟩, -⟩ :=
    PreparedInstruction.digest_survives_iff_uniform built_preparedAddition 0 1 htx
  cases hcall
  obtain ⟨compiled, seen, -, -, -, -, hchecked⟩ := hsurvives (Message.fits_layout (by decide))
  have huniform : AccountRef.Uniform preparedAddition.accounts := by decide
  have hread : ((ledger 0).context default .echo seen).readInstruction (additionWith []) =
      .ok (.addAuthority .spender spender [],
        ⟨[1], [spender.kind.tag, Role.spender.tag] ++ spender.encode, []⟩) :=
    Context.readInstruction_eq_ok_iff.2 ⟨decode_addition [], rfl, rfl, rfl⟩
  exact ⟨huniform, signed, seen, _, _, hsigned, hdigest, hread,
    (hchecked (ledger 0) .echo _ _ hread).2.1 huniform⟩

/-- The owner's passkey is to remove the spender, and no refund is given. -/
def removalDraft : RemovalDraft :=
  { RemovalDraft.new ⟨default, walletId, walletKey, vaultKey⟩ with
    acting := Acting.empty.withSeed passkey.seed
    targetSeed := some spender.seed }

def removalAccounts (refund : AccountRef) : List AccountRef :=
  [payer, ⟨walletKey, false, true⟩, ⟨markerKey, false, false⟩, ⟨spenderMarkerKey, false, true⟩,
    refund]

def preparedRemoval : PreparedInstruction :=
  ⟨payer.key, .removeAuthority [], removalAccounts ⟨payer.key, false, true⟩⟩

lemma built_removal :
    PreparedInstruction.removeAuthority default payer.key walletKey passkey.seed spender.seed
      payer.key [] = .ok preparedRemoval :=
  PreparedInstruction.removeAuthority_eq_ok_iff.2 ⟨_, _, derive_marker, derive_spenderMarker, rfl⟩

lemma prepare_removalDraft : removalDraft.prepare payer.key = .ok preparedRemoval := by
  simp only [RemovalDraft.prepare, removalDraft, bind_eq_ok_iff]
  exact ⟨_, rfl, _, rfl, _, by rw [ClientError.ofProgram]; exact congrArg _ built_removal, rfl⟩

def removalTransaction : Transaction :=
  .unsigned (.compile payer.key (.replicate 32 7)
    [⟨(default : Deployment).program, preparedRemoval.accounts,
      [InstructionKind.removeAuthority.number]⟩])

/-- The digest that the passkey signs for the removal is not the one that is checked: by then the
refund account, too, is a signer. -/
theorem removal_digest_lost :
    removalDraft.prepare payer.key = .ok preparedRemoval ∧
      preparedRemoval.toTransaction default connection = .ok removalTransaction ∧
      ∃ (call : CompiledCall) (ix : Instruction) (auth : Authorization) (signed : Challenge),
        removalTransaction.message.calls = [call] ∧
        removalTransaction.message.seen? call = some (removalAccounts payer) ∧
        ((ledger 0).context default .echo (removalAccounts payer)).readInstruction call.data =
          .ok (ix, auth) ∧
        preparedRemoval.challenge default 0 1 = .ok signed ∧
        preparedRemoval.digest default 0 1 = .ok signed.digest ∧
        (((ledger 0).context default .echo (removalAccounts payer)).checked payer.key ix auth
          0 1).digest ≠ signed.digest := by
  refine ⟨prepare_removalDraft, PreparedInstruction.toTransaction_eq_ok_iff.2 ⟨_, _, rfl, rfl, rfl⟩,
    _, .removeAuthority [], ⟨[2], [], []⟩, _, rfl, ?_,
    Context.readInstruction_eq_ok_iff.2 ⟨by decide +kernel, rfl, rfl, rfl⟩, rfl,
    PreparedInstruction.digest_eq_ok_iff.2 ⟨_, rfl, rfl⟩, ?_⟩
  · exact (PreparedInstruction.Built.signable (.removeAuthority built_removal)).2.seen?_eq
      (Message.fits_layout (by decide))
  · decide +kernel

end Sample

end SmartWallet
