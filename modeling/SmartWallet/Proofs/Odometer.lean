import SmartWallet.Proofs.Replay
import SmartWallet.Proofs.Sessions

/-!
# Counters as odometers

A counter moves by one with each accepted signature of its entry, and for no other reason, whichever
instruction the signature is for. It starts at zero with its entry, and again when the entry is
given to new keys. So two signatures for the same counter are a full turn of the counter apart.
-/

namespace SmartWallet

namespace Instruction

lemma Signs.body_eq {ix : Instruction} {accounts : List AccountRef} {body body' : List UInt8}
    (h : ix.Signs accounts body) (h' : ix.Signs accounts body') : body = body' := by
  cases ix with
  | removeAuthority proof =>
    obtain ⟨target, refund, htarget, hrefund, rfl⟩ := h
    obtain ⟨target', refund', htarget', hrefund', rfl⟩ := h'
    rw [Option.some.inj (htarget.symm.trans htarget'),
      Option.some.inj (hrefund.symm.trans hrefund')]
  | _ => exact Except.ok.inj (Eq.trans (Eq.symm h) h')

end Instruction

namespace Context

variable {c : Context} {auth : Authorization} {ix : Instruction} {delta : Delta} {e : EntryRef}

lemma discriminator_actingAuthorization :
    (c.actingAuthorization auth ix).discriminator = auth.discriminator := by
  unfold actingAuthorization
  split
  · split <;> rfl
  · rfl

lemma Performs.signs_acting (hp : c.Performs auth ix delta)
    (hbody : ix.signedBody = .ok auth.body) :
    ix.Signs c.accounts (c.actingAuthorization auth ix).body := by
  cases hp with
  | removeAuthority targetAt refundAt =>
    refine ⟨_, _, targetAt, refundAt, ?_⟩
    simp only [actingAuthorization, targetAt, refundAt]
  | _ => exact hbody

/-- What is asked of the acting authority can be read off the instruction and its accounts. -/
lemma Performs.request_eq {data body : List UInt8} (hp : c.Performs auth ix delta)
    (hread : c.readInstruction data = .ok (ix, auth)) (hcovered : ix.Signs c.accounts body)
    (payer : Key) (allowSession : Bool) :
    c.request payer (c.actingAuthorization auth ix) allowSession = ⟨c.accounts, ix.proof, body,
      ix.kind.discriminator c.deployment.profile, payer, c.slot, allowSession⟩ := by
  obtain ⟨-, hbody, hdiscriminator, hproof⟩ := readInstruction_eq_ok_iff.1 hread
  rw [request, proof_actingAuthorization, discriminator_actingAuthorization, hproof,
    hdiscriminator, (hp.signs_acting hbody).body_eq hcovered]

/-- A signature is used up by the entry that the third account names in the wallet of the second. -/
theorem signer?_eq_some_iff : c.signer? ix auth = some e ↔
    ∃ payer wallet marker w a p, c.accounts[0]? = some payer ∧ c.accounts[1]? = some wallet ∧
      View.HoldsWallet c.data? c.deployment wallet.key w ∧ c.accounts[2]? = some marker ∧
      View.Names c.data? c.deployment wallet.key w marker.key a ∧ e = ⟨wallet.key, a.id⟩ ∧
      (c.request payer.key (c.actingAuthorization auth ix) (ix.kind = .execute)).SignedBy c.verify
        a p := by
  constructor
  · intro h
    unfold signer? at h
    split at h
    · next via counter ho =>
      simp only [actingOutcome, bind_eq_ok_iff, account_eq_ok_iff, loadWallet_eq_ok_iff,
        resolveAuthority_eq_ok_iff, authenticate] at ho
      obtain ⟨wallet, hwallet, marker, hmarker, w, hw, a, ha, payer, hpayer, ho⟩ := ho
      rw [named?_of_names hmarker ha, Option.some.injEq] at h
      rcases AuthRequest.byMaster_or_bySession ho with ⟨-, hm⟩ | ⟨hs, -⟩
      · cases hm with
        | signature signed =>
          exact ⟨payer, wallet, marker, w, a, _, hpayer, hwallet, hw, hmarker, ha, h.symm, signed⟩
      · cases hs
    · cases h
  · rintro ⟨payer, wallet, marker, w, a, p, hpayer, hwallet, hw, hmarker, ha, rfl, hsigned⟩
    have ho : c.actingOutcome ix auth = .ok ⟨false, some p.counter⟩ := by
      simp only [actingOutcome, bind_eq_ok_iff, account_eq_ok_iff, loadWallet_eq_ok_iff,
        resolveAuthority_eq_ok_iff, authenticate_eq_ok_iff hpayer]
      exact ⟨wallet, hwallet, marker, hmarker, w, hw, a, ha,
        AuthRequest.authenticate_of_byMaster (.signature hsigned)⟩
    simp only [signer?, ho, named?_of_names hmarker ha]

end Context

namespace Ledger

/-- A step succeeds on the signature of an entry, which acts in it: the proof that was sent is the
entry's, for its next counter, over what the instruction has its authority sign. -/
inductive StepSignedBy (d : Deployment) (l : Ledger) (e : EntryRef) (p : SignedProof) : Step → Prop
  | submit {verify : Verifier} {dispatcher : Dispatcher} {accounts : List AccountRef}
      {data body : List UInt8} {o : Outcome} {ix : Instruction} {payer wallet marker : AccountRef}
      {w : Wallet} {a : Authority}
      (result : (l.process d verify dispatcher accounts data).result = .ok o)
      (decoded : Instruction.decode d.profile data = .ok ix)
      (covered : ix.Signs accounts body)
      (payerAt : accounts[0]? = some payer)
      (walletAt : accounts[1]? = some wallet)
      (holds : l.view.HoldsWallet d wallet.key w)
      (markerAt : accounts[2]? = some marker)
      (named : l.view.Names d wallet.key w marker.key a)
      (entry : e = ⟨wallet.key, a.id⟩)
      (signed : AuthRequest.SignedBy ⟨accounts, ix.proof, body, ix.kind.discriminator d.profile,
        payer.key, l.slot, ix.kind = .execute⟩ verify a p) :
      StepSignedBy d l e p (.submit verify dispatcher accounts data)

/-- A step gives an entry to new keys: it transfers the ownership of the wallet that the entry is
the owner of. -/
inductive Replaces (d : Deployment) (l : Ledger) (e : EntryRef) : Step → Prop
  | transfer {verify : Verifier} {dispatcher : Dispatcher} {accounts : List AccountRef}
      {data proof : List UInt8} {o : Outcome} {p : AuthorityPayload} {wallet : AccountRef}
      {a : Authority}
      (result : (l.process d verify dispatcher accounts data).result = .ok o)
      (decoded : Instruction.decode d.profile data = .ok (.transferOwnership p proof))
      (walletAt : accounts[1]? = some wallet)
      (wallet : wallet.key = e.wallet)
      (registered : l.authorityAt? e = some a)
      (owner : a.role = .owner) :
      Replaces d l e (.submit verify dispatcher accounts data)

variable {d : Deployment} {l : Ledger} {e : EntryRef} {s : Step} {a b : Authority} {p : SignedProof}
  {steps : List Step}

theorem signer?_iff_signed : l.signer? d s = some e ↔ ∃ p, l.StepSignedBy d e p s := by
  constructor
  · intro h
    cases s with
    | submit verify dispatcher accounts data =>
      obtain ⟨o, ho⟩ := ok_of_signer? h
      obtain ⟨ix, auth, hc⟩ := exists_commits ho
      obtain ⟨hdecode, hbody, -, -⟩ := Context.readInstruction_eq_ok_iff.1 hc.read
      simp only [signer?, ho, hc.read] at h
      obtain ⟨payer, wallet, marker, w, a, p, hpayer, hwallet, hw, hmarker, ha, he, hsigned⟩ :=
        Context.signer?_eq_some_iff.1 h
      have hcovered := hc.performs.signs_acting hbody
      rw [hc.performs.request_eq hc.read hcovered] at hsigned
      exact ⟨p, .submit ho hdecode hcovered hpayer hwallet hw hmarker ha he hsigned⟩
    | _ => cases h
  · rintro ⟨p, ho, hdecode, hcovered, hpayer, hwallet, hw, hmarker, ha, he, hsigned⟩
    obtain ⟨ix', auth, hc⟩ := exists_commits ho
    obtain rfl := Except.ok.inj ((Context.readInstruction_eq_ok_iff.1 hc.read).1.symm.trans hdecode)
    simp only [signer?, ho, hc.read]
    refine Context.signer?_eq_some_iff.2
      ⟨_, _, _, _, _, p, hpayer, hwallet, hw, hmarker, ha, he, ?_⟩
    rw [hc.performs.request_eq hc.read hcovered]
    exact hsigned

lemma StepSignedBy.entry (h : l.StepSignedBy d e p s) : ∃ a, l.authorityAt? e = some a ∧
    a.kind.usesSecp256r1 = true ∧ p.counter = a.counter + 1 := by
  obtain ⟨-, -, -, -, -, hw, -, ha, rfl, hsigned⟩ := h
  obtain ⟨key, hkey, -⟩ := hsigned.verified
  exact ⟨_, Records.authorityAt?_eq_some_iff.2 ⟨_, hw.record, ha.entry⟩,
    AuthRequest.usesSecp256r1_of_secp256r1Master? hkey, hsigned.counter⟩

/-- An entry that is reset and still there afterwards has been given to new keys. -/
lemma replaces_of_reset (hreset : l.reset? d s = some e)
    (hb : (l.step d s).authorityAt? e = some b) : l.Replaces d e s := by
  cases s with
  | submit verify dispatcher accounts data =>
    cases ho : (l.process d verify dispatcher accounts data).result with
    | error fault => simp [reset?, ho] at hreset
    | ok o =>
      obtain ⟨ix, auth, hc⟩ := exists_commits ho
      have hdecode := (Context.readInstruction_eq_ok_iff.1 hc.read).1
      simp only [reset?, ho, hc.read] at hreset
      have hb : Records.authorityAt? (View.record? (o.delta.shown l.view)) e = some b := by
        rwa [← hc.view_eq]
      obtain ⟨p, proof, rfl, -⟩ := hc.performs.entry_of_reset (fun _ => view_of_isVacant)
        (Instruction.wellFormed_of_decode hdecode) hreset hb
      have hperforms := hc.performs
      generalize o.delta = delta at hperforms
      cases hperforms with
      | @transferOwnership p proof act marker counted moved old hacts hsystem hrole =>
        obtain rfl : ⟨act.wallet.key, act.entry.id⟩ = e :=
          Option.some.inj ((Context.named?_of_names hacts.marker hacts.named).symm.trans hreset)
        exact .transfer ho hdecode hacts.wallet rfl
          (Records.authorityAt?_eq_some_iff.2 ⟨_, hacts.holds.record, hacts.named.entry⟩) hrole
  | _ => cases hreset

lemma reset?_of_replaces (h : l.Replaces d e s) : l.reset? d s = some e := by
  obtain ⟨ho, hdecode, hwallet, hkey, ha, hrole⟩ := h
  obtain ⟨ix, auth, hc⟩ := exists_commits ho
  obtain rfl := Except.ok.inj ((Context.readInstruction_eq_ok_iff.1 hc.read).1.symm.trans hdecode)
  simp only [reset?, ho, hc.read]
  have hperforms := hc.performs
  generalize Outcome.delta _ = delta at hperforms
  cases hperforms with
  | @transferOwnership p proof act marker counted moved old hacts hsystem howner =>
    obtain ⟨w, hw, hentry⟩ := Records.authorityAt?_eq_some_iff.1 ha
    have hacting : act.wallet = _ := Option.some.inj (hacts.wallet.symm.trans hwallet)
    have hrecord := hacts.holds.record
    rw [hacting, hkey] at hrecord
    obtain rfl := StoredRecord.wallet.inj (Option.some.inj (hw.symm.trans hrecord))
    -- a wallet has one owner, so that the acting one is the given entry
    have hsame := (View.wellFormed_of_record? hw).owner_unique
      (Wallet.mem_of_authority? hacts.named.entry) (Wallet.mem_of_authority? hentry) howner hrole
    have hid : act.entry.id = e.id := by rw [hsame, Wallet.id_of_authority? hentry]
    exact (Context.named?_of_names hacts.marker hacts.named).trans (by rw [hacting, hkey, hid])

/-! ## Steps and runs -/

lemma counter_of_step (ha : l.authorityAt? e = some a)
    (hb : (l.step d s).authorityAt? e = some b) (hkept : ¬ l.Replaces d e s) :
    b.counter = a.counter + if l.signer? d s = some e then 1 else 0 := by
  have hreset : l.reset? d s ≠ some e := fun hr => hkept (replaces_of_reset hr hb)
  have hafter := (becomes_step (d := d) s).entry ha hreset
  rw [Option.some.inj (hb.symm.trans hafter)]

/-- Entries without a passkey have their counter at zero. -/
def Unsigned (l : Ledger) : Prop :=
  ∀ e a, l.authorityAt? e = some a → a.kind.usesSecp256r1 = false → a.counter = 0

lemma unsigned_step (h : l.Unsigned) : (l.step d s).Unsigned := by
  intro e b hb hkind
  have hbecomes := becomes_step (d := d) (l := l) s
  by_cases hnew : l.authorityAt? e = none ∨ l.reset? d s = some e
  · exact hbecomes.fresh hb hnew
  · obtain ⟨hold, hreset⟩ := not_or.1 hnew
    obtain ⟨a, ha⟩ := Option.ne_none_iff_exists'.1 hold
    obtain rfl := Option.some.inj (hb.symm.trans (hbecomes.entry ha hreset))
    have hsigner : l.signer? d s ≠ some e := by
      intro hs
      obtain ⟨p, hp⟩ := signer?_iff_signed.1 hs
      obtain ⟨a', ha', hpasskey, -⟩ := hp.entry
      obtain rfl := Option.some.inj (ha.symm.trans ha')
      exact Bool.false_ne_true (hkind.symm.trans hpasskey)
    simpa [hsigner] using h e a ha hkind

lemma unsigned_run (h : l.Unsigned) : (l.run d steps).Unsigned := by
  induction steps generalizing l with
  | nil => exact h
  | cons s rest ih => exact ih (unsigned_step h)

/-- Two signatures of an entry for the same counter are a full turn of the counter apart. -/
theorem turn_of_signed_twice {s' : Step} {p' : SignedProof} (h : l.StepSignedBy d e p s)
    (hkept : e ∉ l.resets d (s :: steps))
    (h' : (l.run d (s :: steps)).StepSignedBy d e p' s') (hcounter : p'.counter = p.counter) :
    2 ^ 32 ≤ (l.signers d (s :: steps)).count e := by
  obtain ⟨a, ha, -, hp⟩ := h.entry
  obtain ⟨b, hb, -, hp'⟩ := h'.entry
  have hafter := entry_of_run ha hkept
  rw [Option.some.inj (hb.symm.trans hafter), hcounter, hp] at hp'
  have hzero : UInt32.ofNat ((l.signers d (s :: steps)).count e) = 0 := by
    simpa using ((UInt32.add_left_inj 1).1 hp').symm
  exact turn_of_signer? (signer?_iff_signed.2 ⟨p, h⟩) hzero

/-- Counters count signatures exactly. Over any run from the empty ledger, a step moves the counter
of an entry that it does not replace by one, modulo `2 ^ 32`, if it succeeds on the entry's
signature, and not at all otherwise; a failed step moves none. A new entry, an owner who has just
been installed and every entry without a passkey have zero. As long as an entry is neither removed
nor replaced, it has used up `2 ^ 32` signatures before one for the same counter is accepted
again. -/
theorem counter_exact (d : Deployment) (before : List Step) (s : Step) :
    let l := empty.run d before
    let l' := l.step d s
    (∀ e a b, l.authorityAt? e = some a → l'.authorityAt? e = some b → ¬ l.Replaces d e s →
      ((∃ p, l.StepSignedBy d e p s) → b.counter = a.counter + 1) ∧
      ((¬ ∃ p, l.StepSignedBy d e p s) → b.counter = a.counter)) ∧
    (∀ verify dispatcher accounts data fault, s = .submit verify dispatcher accounts data →
      (l.process d verify dispatcher accounts data).result = .error fault → l' = l) ∧
    (∀ e b, l'.authorityAt? e = some b → l.authorityAt? e = none ∨ l.Replaces d e s →
      b.counter = 0) ∧
    (∀ e a, l.authorityAt? e = some a → a.kind.usesSecp256r1 = false → a.counter = 0) ∧
    (∀ e p p' later s', l.StepSignedBy d e p s → e ∉ l.resets d (s :: later) →
      (l.run d (s :: later)).StepSignedBy d e p' s' → p'.counter = p.counter →
      2 ^ 32 ≤ (l.signers d (s :: later)).count e) := by
  intro l l'
  refine ⟨?_, ?_, ?_, ?_, ?_⟩
  · intro e a b ha hb hkept
    have hstep := counter_of_step ha hb hkept
    constructor
    · intro hsigned
      rw [hstep, if_pos (signer?_iff_signed.2 hsigned)]
    · intro hunsigned
      rw [hstep, if_neg (hunsigned ∘ signer?_iff_signed.1), UInt32.add_zero]
  · rintro verify dispatcher accounts data fault rfl hfault
    exact ledger_of_error hfault
  · rintro e b hb (hnew | hreplaced)
    · exact (becomes_step s).fresh hb (.inl hnew)
    · exact (becomes_step s).fresh hb (.inr (reset?_of_replaces hreplaced))
  · exact unsigned_run fun e a ha => by cases ha
  · intro e p p' later s' h hkept h' hcounter
    exact turn_of_signed_twice h hkept h' hcounter

end Ledger

namespace Sample

/-- The counter of the passkey before and after its first call. -/
lemma counters_of_callStep :
    let l := Ledger.empty.run default [founding, enrolment]
    (l.authorityAt? ⟨walletKey, 1⟩).map Authority.counter = some 0 ∧
      ((l.step default callStep).authorityAt? ⟨walletKey, 1⟩).isSome = true ∧
      l.reset? default callStep ≠ some ⟨walletKey, 1⟩ := by
  rw [run_enrolment]
  decide +kernel

/-- The first call of the passkey moves its counter to one. -/
theorem counter_of_callStep :
    let l := Ledger.empty.run default [founding, enrolment]
    (∃ p, l.StepSignedBy default ⟨walletKey, 1⟩ p callStep) ∧
      ¬ l.Replaces default ⟨walletKey, 1⟩ callStep ∧
      ∃ b, (l.step default callStep).authorityAt? ⟨walletKey, 1⟩ = some b ∧ b.counter = 1 := by
  obtain ⟨hbefore, hafter, hreset⟩ := counters_of_callStep
  obtain ⟨a, ha, hzero⟩ := Option.map_eq_some_iff.1 hbefore
  obtain ⟨b, hb⟩ := Option.isSome_iff_exists.1 hafter
  have hsigned := Ledger.signer?_iff_signed.1 signer?_callStep.1
  have hkept : ¬ (Ledger.empty.run default [founding, enrolment]).Replaces default
      ⟨walletKey, 1⟩ callStep := fun h => hreset (Ledger.reset?_of_replaces h)
  have hmoved := ((Ledger.counter_exact default [founding, enrolment] callStep).1 _ a b ha hb
    hkept).1 hsigned
  exact ⟨hsigned, hkept, b, hb, by rw [hmoved, hzero]; rfl⟩

end Sample

end SmartWallet
