import SmartWallet.Proofs.Entries
import SmartWallet.Proofs.Execution

/-!
# Replay

A signature is for the counter after its entry's, so it is used up once it has been accepted. It
comes back only if the counter does: after the entry has been removed or given new key material,
which starts another counter, or once the counter has run through all of its values.
-/

namespace SmartWallet

namespace Context

variable {c : Context} {auth : Authorization} {ix : Instruction} {delta : Delta}

/-- What a used-up signature tells about the ledger and the proof that was sent. -/
structure Signed (v : View) (accounts : List AccountRef) (proof : List UInt8) (e : EntryRef)
    (r₁ r₂ : AccountRef) (a : Authority) (p : SignedProof) : Prop where
  walletAt : accounts[1]? = some r₁
  walletKey : r₁.key = e.wallet
  entry : Records.authorityAt? v.record? e = some a
  markerAt : accounts[2]? = some r₂
  marker : ∃ bump, v.record? r₂.key = some (.authority ⟨bump, e.id, e.wallet, a.seed⟩)
  passkey : ∃ key, a.credential.secp256r1Master? = some key
  sent : proof = p.encode
  counter : p.counter = a.counter + 1

lemma proof_actingAuthorization : (c.actingAuthorization auth ix).proof = auth.proof := by
  unfold actingAuthorization
  split
  · split <;> rfl
  · rfl

lemma signed_of_signer? {e : EntryRef} (h : c.signer? ix auth = some e) :
    ∃ r₁ r₂ a p, Signed c.data? c.accounts auth.proof e r₁ r₂ a p := by
  unfold signer? at h
  split at h
  · next via counter ho =>
    simp only [actingOutcome, bind_eq_ok_iff, account_eq_ok_iff, loadWallet_eq_ok_iff,
      resolveAuthority_eq_ok_iff] at ho
    obtain ⟨r₁, hr₁, r₂, hr₂, w, hw, a, ha, ho⟩ := ho
    rw [named?_of_names hr₂ ha, Option.some.injEq] at h
    subst h
    simp only [authenticate, bind_eq_ok_iff, account_eq_ok_iff] at ho
    obtain ⟨payer, hpayer, ho⟩ := ho
    rcases AuthRequest.byMaster_or_bySession ho with ⟨-, hm⟩ | ⟨hs, -⟩
    · cases hm with
      | @signature p signed =>
        obtain ⟨key, hkey, -⟩ := signed.verified
        have hentry : Records.authorityAt? (View.record? c.data?) ⟨r₁.key, a.id⟩ = some a :=
          Records.authorityAt?_eq_some_iff.2 ⟨w, hw.record, ha.entry⟩
        have hsent : auth.proof = p.encode := proof_actingAuthorization.symm.trans signed.sent
        exact ⟨r₁, r₂, a, p, hr₁, rfl, hentry, hr₂, ha.record, ⟨key, hkey⟩, hsent,
          signed.counter⟩
    · cases hs
  · cases h

/-- Where the third account is an authority's marker, its entry acts. -/
lemma Performs.acts {r : AccountRef} {m : AuthorityMarker} (hp : c.Performs auth ix delta)
    (hr : c.accounts[2]? = some r) (hm : View.record? c.data? r.key = some (.authority m)) :
    (∃ key, c.keyAt 1 = some key ∧ c.isVacant key = true) ∨
      ∃ auth' allowSession s, auth'.proof = auth.proof ∧ c.Acts auth' allowSession s := by
  cases hp with
  | createWallet _ _ _ _ walletAt walletVacant => exact .inl ⟨_, walletAt, walletVacant⟩
  | addAuthority acts => exact .inr ⟨_, _, _, rfl, acts⟩
  | @removeAuthority proof s target refund _ _ _ _ _ _ _ acts =>
    exact .inr ⟨{ auth with body := target.key.toList ++ refund.key.toList }, _, _, rfl, acts⟩
  | transferOwnership acts => exact .inr ⟨_, _, _, rfl, acts⟩
  | @execute calls proof p payer wallet caller vault w prepares =>
    have hauthorized := prepares.authorized
    generalize p.plan.caller = who, p.delta = writes at hauthorized
    cases hauthorized with
    | @authority a o counted named authenticated counts =>
      exact .inr ⟨auth, true, _, rfl, prepares.acts named authenticated⟩
    | session record =>
      rw [prepares.callerAt] at hr
      cases hr
      rw [record] at hm
      cases hm
  | createSession acts => exact .inr ⟨_, _, _, rfl, acts⟩

end Context

namespace Ledger

variable {d : Deployment} {l : Ledger} {verify verify' : Verifier}
  {dispatcher dispatcher' : Dispatcher} {accounts : List AccountRef} {data : List UInt8}
  {e : EntryRef} {steps : List Step}

lemma ok_of_signer? (h : l.signer? d (.submit verify dispatcher accounts data) = some e) :
    ∃ o, (l.process d verify dispatcher accounts data).result = .ok o := by
  simp only [signer?] at h
  split at h
  · next o _ _ ho _ => exact ⟨o, ho⟩
  · cases h

/-- The bytes and the accounts alone tell which proof was sent. -/
lemma signed_of_signer? (h : l.signer? d (.submit verify dispatcher accounts data) = some e) :
    ∃ ix auth, (l.context d verify accounts).readInstruction data = .ok (ix, auth) ∧
      ∃ r₁ r₂ a p, Context.Signed l.view accounts auth.proof e r₁ r₂ a p := by
  simp only [signer?] at h
  split at h
  · next ix auth _ hread => exact ⟨ix, auth, hread, Context.signed_of_signer? h⟩
  · cases h

/-- In a later ledger, the same signature needs the entry's counter where it was. -/
lemma counter_eq_of_replayed {l' : Ledger} {ix : Instruction} {auth : Authorization}
    {r₁ r₂ : AccountRef} {a b : Authority} {p : SignedProof} {bump : UInt8} {o : Outcome}
    (hs : Context.Signed l.view accounts auth.proof e r₁ r₂ a p)
    (hread : (l.context d verify accounts).readInstruction data = .ok (ix, auth))
    (hmarker : l'.view.record? r₂.key = some (.authority ⟨bump, e.id, e.wallet, a.seed⟩))
    (hentry : l'.authorityAt? e = some b) (hcredential : b.credential = a.credential)
    (hreplayed : (l'.process d verify' dispatcher' accounts data).result = .ok o) :
    b.counter = a.counter := by
  obtain ⟨ix', auth', hc⟩ := exists_commits hreplayed
  have hread' : (l.context d verify accounts).readInstruction data = .ok (ix', auth') := hc.read
  rw [hread] at hread'
  cases hread'
  obtain ⟨w, hw, hb⟩ := Records.authorityAt?_eq_some_iff.1 hentry
  rcases hc.performs.acts hs.markerAt hmarker with ⟨k, hk, hvacant⟩ |
    ⟨auth', allowSession, s, hproof, hacts⟩
  · obtain ⟨r, hr, rfl⟩ := Option.map_eq_some_iff.1 hk
    have hr₁ : r = r₁ := Option.some.inj (hr.symm.trans hs.walletAt)
    have hnone := View.record?_of_vacant (view_of_isVacant hvacant)
    rw [hr₁, hs.walletKey, hw] at hnone
    cases hnone
  · have hr₁ : s.wallet = r₁ := Option.some.inj (hacts.wallet.symm.trans hs.walletAt)
    have hr₂ : s.marker = r₂ := Option.some.inj (hacts.marker.symm.trans hs.markerAt)
    have hrecord : l'.view.record? s.wallet.key = some (.wallet s.record) := hacts.holds.record
    rw [hr₁, hs.walletKey, hw, Option.some.injEq, StoredRecord.wallet.injEq] at hrecord
    obtain ⟨bump', hnamed⟩ := hacts.named.record
    have hnamed : l'.view.record? s.marker.key =
      some (.authority ⟨bump', s.entry.id, s.wallet.key, s.entry.seed⟩) := hnamed
    rw [hr₂, hmarker, Option.some.injEq, StoredRecord.authority.injEq,
      AuthorityMarker.mk.injEq] at hnamed
    have hacting := hacts.named.entry
    rw [← hrecord, ← hnamed.2.1, hb, Option.some.injEq] at hacting
    obtain ⟨key, hkey⟩ := hs.passkey
    have hcounter := AuthRequest.counter_of_authenticate hacts.authenticated
      (by rw [← hacting, hcredential, hkey]) (hproof.trans hs.sent)
    rw [hs.counter, ← hacting] at hcounter
    exact ((UInt32.add_left_inj 1).1 hcounter).symm

/-- Where signatures of an entry bring its counter back, they make a full turn of it. -/
lemma turn_of_signer? {s : Step} (h : l.signer? d s = some e)
    (hzero : UInt32.ofNat ((l.signers d (s :: steps)).count e) = 0) :
    2 ^ 32 ≤ (l.signers d (s :: steps)).count e := by
  have hpos : 0 < (l.signers d (s :: steps)).count e := by
    rw [List.count_pos_iff, signers_cons, h]
    exact List.mem_append_left _ (by simp)
  by_contra hfew
  have hmod := congrArg UInt32.toNat hzero
  rw [UInt32.toNat_ofNat', Nat.mod_eq_of_lt (Nat.lt_of_not_le hfew)] at hmod
  exact absurd hmod (Nat.pos_iff_ne_zero.1 hpos)

/-- Until its entry is reset, a used-up signature is good again only after the entry has used up all
values of its counter. -/
theorem count_signers_of_replayed {o : Outcome}
    (hsigned : l.signer? d (.submit verify dispatcher accounts data) = some e)
    (hkept : e ∉ l.resets d (.submit verify dispatcher accounts data :: steps))
    (hreplayed : ((l.run d (.submit verify dispatcher accounts data :: steps)).process d verify'
      dispatcher' accounts data).result = .ok o) :
    2 ^ 32 ≤ (l.signers d (.submit verify dispatcher accounts data :: steps)).count e := by
  obtain ⟨ix, auth, hread, r₁, r₂, a, p, hs⟩ := signed_of_signer? hsigned
  obtain ⟨bump, hmarker⟩ := hs.marker
  have hmarker' := marker_of_run (l := l) hmarker hkept
  have hentry' := entry_of_run (l := l) hs.entry hkept
  have hcounter := counter_eq_of_replayed (l := l) hs hread hmarker' hentry' rfl hreplayed
  have hzero : UInt32.ofNat
      ((l.signers d (.submit verify dispatcher accounts data :: steps)).count e) = 0 := by
    simpa using hcounter
  exact turn_of_signer? hsigned hzero

/-- Two signatures that the same bytes and accounts bring are for the same counter. -/
lemma counter_eq_of_signers {l' : Ledger} {e' : EntryRef}
    (h : l.signer? d (.submit verify dispatcher accounts data) = some e)
    (h' : l'.signer? d (.submit verify' dispatcher' accounts data) = some e') :
    e'.wallet = e.wallet ∧ ∃ a a', l.authorityAt? e = some a ∧ l'.authorityAt? e' = some a' ∧
      a'.counter = a.counter := by
  obtain ⟨ix, auth, hread, r₁, r₂, a, p, hs⟩ := signed_of_signer? h
  obtain ⟨ix', auth', hread', r₁', r₂', a', p', hs'⟩ := signed_of_signer? h'
  have hsame : (l.context d verify accounts).readInstruction data = .ok (ix', auth') := hread'
  rw [hread] at hsame
  cases hsame
  have hwallet : r₁' = r₁ := Option.some.inj (hs'.walletAt.symm.trans hs.walletAt)
  have hsent : p' = p := by
    have hbytes := congrArg SignedProof.decode? (hs'.sent.symm.trans hs.sent)
    rwa [SignedProof.decode?_encode, SignedProof.decode?_encode, Option.some.injEq] at hbytes
  have hcounter : a'.counter + 1 = a.counter + 1 := by
    rw [← hs'.counter, ← hs.counter, hsent]
  refine ⟨?_, a, a', hs.entry, hs'.entry, (UInt32.add_left_inj 1).1 hcounter⟩
  rw [← hs'.walletKey, ← hs.walletKey, hwallet]

/-- Once an instruction has used up a signature of an entry, the same bytes with the same accounts
succeed again only if the entry has been reset since or has used up all values of its counter. If
they succeed by a signature again, its entry is one of the same wallet and has used up as many since
it was last reset as the first had, modulo `2 ^ 32`. -/
theorem counter_returns_of_replayed (before after : List Step) {o : Outcome}
    (hsigned : (empty.run d before).signer? d (.submit verify dispatcher accounts data) = some e)
    (hreplayed : ((empty.run d
      (before ++ .submit verify dispatcher accounts data :: after)).process d verify' dispatcher'
        accounts data).result = .ok o) :
    let l := empty.run d before
    let rest := Step.submit verify dispatcher accounts data :: after
    (e ∈ l.resets d rest ∨ 2 ^ 32 ≤ (l.signers d rest).count e) ∧
      ∀ e', (empty.run d (before ++ rest)).signer? d (.submit verify' dispatcher' accounts data) =
          some e' →
        e'.wallet = e.wallet ∧
          used d e' (before ++ rest) % 2 ^ 32 = used d e before % 2 ^ 32 := by
  intro l rest
  constructor
  · rw [run_append] at hreplayed
    by_cases hreset : e ∈ l.resets d rest
    · exact .inl hreset
    · exact .inr (count_signers_of_replayed hsigned hreset hreplayed)
  · intro e' hsigned'
    obtain ⟨hwallet, a, a', ha, ha', hcounter⟩ := counter_eq_of_signers hsigned hsigned'
    refine ⟨hwallet, ?_⟩
    rw [counter_eq_used ha, counter_eq_used ha'] at hcounter
    simpa only [UInt32.toNat_ofNat'] using congrArg UInt32.toNat hcounter

end Ledger

namespace Sample

/-- The passkey calls by a signature. -/
def callStep : Step := .submit .echo .acceptAll callAccounts (call 1)

/-- The owner adds the passkey as a spender. -/
def enrolment : Step :=
  .submit .echo .acceptAll
    [payer, ⟨walletKey, false, true⟩, ⟨managerMarkerKey, false, false⟩, ⟨markerKey, false, true⟩,
      ⟨systemProgram, false, false⟩]
    (InstructionKind.addAuthority.number :: [passkey.kind.tag, Role.spender.tag] ++
      Instruction.padding ++ passkey.encode)

/-- The owner removes the passkey. -/
def removal : Step :=
  .submit .echo .acceptAll
    [payer, ⟨walletKey, false, true⟩, ⟨managerMarkerKey, false, false⟩, ⟨markerKey, false, true⟩,
      payer]
    [InstructionKind.removeAuthority.number]

/-- The manager's wallet with the passkey as a spender, as it is stored. -/
def enrolledLedger : Ledger :=
  ⟨(managedLedger.accounts.set walletKey ⟨0, Wallet.encode ⟨255, 255, walletId,
    [⟨0, .owner, manager.seed, 0, manager.credential⟩,
      ⟨1, .spender, passkey.seed, 0, passkey.credential⟩]⟩⟩).set markerKey
    ⟨0, AuthorityMarker.encode ⟨255, 1, walletKey, passkey.seed⟩⟩, 0⟩

lemma step_enrolment : managedLedger.step default enrolment = enrolledLedger := by
  decide +kernel

lemma run_enrolment (steps : List Step) :
    Ledger.empty.run default (founding :: enrolment :: steps) =
      enrolledLedger.run default steps := by
  rw [run_founding, Ledger.run_cons, step_enrolment]

/-- The payer's account is there now, since it has taken the refund. -/
def reenrolledLedger : Ledger :=
  ⟨((enrolledLedger.accounts.erase markerKey).set payer.key ⟨0, []⟩).set markerKey
    ⟨0, AuthorityMarker.encode ⟨255, 1, walletKey, passkey.seed⟩⟩, 0⟩

lemma run_reenrolment :
    enrolledLedger.run default [callStep, removal, enrolment] = reenrolledLedger := by
  decide +kernel

lemma signer?_enrolled : enrolledLedger.signer? default callStep = some ⟨walletKey, 1⟩ := by
  decide +kernel

lemma signer?_reenrolled : reenrolledLedger.signer? default callStep = some ⟨walletKey, 1⟩ := by
  decide +kernel

/-- The same call counts as a signature before and after the passkey is removed and added again. -/
lemma signer?_callStep :
    (Ledger.empty.run default [founding, enrolment]).signer? default callStep =
        some ⟨walletKey, 1⟩ ∧
      (Ledger.empty.run default [founding, enrolment, callStep, removal, enrolment]).signer? default
        callStep = some ⟨walletKey, 1⟩ := by
  rw [run_enrolment, run_enrolment, run_reenrolment]
  exact ⟨signer?_enrolled, signer?_reenrolled⟩

/-- Removed and added again, the passkey has a new counter, and its old signature is good again. -/
theorem call_replayed :
    (Ledger.empty.run default [founding, enrolment]).signer? default callStep =
        some ⟨walletKey, 1⟩ ∧
      ∃ o, ((Ledger.empty.run default [founding, enrolment, callStep, removal, enrolment]).process
        default .echo .acceptAll callAccounts (call 1)).result = .ok o :=
  ⟨signer?_callStep.1, Ledger.ok_of_signer? signer?_callStep.2⟩

/-- The two calls are the first signature after an addition of the passkey each. -/
theorem counter_returns_of_call_replayed :
    (Ledger.empty.run default [founding, enrolment]).signer? default callStep =
        some ⟨walletKey, 1⟩ ∧
      (∃ o, ((Ledger.empty.run default [founding, enrolment, callStep, removal, enrolment]).process
        default .echo .acceptAll callAccounts (call 1)).result = .ok o) ∧
      Ledger.used default ⟨walletKey, 1⟩ [founding, enrolment, callStep, removal, enrolment] %
          2 ^ 32 =
        Ledger.used default ⟨walletKey, 1⟩ [founding, enrolment] % 2 ^ 32 := by
  obtain ⟨hsigned, hsigned'⟩ := signer?_callStep
  -- the lists are split here, or the counts themselves would be compared by evaluation
  have hsteps : [founding, enrolment, callStep, removal, enrolment] = [founding, enrolment] ++
    .submit .echo .acceptAll callAccounts (call 1) :: [removal, enrolment] := rfl
  rw [hsteps] at hsigned' ⊢
  obtain ⟨o, ho⟩ := Ledger.ok_of_signer? hsigned'
  obtain ⟨-, hreturns⟩ := Ledger.counter_returns_of_replayed [founding, enrolment]
    [removal, enrolment] hsigned ho
  obtain ⟨-, hused⟩ := hreturns _ hsigned'
  exact ⟨hsigned, ⟨o, ho⟩, hused⟩

end Sample

end SmartWallet
