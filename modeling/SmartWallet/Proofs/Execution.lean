import SmartWallet.Proofs.Effects

/-!
# Who executes

A batch of calls is prepared only for an entry of the wallet, by its master credential or its own
session key, or for a live session that a manager opened. The plan asks for the policy's clearance
unless a manager's master credential called, and the ledger keeps everything but the counter of a
signed challenge.
-/

namespace SmartWallet

namespace View

variable {v : View} {d : Deployment} {walletKey key : Key} {w : Wallet} {a b : Authority}

/-- One account names one entry. -/
lemma Names.entry_eq (ha : v.Names d walletKey w key a) (hb : v.Names d walletKey w key b) :
    a = b := by
  obtain ⟨bump, hra⟩ := ha.record
  obtain ⟨bump', hrb⟩ := hb.record
  rw [hra, Option.some.injEq, StoredRecord.authority.injEq, AuthorityMarker.mk.injEq] at hrb
  have hentry := ha.entry
  rw [hrb.2.1, hb.entry] at hentry
  exact (Option.some.inj hentry).symm

end View

/-- What lets a session record call for a wallet: it is live, its key signs, and the manager that
opened it is still registered, under the same id and seed. -/
structure SessionRecord.MayCall (v : View) (d : Deployment) (slot : UInt64)
    (accounts : List AccountRef) (walletKey : Key) (w : Wallet) (key : Key) (s : SessionRecord) :
    Prop where
  record : v.record? key = some (.session s)
  wallet : s.wallet = walletKey
  derived : ∃ bump, (Recipe.session walletKey s.sessionKey).derive d = .ok ⟨key, bump⟩
  live : slot < s.expiresAt
  signs : ∃ r ∈ accounts, r.signer = true ∧ r.key = s.sessionKey
  opener : ∃ a, w.authority? s.authorizerId = some a ∧ a.seed = s.authorizerSeed ∧
    (a.role = .owner ∨ a.role = .admin)

/-- How an entry of a wallet calls: by its master credential or, where that does not apply, by its
own session key. -/
def AuthRequest.CalledBy (r : AuthRequest) (verify : Verifier) (a : Authority)
    (counter? : Option UInt32) : Prop :=
  r.ByMaster verify a counter? ∨
    (∀ counter?, ¬r.ByMaster verify a counter?) ∧ r.BySession a ∧ counter? = none

/-- What the call of an entry leaves behind: the same ledger or, after a signature, the wallet
record with the entry's new counter. -/
def Ledger.Counts (l l' : Ledger) (walletKey : Key) (w : Wallet) (a : Authority) :
    Option UInt32 → Prop
  | none => l' = l
  | some counter => (∀ key, key ≠ walletKey → l'.data? key = l.data? key) ∧
      ∃ before after, w.authorities = before ++ a :: after ∧
        l'.data? walletKey = some (Wallet.encode
          { w with authorities := before ++ { a with counter := counter } :: after })

namespace AuthRequest

lemma calledBy_of_authenticate {r : AuthRequest} {verify : Verifier} {a : Authority}
    {o : AuthOutcome} (h : r.authenticate verify a = .ok o) :
    r.CalledBy verify a o.newCounter := by
  rcases byMaster_or_bySession h with ⟨-, hm⟩ | ⟨rfl, hs⟩
  · exact .inl hm
  · refine .inr ⟨fun counter? hm => ?_, hs, rfl⟩
    rw [authenticate_of_byMaster hm] at h
    cases h

end AuthRequest

namespace Context.Calls

variable {c : Context} {auth : Authorization} {payer walletKey key : Key} {w : Wallet}
  {who : Caller} {delta : Delta}

lemma called (h : c.Calls auth payer walletKey w key who delta) :
    (∃ a o counted, View.Names c.data? c.deployment walletKey w key a ∧
      (c.request payer auth true).CalledBy c.verify a o.newCounter ∧
      w.recordCounter a.id o = .ok counted ∧
      delta = if o.newCounter.isSome then [.store walletKey counted.encode] else []) ∨
    (∃ s : SessionRecord,
      s.MayCall c.data? c.deployment c.slot c.accounts walletKey w key) ∧ delta = [] := by
  cases h with
  | @authority a o counted named authenticated counts =>
    exact .inl ⟨a, o, counted, named, AuthRequest.calledBy_of_authenticate authenticated, counts,
      rfl⟩
  | @session s record wallet derived live opener signs =>
    obtain ⟨a, ha, hseed, hmanages⟩ := opener
    have hlive : c.slot < s.expiresAt := by simpa [SessionRecord.isLive] using live
    exact .inr ⟨⟨s, record, wallet, derived, hlive, signs, a, ha, hseed,
      Role.manages_iff.1 hmanages⟩, rfl⟩

/-- The policy is left out exactly for the master credential of a manager. -/
theorem policyRequired_eq_false_iff (h : c.Calls auth payer walletKey w key who delta) :
    who.policyRequired = false ↔
      ∃ a counter?, View.Names c.data? c.deployment walletKey w key a ∧
        (a.role = .owner ∨ a.role = .admin) ∧
        (c.request payer auth true).ByMaster c.verify a counter? := by
  cases h with
  | @authority a o counted named authenticated counts =>
    have hrequired : Caller.policyRequired (.authority a.id a.role o.viaSession) = false ↔
        o.viaSession = false ∧ a.role ≠ .spender := by
      simp [Caller.policyRequired]
    rw [hrequired]
    constructor
    · rintro ⟨hvia, hrole⟩
      rcases AuthRequest.byMaster_or_bySession authenticated with ⟨-, hm⟩ | ⟨ho, -⟩
      · refine ⟨a, _, named, ?_, hm⟩
        cases hr : a.role with
        | owner => exact .inl rfl
        | admin => exact .inr rfl
        | spender => exact absurd hr hrole
      · rw [ho] at hvia
        cases hvia
    · rintro ⟨b, counter?, hb, hrole, hm⟩
      cases named.entry_eq hb
      have ho := AuthRequest.authenticate_of_byMaster hm
      rw [authenticated, Except.ok.injEq] at ho
      refine ⟨by rw [ho], ?_⟩
      rcases hrole with hr | hr <;> simp [hr]
  | @session s record wallet derived live opener signs =>
    constructor
    · rintro ⟨⟩
    · rintro ⟨a, _, ha, -⟩
      obtain ⟨bump, hr⟩ := ha.record
      rw [record] at hr
      cases hr

end Context.Calls

namespace Ledger

variable {l l' : Ledger}

lemma apply_nil (h : l.apply [] = .ok l') : l' = l := by
  cases h
  rfl

lemma counts_of_apply {walletKey : Key} {w counted : Wallet} {a : Authority} {o : AuthOutcome}
    (hw : w.WellFormed) (ha : w.authority? a.id = some a)
    (hcounts : w.recordCounter a.id o = .ok counted)
    (happly : l.apply (if o.newCounter.isSome then [.store walletKey counted.encode] else []) =
      .ok l') :
    l.Counts l' walletKey w a o.newCounter := by
  cases ho : o.newCounter with
  | none =>
    rw [ho] at happly
    exact apply_nil happly
  | some counter =>
    rw [ho] at happly
    obtain ⟨before, after, hsplit, hcounted⟩ :=
      Wallet.exists_split_of_recordCounter hw ha hcounts ho
    have hview : l'.view = l.view.put walletKey counted.encode := by
      simpa using view_apply happly
    refine ⟨fun key hkey => ?_, before, after, hsplit, ?_⟩
    · show l'.view key = l.view key
      rw [hview, View.put, Function.update_of_ne hkey]
    · show l'.view walletKey = _
      rw [hview, View.put, Function.update_self, hcounted]

/-- A successful execution was paid for by a signer, named the wallet's own vault, and was called by
an entry of the wallet or by one of its sessions. The plan does without the policy exactly if the
entry is a manager's and called by its master credential. -/
theorem execution_authorized {d : Deployment} {verify : Verifier} {dispatcher : Dispatcher}
    {accounts : List AccountRef} {data : List UInt8} {o : Outcome}
    (h : (l.process d verify dispatcher accounts data).result = .ok o)
    (hkind : o.kind = .execute) :
    ∃ calls proof body payer wallet caller vault w plan,
      Instruction.decode d.profile data = .ok (.execute calls proof) ∧
      Batch.encode calls = .ok body ∧ o.execution = some plan ∧
      accounts[0]? = some payer ∧ payer.signer = true ∧
      accounts[1]? = some wallet ∧ l.view.HoldsWallet d wallet.key w ∧
      accounts[2]? = some caller ∧ accounts[3]? = some vault ∧
      (Recipe.vault wallet.key).derive d = .ok ⟨vault.key, w.vaultBump⟩ ∧
      let r : AuthRequest := ⟨accounts, proof, body,
        InstructionKind.execute.discriminator d.profile, payer.key, l.slot, true⟩
      let l' := (l.process d verify dispatcher accounts data).ledger
      ((∃ a counter?, l.view.Names d wallet.key w caller.key a ∧ r.CalledBy verify a counter? ∧
          l.Counts l' wallet.key w a counter?) ∨
        (∃ s : SessionRecord, s.MayCall l.view d l.slot accounts wallet.key w caller.key) ∧
          l' = l) ∧
      (plan.policyRequired = false ↔ ∃ a counter?, l.view.Names d wallet.key w caller.key a ∧
        (a.role = .owner ∨ a.role = .admin) ∧ r.ByMaster verify a counter?) := by
  obtain ⟨ix, auth, hc⟩ := exists_commits h
  obtain ⟨hdecode, hbody, hdiscriminator, hproof⟩ := Context.readInstruction_eq_ok_iff.1 hc.read
  have hix := (Context.performs_of_perform hc.performed).1
  rw [hkind] at hix
  cases ix with
  | execute calls proof =>
    obtain ⟨p, hp, rfl⟩ := Context.prepareExecution_of_perform hc.performed
    obtain ⟨payer, wallet, caller, vault, w, hprep⟩ := Context.prepares_of_prepareExecution hp
    refine ⟨calls, proof, auth.body, payer, wallet, caller, vault, w, p.plan, hdecode, hbody, rfl,
      hprep.payerAt, hprep.signs, hprep.walletAt, hprep.holds, hprep.callerAt, hprep.vaultAt,
      hprep.vaultDerived, ?_⟩
    rw [hprep.policy]
    have hpolicy := hprep.authorized.policyRequired_eq_false_iff
    have hcalled := hprep.authorized.called
    simp only [Context.request, hdiscriminator, hproof] at hpolicy hcalled
    refine ⟨?_, hpolicy⟩
    have happlied : l.apply p.delta = .ok (l.process d verify dispatcher accounts data).ledger :=
      hc.applied
    rcases hcalled with ⟨a, o, counted, hnamed, hcalled, hcounts, hdelta⟩ | ⟨hsession, hdelta⟩
    · rw [hdelta] at happlied
      have hwf := View.wellFormed_of_record? hprep.holds.record
      exact .inl ⟨a, o.newCounter, hnamed, hcalled,
        counts_of_apply hwf hnamed.entry hcounts happlied⟩
    · rw [hdelta] at happlied
      exact .inr ⟨hsession, apply_nil happlied⟩
  | _ => cases hix

end Ledger

namespace Sample

def callAccounts : List AccountRef :=
  [payer, ⟨walletKey, false, true⟩, ⟨markerKey, false, false⟩, ⟨vaultKey, false, true⟩,
    ⟨systemProgram, false, false⟩]

/-- One call of the system program, with the vault as a writable signer and no data. -/
def batch : List UInt8 := [1, 4, 1, 3, 3, 0, 0]

/-- The owner calls by a signature. -/
def call (counter : UInt32) : List UInt8 :=
  InstructionKind.execute.number :: batch ++ signature .execute batch callAccounts counter

lemma kind_call :
    (((ledger 0).process default .echo .acceptAll callAccounts (call 1)).result.map
      Outcome.kind) = .ok .execute := by
  decide +kernel

/-- The owner's only way to call is a signature with the next counter. -/
lemma counter_of_calledBy {r : AuthRequest} {verify : Verifier} {counter : UInt32}
    {counter? : Option UInt32} (h : r.CalledBy verify (ownerEntry counter) counter?) :
    counter? = some (counter + 1) ∧ r.ByMaster verify (ownerEntry counter) counter? := by
  rcases h with hm | ⟨-, ⟨-, _, _, hs, -⟩, -⟩
  · refine ⟨?_, hm⟩
    cases hm with
    | signer master => cases master
    | signature signed => rw [signed.counter]; rfl
  · cases hs

/-- The owner's call needs no policy, and it raises the owner's counter. -/
theorem call_authorized :
    ∃ o plan, ((ledger 0).process default .echo .acceptAll callAccounts (call 1)).result = .ok o ∧
      o.execution = some plan ∧ plan.policyRequired = false ∧
      ((ledger 0).process default .echo .acceptAll callAccounts (call 1)).ledger.data? walletKey =
        some (wallet 1).encode := by
  obtain ⟨o, ho, hkind⟩ := map_eq_ok_iff.1 kind_call
  obtain ⟨calls, proof, body, p, r, m, v, w, plan, -, -, hplan, -, -, hr, hw, hm, -, -, hcalled,
    hpolicy⟩ := Ledger.execution_authorized ho hkind
  cases hr
  cases hm
  have hw' : some (StoredRecord.wallet (wallet 0)) = some (.wallet w) := by
    rw [← record?_ledger 0, hw.record]
  cases hw'
  rcases hcalled with ⟨a, counter?, ha, hcalled, hcounts⟩ | ⟨⟨s, hs⟩, -⟩
  · cases eq_ownerEntry ha.entry
    obtain ⟨rfl, hm⟩ := counter_of_calledBy hcalled
    obtain ⟨-, before, after, hsplit, hdata⟩ := hcounts
    refine ⟨o, plan, ho, hplan, hpolicy.2 ⟨_, _, ha, .inl rfl, hm⟩, ?_⟩
    have hnil : before = [] ∧ after = [] := by
      have hlen := congrArg List.length hsplit
      simp only [wallet, List.length_append, List.length_cons, List.length_nil] at hlen
      exact ⟨List.length_eq_zero_iff.1 (by omega), List.length_eq_zero_iff.1 (by omega)⟩
    rw [hdata, hnil.1, hnil.2]
    rfl
  · have hrecord := hs.record
    rw [record?_ledger_marker] at hrecord
    cases hrecord

end Sample

end SmartWallet
