import SmartWallet.Proofs.Odometer
import SmartWallet.Proofs.Prepared

/-!
# Accounts that are written

An instruction names the accounts that it may change, and a host refuses a change of any other. What
a client prepares names all that the program changes, but for one: a session that is opened by a
P-256 signature also stores the wallet's record, which the client lists as read-only.
-/

namespace SmartWallet

/-- The accounts that a write changes. A closing also changes the one that takes the lamports. -/
def Write.accounts : Write → List Key
  | .store key _ => [key]
  | .close key refundTo => [key, refundTo]

/-- The positions of the accounts that an instruction may change. -/
def InstructionKind.writes : InstructionKind → List Nat
  | .createWallet | .addAuthority | .createSession => [1, 3]
  | .removeAuthority => [1, 3, 4]
  | .transferOwnership => [0, 1, 2, 3]
  | .execute => [1]

namespace Context

variable {c : Context} {auth : Authorization} {ix : Instruction} {delta : Delta}

lemma Performs.written_at (hp : c.Performs auth ix delta) :
    ∀ x ∈ delta, ∀ key ∈ x.accounts, ∃ i ∈ ix.kind.writes, c.keyAt i = some key := by
  cases hp with
  | createWallet _ _ _ _ walletAt _ _ _ _ markerAt =>
    simp only [List.forall_mem_cons, List.not_mem_nil, false_implies, implies_true, and_true,
      Write.accounts, Instruction.kind]
    exact ⟨⟨1, by decide, walletAt⟩, ⟨3, by decide, markerAt⟩⟩
  | addAuthority acts _ _ _ markerAt =>
    simp only [List.forall_mem_cons, List.not_mem_nil, false_implies, implies_true, and_true,
      Write.accounts, Instruction.kind]
    exact ⟨⟨1, by decide, keyAt_of_account acts.wallet rfl⟩, ⟨3, by decide, markerAt⟩⟩
  | removeAuthority targetAt refundAt _ acts =>
    simp only [List.forall_mem_cons, List.not_mem_nil, false_implies, implies_true, and_true,
      Write.accounts, Instruction.kind]
    exact ⟨⟨1, by decide, keyAt_of_account acts.wallet rfl⟩,
      ⟨3, by decide, keyAt_of_account targetAt rfl⟩, ⟨4, by decide, keyAt_of_account refundAt rfl⟩⟩
  | transferOwnership acts _ _ _ markerAt =>
    simp only [List.cons_append, List.forall_mem_cons, List.forall_mem_append, List.not_mem_nil,
      false_implies, implies_true, and_true, Write.accounts, Instruction.kind]
    refine ⟨⟨1, by decide, keyAt_of_account acts.wallet rfl⟩, ?_, ⟨3, by decide, markerAt⟩⟩
    split
    · simp
    · simp only [List.forall_mem_cons, List.not_mem_nil, false_implies, implies_true, and_true]
      exact ⟨⟨2, by decide, keyAt_of_account acts.marker rfl⟩,
        ⟨0, by decide, keyAt_of_account acts.payer rfl⟩⟩
  | @execute calls proof p payer wallet caller vault w prepares =>
    have hauthorized := prepares.authorized
    generalize p.plan.caller = who, p.delta = writes at hauthorized
    cases hauthorized with
    | authority =>
      split
      · simp only [List.forall_mem_cons, List.not_mem_nil, false_implies, implies_true, and_true,
          Write.accounts, Instruction.kind]
        exact ⟨1, by decide, keyAt_of_account prepares.walletAt rfl⟩
      · simp
    | session => simp
  | createSession acts _ _ _ sessionAt =>
    simp only [List.forall_mem_append, List.forall_mem_cons, List.not_mem_nil, false_implies,
      implies_true, and_true, Write.accounts, Instruction.kind]
    refine ⟨?_, ⟨3, by decide, sessionAt⟩⟩
    split
    · simp only [List.forall_mem_cons, List.not_mem_nil, false_implies, implies_true, and_true]
      exact ⟨1, by decide, keyAt_of_account acts.wallet rfl⟩
    · simp

end Context

namespace PreparedInstruction

/-- The account list lets the program change an account. -/
def Declares (p : PreparedInstruction) (key : Key) : Prop :=
  ∃ r ∈ p.accounts, r.key = key ∧ r.writable = true

variable {d : Deployment} {p : PreparedInstruction}

lemma declares_of_account {i : Nat} {r : AccountRef} (hr : p.accounts[i]? = some r)
    (hwritable : r.writable = true) : p.Declares r.key :=
  ⟨r, List.mem_of_getElem? hr, rfl, hwritable⟩

/-- What the layouts of the client have in common: the program's accounts are writable where it may
change them, but for the wallet of a session that is to be opened. -/
structure DeclaresWrites (p : PreparedInstruction) : Prop where
  writable : ∀ i ∈ p.instruction.kind.writes, (p.instruction.kind = .createSession → i ≠ 1) →
    ∀ r, p.accounts[i]? = some r → r.writable = true
  opening : p.instruction.kind = .createSession → ∃ wallet acting session rest,
    p.accounts = ⟨p.payer, true, true⟩ :: ⟨wallet, false, false⟩ :: acting ::
      ⟨session, false, true⟩ :: rest ∧ acting.writable = false ∧ ∀ r ∈ rest, r.writable = false

lemma declaresWrites (h : (∃ walletId owner, createWallet d p.payer walletId owner = .ok p) ∨
    Built d p.payer p) : p.DeclaresWrites := by
  rcases h with ⟨walletId, owner, h⟩ | h
  · obtain ⟨w, v, m, -, -, -, hp⟩ := createWallet_eq_ok_iff.1 h
    rw [hp]
    refine ⟨?_, fun hkind => by cases hkind⟩
    simp [Instruction.kind, InstructionKind.writes]
  cases h with
  | addAuthority built =>
    obtain ⟨acting, marker, -, -, hp⟩ := addAuthority_eq_ok_iff.1 built
    rw [hp]
    refine ⟨?_, fun hkind => by cases hkind⟩
    simp [Instruction.kind, InstructionKind.writes, actingAccounts]
  | removeAuthority built =>
    obtain ⟨acting, target, -, -, hp⟩ := removeAuthority_eq_ok_iff.1 built
    rw [hp]
    refine ⟨?_, fun hkind => by cases hkind⟩
    simp [Instruction.kind, InstructionKind.writes, actingAccounts]
  | transferOwnership built =>
    obtain ⟨current, next, -, -, hp⟩ := transferOwnership_eq_ok_iff.1 built
    rw [hp]
    refine ⟨?_, fun hkind => by cases hkind⟩
    simp [Instruction.kind, InstructionKind.writes, actingAccounts]
  | createSession built =>
    obtain ⟨acting, session, -, -, hp⟩ := createSession_eq_ok_iff.1 built
    rw [hp]
    refine ⟨?_, fun _ => ⟨_, _, _, _, rfl, rfl, ?_⟩⟩
    · simp [Instruction.kind, InstructionKind.writes, actingAccounts]
    · simp [signerRefs]
  | execute built =>
    obtain ⟨vault, packed, batch, rest, hexec⟩ := executes_of_execute built
    have hp := hexec.prepared
    rw [hp]
    refine ⟨?_, fun hkind => by cases hkind⟩
    simp [Instruction.kind, InstructionKind.writes, executionHead]

namespace DeclaresWrites

variable {wallet : AccountRef} {session : Key}

lemma declares_session (h : p.DeclaresWrites) (hkind : p.instruction.kind = .createSession)
    (hsession : (p.accounts[3]?).map AccountRef.key = some session) : p.Declares session := by
  obtain ⟨r, hr, rfl⟩ := Option.map_eq_some_iff.1 hsession
  have hwrites : 3 ∈ p.instruction.kind.writes := by simp [hkind, InstructionKind.writes]
  exact declares_of_account hr (h.writable 3 hwrites (by simp) r hr)

/-- Of the accounts that are writable when a session is opened, only the payer's can be the
wallet's. -/
lemma declares_wallet_iff (h : p.DeclaresWrites) (hkind : p.instruction.kind = .createSession)
    (hwallet : p.accounts[1]? = some wallet)
    (hsession : (p.accounts[3]?).map AccountRef.key = some session) (hne : wallet.key ≠ session) :
    p.Declares wallet.key ↔ wallet.key = p.payer := by
  obtain ⟨walletKey, acting, sessionKey, rest, haccounts, hacting, hrest⟩ := h.opening hkind
  rw [haccounts] at hwallet hsession
  obtain rfl : ⟨walletKey, false, false⟩ = wallet := Option.some.inj hwallet
  obtain rfl : sessionKey = session := Option.some.inj hsession
  constructor
  · rintro ⟨r, hr, hkey, hwritable⟩
    rw [haccounts] at hr
    simp only [List.mem_cons] at hr
    rcases hr with rfl | rfl | rfl | rfl | hr
    · exact hkey.symm
    · cases hwritable
    · rw [hacting] at hwritable
      cases hwritable
    · exact absurd hkey.symm hne
    · rw [hrest r hr] at hwritable
      cases hwritable
  · intro hpayer
    exact ⟨⟨p.payer, true, true⟩, by simp [haccounts], hpayer.symm, rfl⟩

end DeclaresWrites

end PreparedInstruction

namespace Ledger

variable {l : Ledger} {d : Deployment} {verify : Verifier} {dispatcher : Dispatcher}
  {p : PreparedInstruction} {data : List UInt8} {ix : Instruction} {auth : Authorization}
  {o : Outcome} {l' : Ledger}

/-- The writes of an opened session are declared unless the wallet's record is among them. -/
theorem Commits.declared_iff (hc : l.Commits d verify dispatcher p.accounts data ix auth o l')
    (hkind : ix.kind = .createSession) (hp : p.DeclaresWrites)
    (hsame : p.instruction.kind = .createSession) :
    (∀ x ∈ o.delta, ∀ key ∈ x.accounts, p.Declares key) ↔
      ∀ e, l.signer? d (.submit verify dispatcher p.accounts data) = some e →
        e.wallet = p.payer := by
  have hsigner : l.signer? d (.submit verify dispatcher p.accounts data) =
      (l.context d verify p.accounts).signer? ix auth := by
    simp only [signer?, hc.answered, hc.read]
  rw [hsigner]
  have hperforms := hc.performs
  generalize o.delta = delta at hperforms
  cases hperforms with
  | @createSession sessionKey expiresAt proof act address counted hacts hsystem hmanages hderived
      hsessionAt hvacant hfuture hbounded hcounts =>
    have hne : act.wallet.key ≠ address.key :=
      Records.ne_of_record_ne hacts.holds.record (View.record?_of_vacant hvacant) (by simp)
    have hdeclared : p.Declares address.key := hp.declares_session hsame hsessionAt
    have hpayer : p.Declares act.wallet.key ↔ act.wallet.key = p.payer :=
      hp.declares_wallet_iff hsame hacts.wallet hsessionAt hne
    rw [Context.signer?_of_acts hacts]
    cases act.outcome.newCounter with
    | none => simpa [Write.accounts] using hdeclared
    | some counter => simpa [Write.accounts, hdeclared] using hpayer
  | _ => cases hkind

/-- What is written is declared, or it is the wallet of a session that is opened. -/
lemma Commits.declares_or_wallet (hc : l.Commits d verify dispatcher p.accounts data ix auth o l')
    (hp : p.DeclaresWrites) (hsame : ix.kind = p.instruction.kind) {x : Write} (hx : x ∈ o.delta)
    {key : Key} (hkey : key ∈ x.accounts) : p.Declares key ∨
      o.kind = .createSession ∧ p.accounts[1]?.map AccountRef.key = some key := by
  have hkind : o.kind = p.instruction.kind :=
    (Context.performs_of_perform hc.performed).1.trans hsame
  obtain ⟨i, hi, hat⟩ := hc.performs.written_at x hx key hkey
  obtain ⟨r, hr, rfl⟩ := Context.exists_account_of_keyAt hat
  by_cases hwallet : o.kind = .createSession ∧ i = 1
  · obtain ⟨hsession, rfl⟩ := hwallet
    exact .inr ⟨hsession, hat⟩
  · refine .inl (PreparedInstruction.declares_of_account hr (hp.writable i (hsame ▸ hi) ?_ r hr))
    exact fun hsession hi => hwallet ⟨hkind.trans hsession, hi⟩

/-- Everything that a prepared instruction of a client changes when it succeeds, and every account
that takes a refund, is declared writable in its account list, except that the wallet of a session
may not be. It is not exactly if the session is opened by a P-256 signature of an entry, which
changes the wallet's record, unless the wallet's account itself pays. -/
theorem writes_declared_iff
    (h : (∃ walletId owner, PreparedInstruction.createWallet d p.payer walletId owner = .ok p) ∨
      PreparedInstruction.Built d p.payer p) {proof : List UInt8} {call : Call}
    (hcall : (p.withProof proof).toCall d = .ok call)
    (hresult : (l.process d verify dispatcher call.accounts call.data).result = .ok o) :
    (∀ x ∈ o.delta, ∀ key ∈ x.accounts, p.Declares key ∨
      o.kind = .createSession ∧ p.accounts[1]?.map AccountRef.key = some key) ∧
    ((∀ x ∈ o.delta, ∀ key ∈ x.accounts, p.Declares key) ↔
      (o.kind = .createSession → ∀ e signature,
        l.StepSignedBy d e signature (.submit verify dispatcher call.accounts call.data) →
          e.wallet = p.payer)) := by
  have hp := PreparedInstruction.declaresWrites h
  simp only [PreparedInstruction.toCall, bind_eq_ok_iff, pure_eq_ok_iff] at hcall
  obtain ⟨data, hencode, rfl⟩ := hcall
  obtain ⟨ix, auth, hc⟩ := exists_commits hresult
  have hc : l.Commits d verify dispatcher p.accounts data ix auth o _ := hc
  have hdecode := (Context.readInstruction_eq_ok_iff.1 hc.read).1
  have hsame : ix.kind = p.instruction.kind := by
    rw [(Instruction.signedBody_of_decode hencode hdecode).1]
    exact Instruction.kind_withProof
  have hkind : o.kind = p.instruction.kind :=
    (Context.performs_of_perform hc.performed).1.trans hsame
  have hwritten : ∀ x ∈ o.delta, ∀ key ∈ x.accounts, p.Declares key ∨
      o.kind = .createSession ∧ p.accounts[1]?.map AccountRef.key = some key :=
    fun x hx key hkey => hc.declares_or_wallet hp hsame hx hkey
  refine ⟨hwritten, ?_⟩
  by_cases hsession : o.kind = .createSession
  · have hopens : p.instruction.kind = .createSession := hkind.symm.trans hsession
    rw [hc.declared_iff (hsame.trans hopens) hp hopens]
    simp only [signer?_iff_signed, forall_exists_index, hsession, true_implies]
    rfl
  · exact iff_of_true (fun x hx key hkey => (hwritten x hx key hkey).resolve_right
      fun hwallet => hsession hwallet.1) fun hs => absurd hs hsession

end Ledger

namespace Sample

/-- The passkey is to open a session. -/
def preparedSession : PreparedInstruction :=
  ⟨payer.key, .createSession (.replicate 32 3) 100 [],
    [payer, ⟨walletKey, false, false⟩, ⟨markerKey, false, false⟩, ⟨sessionAddress, false, true⟩,
      ⟨systemProgram, false, false⟩]⟩

def sessionSignature : List UInt8 :=
  signature .createSession (List.replicate 32 3 ++ [100, 0, 0, 0, 0, 0, 0, 0])
    preparedSession.accounts 1

def sessionRequest : Call :=
  ⟨Deployment.defaultProgram, preparedSession.accounts, InstructionKind.createSession.number ::
    (List.replicate 32 3 ++ [100, 0, 0, 0, 0, 0, 0, 0] ++ sessionSignature)⟩

lemma derive_session : (Recipe.session walletKey (.replicate 32 3)).derive default =
    .ok ⟨sessionAddress, 254⟩ := by
  decide +kernel

lemma built_preparedSession : PreparedInstruction.createSession default payer.key walletKey
    passkey.seed (.replicate 32 3) 100 [] = .ok preparedSession :=
  PreparedInstruction.createSession_eq_ok_iff.2 ⟨_, _, derive_marker, derive_session, rfl⟩

lemma toCall_preparedSession :
    (preparedSession.withProof sessionSignature).toCall default = .ok sessionRequest :=
  rfl

lemma delta_sessionRequest :
    (((ledger 0).process default .echo .acceptAll sessionRequest.accounts
      sessionRequest.data).result.map Outcome.delta) =
        .ok [.store walletKey (wallet 1).encode, .store sessionAddress
          (SessionRecord.encode ⟨254, 0, walletKey, .replicate 32 3, passkey.seed, 100⟩)] := by
  decide +kernel

lemma walletKey_undeclared : ¬ preparedSession.Declares walletKey := by
  unfold PreparedInstruction.Declares
  decide

/-- The passkey opens a session, and the wallet's record is stored in an account that the client has
listed as read-only. -/
theorem session_wallet_undeclared :
    PreparedInstruction.createSession default payer.key walletKey passkey.seed (.replicate 32 3)
        100 [] = .ok preparedSession ∧
      (preparedSession.withProof sessionSignature).toCall default = .ok sessionRequest ∧
      ∃ o, ((ledger 0).process default .echo .acceptAll sessionRequest.accounts
          sessionRequest.data).result = .ok o ∧
        .store walletKey (wallet 1).encode ∈ o.delta ∧ ¬ preparedSession.Declares walletKey := by
  obtain ⟨o, ho, hdelta⟩ := map_eq_ok_iff.1 delta_sessionRequest
  exact ⟨built_preparedSession, toCall_preparedSession, o, ho, hdelta ▸ List.mem_cons_self ..,
    walletKey_undeclared⟩

/-- So it is a signature that opens the session, of an entry whose wallet does not pay. -/
theorem sessionRequest_signed :
    PreparedInstruction.Built default preparedSession.payer preparedSession ∧
      (preparedSession.withProof sessionSignature).toCall default = .ok sessionRequest ∧
      ∃ o, ((ledger 0).process default .echo .acceptAll sessionRequest.accounts
          sessionRequest.data).result = .ok o ∧ o.kind = .createSession ∧
        ∃ e p, (ledger 0).StepSignedBy default e p (.submit .echo .acceptAll
          sessionRequest.accounts sessionRequest.data) ∧ e.wallet ≠ preparedSession.payer := by
  obtain ⟨o, ho, hdelta⟩ := map_eq_ok_iff.1 delta_sessionRequest
  have hbuilt : PreparedInstruction.Built default preparedSession.payer preparedSession :=
    .createSession built_preparedSession
  have hdeclared := (Ledger.writes_declared_iff (.inr hbuilt) toCall_preparedSession ho).2
  have hundeclared : ¬ ∀ x ∈ o.delta, ∀ key ∈ x.accounts, preparedSession.Declares key := by
    rw [hdelta]
    intro h
    exact walletKey_undeclared (h _ (List.mem_cons_self ..) _ (List.mem_singleton_self _))
  rw [hdeclared] at hundeclared
  simp only [Classical.not_imp, not_forall] at hundeclared
  obtain ⟨hkind, e, p, hsigned, hne⟩ := hundeclared
  exact ⟨hbuilt, toCall_preparedSession, o, ho, hkind, e, p, hsigned, hne⟩

end Sample

end SmartWallet
