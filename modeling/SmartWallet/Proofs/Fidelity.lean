import SmartWallet.Client.PreparedInstruction
import SmartWallet.Proofs.Handover
import SmartWallet.Proofs.Packing
import SmartWallet.Proofs.Sufficiency

/-!
# Prepared executions arrive as they were meant

A client packs calls behind payer, wallet, caller and vault; the program takes them apart again by
index. Between the two, each index stands for the account that it was given for, so that the calls
are handed over as the client listed them, with the vault as a signer. The privileges that the
client collects are enough for every call that asks no signature of the wallet or of the caller.
-/

namespace SmartWallet

/-- The account as it is handed over: the vault signs. -/
def AccountRef.signedBy (vault : Key) (a : AccountRef) : AccountRef :=
  { a with signer := a.signer || a.key == vault }

/-- The call as it is handed over: the vault signs wherever it occurs. -/
def Call.signedBy (vault : Key) (call : Call) : Call :=
  { call with accounts := call.accounts.map (AccountRef.signedBy vault) }

/-- The calls as they are handed over, with the seeds of the vault. -/
def Call.handed (wallet : Key) (vault : DerivedAddress) (calls : List Call) : List Dispatch :=
  calls.map fun call =>
    ⟨call.signedBy vault.key, [Recipe.vaultTag, wallet.toList, [vault.bump]]⟩

/-- Among the outer accounts, an index stands for an account. Unless it is one of the fixed
accounts, it has all privileges that are asked for the account. -/
def AccountRef.StandsAt (fixed rest : List AccountRef) (a : AccountRef) (i : UInt8) : Prop :=
  ∃ r, (fixed ++ rest)[i.toNat]? = some r ∧ r.key = a.key ∧ (r ∈ fixed ∨ r.Grants a)

/-- Among the outer accounts, the indexes of a packed call stand for the program and the accounts of
a call, with the roles and the data of that call. -/
structure PackedCall.StandsFor (fixed rest : List AccountRef) (call : Call) (packed : PackedCall) :
    Prop where
  program : ∃ r, (fixed ++ rest)[packed.program.toNat]? = some r ∧ r.key = call.program
  accounts : List.Forall₂ (AccountRef.StandsAt fixed rest) call.accounts packed.accounts
  roles : packed.roles = call.accounts.map .ofRef
  data : packed.data = call.data

variable {fixed rest refs : List AccountRef} {indexes : List UInt8} {call : Call}
  {packed : PackedCall}

lemma AccountRef.exists_of_places {added : List AccountRef} {i : Nat} {a : AccountRef}
    (h : AccountTable.Places ⟨fixed.map AccountRef.key, added⟩ i a) (signers : List AccountRef) :
    ∃ r, (fixed ++ (added ++ signers))[i]? = some r ∧ r.key = a.key ∧
      (r ∈ fixed ∨ r.Grants a) := by
  rcases h with hfixed | ⟨j, r, rfl, hr, hgrants⟩
  · rw [List.getElem?_map, Option.map_eq_some_iff] at hfixed
    obtain ⟨r, hr, hkey⟩ := hfixed
    refine ⟨r, ?_, hkey, .inl (List.mem_of_getElem? hr)⟩
    rw [List.getElem?_append_left (List.getElem?_eq_some_iff.1 hr).1, hr]
  · refine ⟨r, ?_, hgrants.key, .inr hgrants⟩
    rw [List.length_map, List.getElem?_append_right (Nat.le_add_right _ _), Nat.add_sub_cancel_left,
      List.getElem?_append_left (List.getElem?_eq_some_iff.1 hr).1, hr]

lemma PackedCall.standsFor_of_packs {added : List AccountRef}
    (h : AccountTable.Packs ⟨fixed.map AccountRef.key, added⟩ call packed)
    (signers : List AccountRef) : StandsFor fixed (added ++ signers) call packed := by
  obtain ⟨a, ha, hprogram⟩ := h.program
  obtain ⟨r, hr, hkey, -⟩ := AccountRef.exists_of_places hprogram signers
  exact ⟨⟨r, hr, hkey.trans ha⟩,
    h.accounts.imp fun _ _ hi => AccountRef.exists_of_places hi signers, h.roles, h.data⟩

/-! ## Resolving -/

lemma AccountRef.resolved_of_standsAt
    (h : List.Forall₂ (AccountRef.StandsAt fixed rest) refs indexes) :
    List.Forall₂ (fun (entry : UInt8 × AccountRole) ref =>
      ∃ r, (fixed ++ rest)[entry.1.toNat]? = some r ∧ entry.2.toRef r.key = ref)
      (indexes.zip (refs.map .ofRef)) refs := by
  induction h with
  | nil => exact .nil
  | cons hi _ ih =>
    obtain ⟨r, hr, hkey, -⟩ := hi
    exact .cons ⟨r, hr, by rw [hkey, AccountRole.toRef_ofRef]⟩ ih

lemma PackedCall.resolve_of_standsFor (h : StandsFor fixed rest call packed) :
    packed.resolve (fixed ++ rest) = .ok call := by
  obtain ⟨program, hprogram, hkey⟩ := h.program
  have hrefs := AccountRef.resolved_of_standsAt h.accounts
  simp only [resolve, bind_eq_ok_iff, orError_eq_ok_iff, mapM_eq_ok_iff, map_eq_ok_iff,
    pure_eq_ok_iff, h.roles]
  exact ⟨program, hprogram, call.accounts, hrefs, by rw [hkey, h.data]⟩

namespace Context

variable {c : Context} {vault : Key}

lemma promote_eq_ok_iff {a outer inner : AccountRef} : promote vault a outer = .ok inner ↔
    inner = a.signedBy vault ∧ (a.key = vault ∨ (a.signer = true → outer.signer = true) ∧
      (a.writable = true → outer.writable = true)) := by
  obtain ⟨key, signer, writable⟩ := a
  unfold promote AccountRef.signedBy
  by_cases hkey : key = vault
  · simp [hkey, @eq_comm _ inner]
  · simp only [hkey, if_false, beq_eq_false_iff_ne.2 hkey, Bool.or_false, false_or]
    cases signer <;> cases outer.signer <;> cases writable <;> cases outer.writable <;>
      simp [@eq_comm _ inner]

lemma promoted_signedBy (h : List.Forall₂ (AccountRef.StandsAt fixed rest) refs indexes)
    {inners : List AccountRef}
    (hinners : List.Forall₂ (fun (entry : AccountRef × UInt8) inner =>
      ∃ r, (fixed ++ rest)[entry.2.toNat]? = some r ∧ promote vault entry.1 r = .ok inner)
      (refs.zip indexes) inners) : inners = refs.map (AccountRef.signedBy vault) := by
  induction h generalizing inners with
  | nil =>
    cases hinners
    rfl
  | cons _ _ ih =>
    obtain ⟨inner, inners, ⟨r, -, hinner⟩, hrest, rfl⟩ := List.forall₂_cons_left_iff.1 hinners
    rw [(promote_eq_ok_iff.1 hinner).1, ih hrest, List.map_cons]

lemma exists_promoted (h : List.Forall₂ (AccountRef.StandsAt fixed rest) refs indexes)
    (hheld : ∀ a ∈ refs, ∀ r ∈ fixed, r.key = a.key → a.key = vault ∨ r.Grants a) :
    List.Forall₂ (fun (entry : AccountRef × UInt8) inner =>
      ∃ r, (fixed ++ rest)[entry.2.toNat]? = some r ∧ promote vault entry.1 r = .ok inner)
      (refs.zip indexes) (refs.map (AccountRef.signedBy vault)) := by
  induction h with
  | nil => exact .nil
  | @cons a i refs indexes hi _ ih =>
    obtain ⟨r, hr, hkey, hprivileges⟩ := hi
    have hgrants : a.key = vault ∨ r.Grants a :=
      hprivileges.elim (fun hr => hheld a (List.mem_cons_self ..) r hr hkey) .inr
    refine .cons ⟨r, hr, promote_eq_ok_iff.2 ⟨rfl, ?_⟩⟩
      (ih fun b hb => hheld b (List.mem_cons_of_mem _ hb))
    exact hgrants.imp_right fun h => ⟨h.signer, h.writable⟩

lemma resolveInner_eq_ok_iff (hc : c.accounts = fixed ++ rest)
    (hs : packed.StandsFor fixed rest call) {handed : Call} :
    c.resolveInner vault packed = .ok handed ↔ call.program ≠ c.deployment.program ∧
      ∃ inners, List.Forall₂ (fun (entry : AccountRef × UInt8) inner =>
          ∃ r, (fixed ++ rest)[entry.2.toNat]? = some r ∧ promote vault entry.1 r = .ok inner)
        (call.accounts.zip packed.accounts) inners ∧
      { call with accounts := inners } = handed := by
  simp only [resolveInner, hc, PackedCall.resolve_of_standsFor hs, bind_eq_ok_iff, ensure_eq_ok,
    exists_const, Except.ok.injEq, exists_eq_left', mapM_eq_ok_iff, account_eq_ok_iff,
    pure_eq_ok_iff]

lemma eq_signedBy_of_resolveInner (hc : c.accounts = fixed ++ rest)
    (hs : packed.StandsFor fixed rest call) {handed : Call}
    (h : c.resolveInner vault packed = .ok handed) : handed = call.signedBy vault := by
  obtain ⟨-, inners, hinners, rfl⟩ := (resolveInner_eq_ok_iff hc hs).1 h
  rw [promoted_signedBy hs.accounts hinners, Call.signedBy]

/-- A packed call resolves if the fixed accounts have the privileges that it asks of them. -/
lemma resolveInner_of_standsFor (hc : c.accounts = fixed ++ rest)
    (hs : packed.StandsFor fixed rest call) (hforeign : call.program ≠ c.deployment.program)
    (hheld : ∀ a ∈ call.accounts, ∀ r ∈ fixed, r.key = a.key → a.key = vault ∨ r.Grants a) :
    c.resolveInner vault packed = .ok (call.signedBy vault) :=
  (resolveInner_eq_ok_iff hc hs).2 ⟨hforeign, _, exists_promoted hs.accounts hheld, rfl⟩

variable {calls handed : List Call} {batch : List PackedCall}

lemma eq_signedBy_of_resolved (hc : c.accounts = fixed ++ rest)
    (hs : List.Forall₂ (PackedCall.StandsFor fixed rest) calls batch)
    (h : batch.mapM (c.resolveInner vault) = .ok handed) :
    handed = calls.map (Call.signedBy vault) := by
  rw [mapM_eq_ok_iff] at h
  induction hs generalizing handed with
  | nil =>
    cases h
    rfl
  | cons hs _ ih =>
    obtain ⟨first, handed, hfirst, hrest, rfl⟩ := List.forall₂_cons_left_iff.1 h
    rw [eq_signedBy_of_resolveInner hc hs hfirst, ih hrest, List.map_cons]

lemma resolved_of_standsFor (hc : c.accounts = fixed ++ rest)
    (hs : List.Forall₂ (PackedCall.StandsFor fixed rest) calls batch)
    (hcalls : ∀ call ∈ calls, call.program ≠ c.deployment.program ∧
      ∀ a ∈ call.accounts, ∀ r ∈ fixed, r.key = a.key → a.key = vault ∨ r.Grants a) :
    batch.mapM (c.resolveInner vault) = .ok (calls.map (Call.signedBy vault)) := by
  refine mapM_eq_ok_iff.2 ?_
  induction hs with
  | nil => exact .nil
  | @cons call packed calls batch hs _ ih =>
    obtain ⟨hforeign, hheld⟩ := hcalls call (List.mem_cons_self ..)
    exact .cons (resolveInner_of_standsFor hc hs hforeign hheld)
      (ih fun next hnext => hcalls next (List.mem_cons_of_mem _ hnext))

end Context

/-! ## Prepared executions -/

namespace PreparedInstruction

variable {d : Deployment} {payer wallet caller : Key} {calls : List Call} {signers : List Key}
  {p : PreparedInstruction}

/-- The accounts in front of those that the calls refer to. -/
def executionHead (payer wallet caller vault : Key) : List AccountRef :=
  [⟨payer, true, true⟩, ⟨wallet, false, true⟩, ⟨caller, false, true⟩, ⟨vault, false, true⟩]

/-- A prepared execution holds packed calls that stand for the calls it was prepared for. -/
structure Executes (d : Deployment) (payer wallet caller : Key) (calls : List Call)
    (p : PreparedInstruction) (vault : DerivedAddress) (packed : List PackedCall)
    (batch : List UInt8) (rest : List AccountRef) : Prop where
  derived : (Recipe.vault wallet).derive d = .ok vault
  encoded : Batch.encode packed = .ok batch
  prepared : p = ⟨payer, .execute packed [], executionHead payer wallet caller vault.key ++ rest⟩
  standsFor : List.Forall₂
    (PackedCall.StandsFor (executionHead payer wallet caller vault.key) rest) calls packed

lemma executes_of_execute (h : execute d payer wallet caller calls signers = .ok p) :
    ∃ vault packed batch rest, Executes d payer wallet caller calls p vault packed batch rest := by
  simp only [execute, Recipe.address, bind_eq_ok_iff, ofRecord_eq_ok_iff, map_eq_ok_iff,
    pure_eq_ok_iff] at h
  obtain ⟨_, ⟨vault, hvault, rfl⟩, b, hb, ⟨read, _⟩, hread, rfl⟩ := h
  obtain ⟨packed, hpacked, hpacks⟩ := Batch.packs_of_pack hb
  have hreads : Batch.read b.bytes = .ok (packed, []) :=
    Batch.read_eq_ok_iff.2 ⟨b.bytes, hpacked, (List.append_nil _).symm⟩
  rw [hreads, Except.ok.injEq, Prod.mk.injEq] at hread
  obtain ⟨rfl, -⟩ := hread
  refine ⟨vault, packed, b.bytes, b.remaining ++ signerRefs signers, hvault, hpacked, ?_, ?_⟩
  · simp [executionHead]
  · exact hpacks.imp fun _ _ hp => PackedCall.standsFor_of_packs hp (signerRefs signers)

/-- The privileges of the accounts in front are enough for a call that asks no signature of the
wallet or of the caller. -/
lemma head_held {vault : Key} {a : AccountRef}
    (ha : a.signer = true → a.key ≠ wallet ∧ a.key ≠ caller) :
    ∀ r ∈ executionHead payer wallet caller vault, r.key = a.key → a.key = vault ∨ r.Grants a := by
  intro r hr hkey
  simp only [executionHead, List.mem_cons, List.not_mem_nil, or_false] at hr
  rcases hr with rfl | rfl | rfl | rfl
  · exact .inr ⟨hkey, fun _ => rfl, fun _ => rfl⟩
  · exact .inr ⟨hkey, fun hs => absurd hkey.symm (ha hs).1, fun _ => rfl⟩
  · exact .inr ⟨hkey, fun hs => absurd hkey.symm (ha hs).2, fun _ => rfl⟩
  · exact .inl hkey.symm

namespace Executes

variable {vault : DerivedAddress} {packed : List PackedCall} {batch : List UInt8}
  {rest : List AccountRef}

lemma toCall (h : Executes d payer wallet caller calls p vault packed batch rest)
    (proof : List UInt8) :
    ∃ data, (p.withProof proof).toCall d = .ok ⟨d.program, p.accounts, data⟩ ∧
      Instruction.decode d.profile data = .ok (.execute packed proof) := by
  obtain rfl := h.prepared
  have hencode : (Instruction.execute packed proof).encode d.profile =
      .ok (InstructionKind.execute.discriminator d.profile ++ (batch ++ proof)) := by
    simp only [Instruction.encode, Instruction.body, bind_eq_ok_iff, pure_eq_ok_iff]
    exact ⟨_, ⟨batch, h.encoded, rfl⟩, rfl⟩
  refine ⟨_, ?_, Instruction.decode_of_encode (by rintro q ⟨⟩) hencode⟩
  simp only [PreparedInstruction.toCall, bind_eq_ok_iff, pure_eq_ok_iff]
  exact ⟨_, hencode, rfl⟩

lemma accounts_eq (h : Executes d payer wallet caller calls p vault packed batch rest) :
    p.accounts = executionHead payer wallet caller vault.key ++ rest := by
  rw [h.prepared]

variable {c : Context} {auth : Authorization}

/-- An execution that the program prepares from the packed calls is one of the calls that the client
listed. -/
lemma dispatches (h : Executes d payer wallet caller calls p vault packed batch rest)
    (hd : c.deployment = d) (hc : c.accounts = p.accounts) {prepared : PreparedExecution}
    (hp : c.prepareExecution packed auth = .ok prepared) :
    prepared.dispatches = Call.handed wallet vault calls := by
  obtain ⟨payerRef, walletRef, callerRef, vaultRef, w, hprep⟩ :=
    Context.prepares_of_prepareExecution hp
  rw [h.accounts_eq] at hc
  have hwallet : walletRef.key = wallet := by
    have hat := hprep.walletAt
    rw [hc] at hat
    cases hat
    rfl
  have hderived := hprep.vaultDerived
  rw [hd, hwallet, h.derived, Except.ok.injEq] at hderived
  subst hderived
  rw [PreparedExecution.dispatches, Context.eq_signedBy_of_resolved hc h.standsFor hprep.resolved,
    hprep.seeds, hwallet, Call.handed, List.map_map]
  rfl

lemma exists_prepared (h : Executes d payer wallet caller calls p vault packed batch rest)
    (hd : c.deployment = d) (hc : c.accounts = p.accounts) {w : Wallet} {who : Caller}
    {delta : Delta} (hw : View.HoldsWallet c.data? d wallet w) (hbump : w.vaultBump = vault.bump)
    (hcaller : c.Calls auth payer wallet w caller who delta)
    (hcalls : ∀ call ∈ calls, call.program ≠ d.program ∧
      ∀ a ∈ call.accounts, a.signer = true → a.key ≠ wallet ∧ a.key ≠ caller) :
    ∃ prepared, c.prepareExecution packed auth = .ok prepared ∧ prepared.delta = delta := by
  rw [h.accounts_eq] at hc
  have hresolved : packed.mapM (c.resolveInner vault.key) =
      .ok (calls.map (Call.signedBy vault.key)) :=
    Context.resolved_of_standsFor hc h.standsFor fun call hcall =>
      ⟨hd ▸ (hcalls call hcall).1, fun a ha => head_held ((hcalls call hcall).2 a ha)⟩
  have hprepares : c.Prepares packed auth
      ⟨delta, ⟨who, who.policyRequired, calls.map (Call.signedBy vault.key)⟩,
        [Recipe.vaultTag, wallet.toList, [w.vaultBump]]⟩
      ⟨payer, true, true⟩ ⟨wallet, false, true⟩ ⟨caller, false, true⟩ ⟨vault.key, false, true⟩
      w := by
    refine ⟨?_, rfl, ?_, hd ▸ hw, ?_, ?_, ?_, hcaller, rfl, hresolved, rfl⟩
    · rw [hc]; rfl
    · rw [hc]; rfl
    · rw [hc]; rfl
    · rw [hc]; rfl
    · rw [hd, h.derived, hbump]
  exact ⟨_, Context.prepareExecution_of_prepares hprepares, rfl⟩

end Executes

end PreparedInstruction

namespace Ledger

lemma holdsWallet_of_loadWallet {l : Ledger} {d : Deployment} {verify : Verifier}
    {accounts : List AccountRef} {key : Key} {w : Wallet}
    (h : (l.context d verify accounts).loadWallet key = .ok w) : View.HoldsWallet l.view d key w :=
  Context.loadWallet_eq_ok_iff.1 h

lemma exists_apply_of_calls {l : Ledger} {c : Context} {auth : Authorization}
    {payer walletKey key : Key} {w : Wallet} {who : Caller} {delta : Delta}
    (h : c.Calls auth payer walletKey w key who delta) : ∃ l', l.apply delta = .ok l' := by
  refine exists_apply_of_stores ?_
  cases h with
  | authority => split <;> simp
  | session => simp

/-- An execution that a client prepares hands over exactly the calls that it was prepared for, with
the vault as a signer. It succeeds for every authorised caller, unless a call goes to the wallet
program or asks for a signature of the wallet or of the caller's account, or the host refuses. -/
theorem execution_as_prepared {d : Deployment} {payer wallet caller : Key} {calls : List Call}
    {signers : List Key} {p : PreparedInstruction}
    (h : PreparedInstruction.execute d payer wallet caller calls signers = .ok p)
    (proof : List UInt8) :
    ∃ body data vault, p.signedBody = .ok body ∧
      (p.withProof proof).toCall d = .ok ⟨d.program, p.accounts, data⟩ ∧
      (Recipe.vault wallet).derive d = .ok vault ∧
      ∀ (l : Ledger) (verify : Verifier) (dispatcher : Dispatcher),
        (∀ o, (l.process d verify dispatcher p.accounts data).result = .ok o →
          (l.process d verify dispatcher p.accounts data).log =
            ⟨Call.handed wallet vault calls, none⟩) ∧
        ∀ w who delta, View.HoldsWallet l.view d wallet w → w.vaultBump = vault.bump →
          (l.context d verify p.accounts).Calls
            ⟨InstructionKind.execute.discriminator d.profile, body, proof⟩ payer wallet w caller who
            delta →
          (∀ call ∈ calls, call.program ≠ d.program ∧
            ∀ a ∈ call.accounts, a.signer = true → a.key ≠ wallet ∧ a.key ≠ caller) →
          (DispatchLog.record dispatcher [] (Call.handed wallet vault calls)).refused = none →
          ∃ o, (l.process d verify dispatcher p.accounts data).result = .ok o := by
  obtain ⟨vault, packed, batch, rest, hexec⟩ := PreparedInstruction.executes_of_execute h
  obtain ⟨data, hdata, hdecode⟩ := hexec.toCall proof
  have hbody : p.signedBody = .ok batch := by
    rw [hexec.prepared]
    exact hexec.encoded
  refine ⟨batch, data, vault, hbody, hdata, hexec.derived, fun l verify dispatcher => ?_⟩
  have hread : (l.context d verify p.accounts).readInstruction data = .ok (.execute packed proof,
      ⟨InstructionKind.execute.discriminator d.profile, batch, proof⟩) :=
    Context.readInstruction_eq_ok_iff.2 ⟨hdecode, hexec.encoded, rfl, rfl⟩
  constructor
  · intro o ho
    obtain ⟨ix, auth, hcommits⟩ := exists_commits ho
    have hix := hcommits.read
    rw [hread, Except.ok.injEq, Prod.mk.injEq] at hix
    obtain ⟨rfl, rfl⟩ := hix
    obtain ⟨prepared, hprepared, -⟩ := Context.prepareExecution_of_perform hcommits.performed
    rw [log_process, Context.process_of_readInstruction hread,
      Context.log_of_perform hprepared hcommits.performed, hexec.dispatches rfl rfl hprepared]
  · intro w who delta hw hbump hcaller hcalls haccepted
    obtain ⟨prepared, hprepared, rfl⟩ := hexec.exists_prepared rfl rfl hw hbump hcaller hcalls
    obtain ⟨l', happly⟩ := exists_apply_of_calls (l := l) hcaller
    have hperform : ((l.context d verify p.accounts).perform dispatcher (.execute packed proof)
        ⟨InstructionKind.execute.discriminator d.profile, batch, proof⟩).2 =
          .ok ⟨.execute, prepared.delta, some prepared.plan⟩ := by
      simp only [Context.perform, hprepared, Context.dispatch,
        hexec.dispatches rfl rfl hprepared, haccepted]
    exact ⟨_, (commits_of_perform hread hperform happly).answered⟩

end Ledger

namespace Sample

/-- A transfer from the vault, which the manager signs as the payer. -/
def vaultCall : Call :=
  ⟨systemProgram, [⟨vaultKey, false, true⟩, payer, ⟨.replicate 32 7, false, true⟩], [2, 0, 0, 0]⟩

def preparedCall : PreparedInstruction :=
  ⟨payer.key, .execute [⟨4, [3, 0, 5], [.writable, .writableSigner, .writable], [2, 0, 0, 0]⟩] [],
    [payer, ⟨walletKey, false, true⟩, ⟨managerMarkerKey, false, true⟩, ⟨vaultKey, false, true⟩,
      ⟨systemProgram, false, false⟩, ⟨.replicate 32 7, false, true⟩]⟩

lemma execute_vaultCall :
    PreparedInstruction.execute default payer.key walletKey managerMarkerKey [vaultCall] [] =
      .ok preparedCall := by
  decide +kernel

def founded : Ledger := Ledger.empty.run default [founding]

/-- The manager's call is handed over with the vault as a signer, and it succeeds. -/
theorem vaultCall_handed :
    ∃ data o, preparedCall.toCall default =
        .ok ⟨(default : Deployment).program, preparedCall.accounts, data⟩ ∧
      (founded.process default .echo .acceptAll preparedCall.accounts data).result = .ok o ∧
      (founded.process default .echo .acceptAll preparedCall.accounts data).log =
        ⟨[⟨⟨systemProgram, [⟨vaultKey, true, true⟩, payer, ⟨.replicate 32 7, false, true⟩],
          [2, 0, 0, 0]⟩, [bytesOfText "vault", walletKey.toList, [255]]⟩], none⟩ := by
  obtain ⟨body, data, vault, hbody, hdata, hvault, hrun⟩ :=
    Ledger.execution_as_prepared execute_vaultCall []
  rw [derive_vault, Except.ok.injEq] at hvault
  subst hvault
  have hload : (founded.context default .echo preparedCall.accounts).loadWallet walletKey =
    .ok foundedWallet := by
    rw [founded, run_founding]
    decide +kernel
  have hcaller : (founded.context default .echo preparedCall.accounts).Calls
      ⟨InstructionKind.execute.discriminator .compact, body, []⟩ payer.key walletKey foundedWallet
      managerMarkerKey (.authority 0 .owner false) [] :=
    Context.calls_of_authorizeCaller rfl (by cases hbody; decide +kernel)
  obtain ⟨hlog, hsucceeds⟩ := hrun founded .echo .acceptAll
  obtain ⟨o, ho⟩ := hsucceeds _ _ _ (Ledger.holdsWallet_of_loadWallet hload) rfl hcaller
    (by decide) (by decide)
  exact ⟨data, o, hdata, ho, hlog o ho⟩

end Sample

end SmartWallet
