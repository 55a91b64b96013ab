import SmartWallet.Proofs.Derivation
import SmartWallet.Proofs.Effects

/-!
# What an execution hands over

Every call of a batch is handed over with the accounts that its indexes stand for. The vault signs
in all of them; any other account signs, or may be written, only if the outer account at the very
same index may. Whether the vault may be written is left to the call.
-/

namespace SmartWallet

/-- An account as it is handed over, for the outer account at its index and the role that the call
asks for. -/
inductive AccountRef.Promoted (vault : Key) (role : AccountRole) (outer : AccountRef) :
    AccountRef → Prop
  | vault (isVault : outer.key = vault) :
      Promoted vault role outer ⟨outer.key, true, role.isWritable⟩
  | held (notVault : outer.key ≠ vault) (signs : role.isSigner = true → outer.signer = true)
      (writes : role.isWritable = true → outer.writable = true) :
      Promoted vault role outer (role.toRef outer.key)

/-- A call as it is handed over, for the packed call and the outer accounts. -/
structure PackedCall.HandedOverAs (packed : PackedCall) (outer : List AccountRef)
    (caller vault : Key) (call : Call) : Prop where
  program : (outer[packed.program.toNat]?).map AccountRef.key = some call.program
  foreign : call.program ≠ caller
  accounts : List.Forall₂
    (fun (entry : UInt8 × AccountRole) inner => ∃ r, outer[entry.1.toNat]? = some r ∧
      AccountRef.Promoted vault entry.2 r inner)
    (packed.accounts.zip packed.roles) call.accounts
  data : call.data = packed.data

namespace AccountRef.Promoted

variable {vault : Key} {role : AccountRole} {outer inner : AccountRef}

lemma key_eq (h : Promoted vault role outer inner) : inner.key = outer.key := by
  cases h <;> rfl

lemma writable_eq (h : Promoted vault role outer inner) :
    inner.writable = role.isWritable := by
  cases h <;> rfl

lemma signs_of_vault (h : Promoted vault role outer inner) (hkey : inner.key = vault) :
    inner.signer = true := by
  cases h with
  | vault => rfl
  | held notVault => exact absurd hkey notVault

lemma signer_held (h : Promoted vault role outer inner) (hsigns : inner.signer = true) :
    outer.signer = true ∨ inner.key = vault := by
  cases h with
  | vault isVault => exact .inr isVault
  | held _ signs => exact .inl (signs hsigns)

lemma writable_held (h : Promoted vault role outer inner) (hkey : inner.key ≠ vault)
    (hwrites : inner.writable = true) : outer.writable = true := by
  cases h with
  | vault isVault => exact absurd isVault hkey
  | held _ _ writes => exact writes hwrites

end AccountRef.Promoted

/-- What holds of every promoted account holds at every index of the call. -/
lemma PackedCall.HandedOverAs.forall_index {packed : PackedCall} {outer : List AccountRef}
    {caller vault : Key} {call : Call} {P : UInt8 → AccountRef → Prop}
    (h : packed.HandedOverAs outer caller vault call)
    (hroles : packed.roles.length = packed.accounts.length)
    (hP : ∀ index role r inner, outer[index.toNat]? = some r →
      AccountRef.Promoted vault role r inner → P index inner) :
    List.Forall₂ P packed.accounts call.accounts := by
  have hentries : List.Forall₂ (fun (entry : UInt8 × AccountRole) inner => P entry.1 inner)
      (packed.accounts.zip packed.roles) call.accounts :=
    h.accounts.imp fun entry inner ⟨r, hr, hinner⟩ => hP entry.1 entry.2 r inner hr hinner
  rw [← List.forall₂_map_left_iff, List.map_fst_zip hroles.ge] at hentries
  exact hentries

lemma DispatchLog.record_of_refused_eq_none {dispatcher : Dispatcher}
    {accepted rest : List Dispatch} (h : (record dispatcher accepted rest).refused = none) :
    record dispatcher accepted rest = ⟨accepted ++ rest, none⟩ := by
  induction rest generalizing accepted with
  | nil => simp [record]
  | cons d rest ih =>
    unfold record at h ⊢
    split
    · next hd =>
      rw [if_pos hd] at h
      rw [ih h, List.append_assoc]
      rfl
    · next hd =>
      rw [if_neg hd] at h
      cases h

namespace Context

variable {c : Context} {vault : Key}

lemma promoted_of_promote {role : AccountRole} {outer inner : AccountRef}
    (h : promote vault (role.toRef outer.key) outer = .ok inner) :
    AccountRef.Promoted vault role outer inner := by
  unfold promote at h
  split at h
  · next hkey =>
    cases h
    exact .vault hkey
  · next hkey =>
    split at h
    · cases h
    · next hheld =>
      cases h
      simp only [AccountRole.toRef, Bool.or_eq_true, Bool.and_eq_true, Bool.not_eq_true', not_or,
        not_and, Bool.not_eq_false] at hheld
      exact .held hkey hheld.1 hheld.2

/-- Both passes over the accounts of a call look at the same index for the same role. -/
lemma promoted_of_zip {outer refs inners : List AccountRef} {indexes : List UInt8}
    {roles : List AccountRole}
    (hrefs : List.Forall₂ (fun (entry : UInt8 × AccountRole) ref =>
      ∃ r, outer[entry.1.toNat]? = some r ∧ entry.2.toRef r.key = ref) (indexes.zip roles) refs)
    (hinners : List.Forall₂ (fun (entry : AccountRef × UInt8) inner =>
      ∃ r, outer[entry.2.toNat]? = some r ∧ promote vault entry.1 r = .ok inner)
      (refs.zip indexes) inners) :
    List.Forall₂ (fun (entry : UInt8 × AccountRole) inner =>
      ∃ r, outer[entry.1.toNat]? = some r ∧ AccountRef.Promoted vault entry.2 r inner)
      (indexes.zip roles) inners := by
  -- one list of indexes drives both passes, zipped with roles in the first and behind in the second
  induction indexes generalizing roles refs inners with
  | nil =>
    simp only [List.zip_nil_left, List.zip_nil_right, List.forall₂_nil_left_iff] at hinners ⊢
    exact hinners
  | cons i indexes ih =>
    cases roles with
    | nil =>
      cases hrefs
      cases hinners
      exact .nil
    | cons role roles =>
      obtain ⟨ref, refs, ⟨r, hr, rfl⟩, hrefs', rfl⟩ := List.forall₂_cons_left_iff.1 hrefs
      obtain ⟨inner, inners, ⟨r', hr', hinner⟩, hinners', rfl⟩ :=
        List.forall₂_cons_left_iff.1 hinners
      simp only [hr, Option.some.injEq] at hr'
      subst hr'
      exact .cons ⟨r, hr, promoted_of_promote hinner⟩ (ih hrefs' hinners')

lemma handedOverAs_of_resolveInner {packed : PackedCall} {call : Call}
    (h : c.resolveInner vault packed = .ok call) :
    packed.HandedOverAs c.accounts c.deployment.program vault call := by
  simp only [resolveInner, PackedCall.resolve, bind_eq_ok_iff, orError_eq_ok_iff, ensure_eq_ok,
    exists_const, pure_eq_ok_iff, mapM_eq_ok_iff, map_eq_ok_iff, account_eq_ok_iff] at h
  obtain ⟨_, ⟨program, hprogram, refs, hrefs, rfl⟩, hforeign, inners, hinners, rfl⟩ := h
  exact ⟨by rw [hprogram]; rfl, hforeign, promoted_of_zip hrefs hinners, rfl⟩

lemma process_of_readInstruction {dispatcher : Dispatcher} {data : List UInt8}
    {ix : Instruction} {auth : Authorization} (h : c.readInstruction data = .ok (ix, auth)) :
    c.process dispatcher data = c.perform dispatcher ix auth := by
  rw [process, h]

lemma log_of_perform {dispatcher : Dispatcher} {calls : List PackedCall} {proof : List UInt8}
    {auth : Authorization} {p : PreparedExecution} {o : Outcome}
    (hp : c.prepareExecution calls auth = .ok p)
    (h : (c.perform dispatcher (.execute calls proof) auth).2 = .ok o) :
    (c.perform dispatcher (.execute calls proof) auth).1 = ⟨p.dispatches, none⟩ := by
  simp only [perform, hp, dispatch] at h ⊢
  cases hrefused : (DispatchLog.record dispatcher [] p.dispatches).refused with
  | none => exact DispatchLog.record_of_refused_eq_none hrefused
  | some d => simp [hrefused] at h

end Context

variable {l : Ledger} {d : Deployment} {verify : Verifier} {dispatcher : Dispatcher}
  {accounts : List AccountRef} {data : List UInt8} {o : Outcome}

namespace Ledger

/-- What a successful execution hands over, call by call. -/
theorem handedOver_of_process (h : (l.process d verify dispatcher accounts data).result = .ok o)
    (hkind : o.kind = .execute) :
    ∃ calls proof wallet vault,
      Instruction.decode d.profile data = .ok (.execute calls proof) ∧
      accounts[1]? = some wallet ∧
      (Recipe.vault wallet.key).derive d = .ok vault ∧
      (l.process d verify dispatcher accounts data).log.refused = none ∧
      List.Forall₂ (fun packed handed => packed.roles.length = packed.accounts.length ∧
          packed.HandedOverAs accounts d.program vault.key handed.call ∧
          handed.seeds = [Recipe.vaultTag, wallet.key.toList, [vault.bump]])
        calls (l.process d verify dispatcher accounts data).log.accepted := by
  obtain ⟨ix, auth, hc⟩ := exists_commits h
  obtain ⟨hdecode, hbody, -, -⟩ := Context.readInstruction_eq_ok_iff.1 hc.read
  have hix := (Context.performs_of_perform hc.performed).1
  rw [hkind] at hix
  cases ix with
  | execute calls proof =>
    obtain ⟨p, hp, -⟩ := Context.prepareExecution_of_perform hc.performed
    obtain ⟨payer, wallet, caller, vault, w, hprep⟩ := Context.prepares_of_prepareExecution hp
    have hlog : (l.process d verify dispatcher accounts data).log = ⟨p.dispatches, none⟩ := by
      rw [log_process, Context.process_of_readInstruction hc.read,
        Context.log_of_perform hp hc.performed]
    refine ⟨calls, proof, wallet, ⟨vault.key, w.vaultBump⟩, hdecode, hprep.walletAt,
      hprep.vaultDerived, by rw [hlog], ?_⟩
    rw [hlog, List.forall₂_and_left]
    refine ⟨Batch.length_roles_of_encode hbody, ?_⟩
    rw [PreparedExecution.dispatches, List.forall₂_map_right_iff]
    refine (mapM_eq_ok_iff.1 hprep.resolved).imp fun packed call hcall => ?_
    exact ⟨Context.handedOverAs_of_resolveInner hcall, hprep.seeds⟩
  | _ => cases hix

/-- Every call of a successful execution goes to the program at its packed index, which is not the
wallet program, with the keys at its packed indexes. An account signs only if the outer account at
its index does or if it is the wallet's vault, which always signs, by seeds that create it. -/
theorem signers_not_escalated
    (h : (l.process d verify dispatcher accounts data).result = .ok o)
    (hkind : o.kind = .execute) :
    ∃ calls proof wallet vault,
      Instruction.decode d.profile data = .ok (.execute calls proof) ∧
      accounts[1]? = some wallet ∧ (Recipe.vault wallet.key).derive d = .ok vault ∧
      Address.create .ed25519 [bytesOfText "vault", wallet.key.toList, [vault.bump]] d.program =
        .ok vault.key ∧
      (l.process d verify dispatcher accounts data).log.refused = none ∧
      List.Forall₂ (fun packed handed =>
          (accounts[packed.program.toNat]?).map AccountRef.key = some handed.call.program ∧
          handed.call.program ≠ d.program ∧ handed.call.data = packed.data ∧
          handed.seeds = [bytesOfText "vault", wallet.key.toList, [vault.bump]] ∧
          List.Forall₂ (fun index inner => ∃ r, accounts[index.toNat]? = some r ∧
              inner.key = r.key ∧ (inner.signer = true → r.signer = true ∨ inner.key = vault.key) ∧
              (inner.key = vault.key → inner.signer = true))
            packed.accounts handed.call.accounts)
        calls (l.process d verify dispatcher accounts data).log.accepted := by
  obtain ⟨calls, proof, wallet, vault, hdecode, hwallet, hvault, hrefused, hcalls⟩ :=
    handedOver_of_process h hkind
  refine ⟨calls, proof, wallet, vault, hdecode, hwallet, hvault, Recipe.create_of_derive hvault,
    hrefused, hcalls.imp ?_⟩
  rintro packed handed ⟨hroles, hcall, hseeds⟩
  refine ⟨hcall.program, hcall.foreign, hcall.data, hseeds, hcall.forall_index hroles ?_⟩
  intro index role r inner hr hinner
  exact ⟨r, hr, hinner.key_eq, hinner.signer_held, hinner.signs_of_vault⟩

end Ledger

namespace Sample

/-- The accounts of an execution by the manager. The vault is read-only, and the payer comes a
second time without its privileges. -/
def handoverAccounts : List AccountRef :=
  [payer, ⟨walletKey, false, true⟩, ⟨managerMarkerKey, false, false⟩, ⟨vaultKey, false, false⟩,
    ⟨systemProgram, false, false⟩, ⟨payer.key, false, false⟩]

/-- One call of the system program, with the vault as a writable account, the payer as a writable
signer and the payer again as neither. -/
def handover : List UInt8 :=
  InstructionKind.execute.number :: [1, 4, 3, 3, 0, 5, 1, 3, 0, 0, 0]

def handed : Dispatch :=
  ⟨⟨systemProgram, [⟨vaultKey, true, true⟩, payer, ⟨payer.key, false, false⟩], []⟩,
    [bytesOfText "vault", walletKey.toList, [255]]⟩

abbrev processHandover : Processed :=
  (Ledger.empty.run default [founding]).process default .echo .acceptAll handoverAccounts handover

lemma processed_handover :
    processHandover.result.map Outcome.kind = .ok .execute ∧
      processHandover.log = ⟨[handed], none⟩ := by
  rw [processHandover, run_founding]
  decide +kernel

/-- The manager's call has no signers but the payer and the vault. -/
theorem signers_of_handover :
    ∃ o packed proof, processHandover.result = .ok o ∧ o.kind = .execute ∧
      Instruction.decode .compact handover = .ok (.execute [packed] proof) ∧
      processHandover.log.accepted = [handed] ∧
      Address.create .ed25519 handed.seeds (default : Deployment).program = .ok vaultKey ∧
      List.Forall₂ (fun index inner => ∃ r, handoverAccounts[index.toNat]? = some r ∧
          (inner.signer = true → r.signer = true ∨ inner.key = vaultKey))
        packed.accounts handed.call.accounts := by
  obtain ⟨o, ho, hkind⟩ := map_eq_ok_iff.1 processed_handover.1
  obtain ⟨calls, proof, wallet, vault, hdecode, hwallet, hvault, hcreate, -, hcalls⟩ :=
    Ledger.signers_not_escalated ho hkind
  cases hwallet
  rw [derive_vault] at hvault
  cases hvault
  simp only [processed_handover.2] at hcalls
  obtain ⟨packed, rest, ⟨-, -, -, -, hinners⟩, hrest, rfl⟩ :=
    List.forall₂_cons_right_iff.1 hcalls
  cases hrest
  exact ⟨o, packed, proof, ho, hkind, hdecode, by rw [processed_handover.2], hcreate,
    hinners.imp fun index inner ⟨r, hr, _, hsigner, _⟩ => ⟨r, hr, hsigner⟩⟩

end Sample

namespace Ledger

/-- An account that a successful execution hands over is writable exactly if the call asks for it,
and, except for the wallet's vault, only if the outer account at its index is. -/
theorem writables_held_except_vault
    (h : (l.process d verify dispatcher accounts data).result = .ok o)
    (hkind : o.kind = .execute) :
    ∃ calls proof wallet vault,
      Instruction.decode d.profile data = .ok (.execute calls proof) ∧
      accounts[1]? = some wallet ∧ (Recipe.vault wallet.key).derive d = .ok vault ∧
      (l.process d verify dispatcher accounts data).log.refused = none ∧
      List.Forall₂ (fun packed handed => packed.roles.length = packed.accounts.length ∧
          List.Forall₂ (fun (entry : UInt8 × AccountRole) inner =>
              ∃ r, accounts[entry.1.toNat]? = some r ∧ inner.key = r.key ∧
                inner.writable = entry.2.isWritable ∧
                (inner.key ≠ vault.key → inner.writable = true → r.writable = true))
            (packed.accounts.zip packed.roles) handed.call.accounts)
        calls (l.process d verify dispatcher accounts data).log.accepted := by
  obtain ⟨calls, proof, wallet, vault, hdecode, hwallet, hvault, hrefused, hcalls⟩ :=
    handedOver_of_process h hkind
  refine ⟨calls, proof, wallet, vault, hdecode, hwallet, hvault, hrefused, hcalls.imp ?_⟩
  rintro packed handed ⟨hroles, hcall, -⟩
  refine ⟨hroles, hcall.accounts.imp ?_⟩
  rintro entry inner ⟨r, hr, hinner⟩
  exact ⟨r, hr, hinner.key_eq, hinner.writable_eq, hinner.writable_held⟩

end Ledger

namespace Sample

/-- The manager's call may write to the payer, whom the outer account lets it write to, and to the
vault. -/
theorem writables_of_handover :
    ∃ o packed proof, processHandover.result = .ok o ∧ o.kind = .execute ∧
      Instruction.decode .compact handover = .ok (.execute [packed] proof) ∧
      processHandover.log.accepted = [handed] ∧
      List.Forall₂ (fun (entry : UInt8 × AccountRole) inner =>
          ∃ r, handoverAccounts[entry.1.toNat]? = some r ∧ inner.writable = entry.2.isWritable ∧
            (inner.key ≠ vaultKey → inner.writable = true → r.writable = true))
        (packed.accounts.zip packed.roles) handed.call.accounts := by
  obtain ⟨o, ho, hkind⟩ := map_eq_ok_iff.1 processed_handover.1
  obtain ⟨calls, proof, wallet, vault, hdecode, hwallet, hvault, -, hcalls⟩ :=
    Ledger.writables_held_except_vault ho hkind
  cases hwallet
  rw [derive_vault] at hvault
  cases hvault
  simp only [processed_handover.2] at hcalls
  obtain ⟨packed, rest, ⟨-, hinners⟩, hrest, rfl⟩ :=
    List.forall₂_cons_right_iff.1 hcalls
  cases hrest
  exact ⟨o, packed, proof, ho, hkind, hdecode, by rw [processed_handover.2],
    hinners.imp fun entry inner ⟨r, hr, _, hasked, hheld⟩ => ⟨r, hr, hasked, hheld⟩⟩

/-- The vault is handed over writable although the outer account is read-only. -/
theorem vault_made_writable :
    ∃ o packed proof, processHandover.result = .ok o ∧ o.kind = .execute ∧
      Instruction.decode .compact handover = .ok (.execute [packed] proof) ∧
      processHandover.log.accepted = [handed] ∧ packed.accounts[0]? = some 3 ∧
      handed.call.accounts[0]? = some ⟨vaultKey, true, true⟩ ∧
      handoverAccounts[3]? = some ⟨vaultKey, false, false⟩ := by
  obtain ⟨o, ho, hkind⟩ := map_eq_ok_iff.1 processed_handover.1
  exact ⟨o, ⟨4, [3, 0, 5], [.writable, .writableSigner, .readonly], []⟩, [], ho, hkind,
    by decide +kernel, by rw [processed_handover.2], rfl, rfl, rfl⟩

end Sample

end SmartWallet
