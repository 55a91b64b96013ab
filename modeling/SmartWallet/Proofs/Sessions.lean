import SmartWallet.Proofs.Containment
import SmartWallet.Proofs.Execution
import SmartWallet.Proofs.Vacancy

/-!
# Sessions after their opener is gone

A session names its opener by id and seed, and it works as long as some manager of the wallet has
both. Ids are given again, so that removing the opener, or giving its entry to other keys, ends the
session only until an entry with the same id and seed is registered as a manager.
-/

namespace SmartWallet

namespace Context

variable {c : Context} {auth : Authorization} {ix : Instruction} {delta : Delta} {e : EntryRef}
  {a : Authority} {w : Wallet}

/-- A removal leaves nothing under the id of the entry; a transfer of the ownership leaves the new
owner. -/
lemma Performs.entry_of_reset (hp : c.Performs auth ix delta)
    (hvisible : ∀ key, c.isVacant key = true → c.data? key = none) (hix : ix.WellFormed)
    (hreset : c.reset? ix = some e)
    (ha : Records.authorityAt? (View.record? (delta.shown c.data?)) e = some a) :
    ∃ p proof, ix = .transferOwnership p proof ∧ a = ⟨e.id, .owner, p.seed, 0, p.credential⟩ := by
  cases hp with
  | @removeAuthority proof s target refund x removed counted shrunk htargetAt _ _ hacts hnamed _ _
      hcounts hremoves =>
    obtain rfl : ⟨s.wallet.key, x.id⟩ = e :=
      Option.some.inj ((named?_of_names htargetAt hnamed).symm.trans hreset)
    have hcounted := hacts.wellFormed_counted hcounts
    obtain ⟨bump, htarget⟩ := hnamed.record
    have hne : s.wallet.key ≠ target.key :=
      Records.ne_of_record_ne hacts.holds.record htarget (by simp)
    rw [View.record?_removal (hcounted.remove hremoves), Records.authorityAt?_of_wallet
      (by rw [Function.update_of_ne hne, Function.update_self]),
      Wallet.authority?_remove hcounted hremoves, if_pos rfl] at ha
    cases ha
  | @transferOwnership p proof s marker counted moved old hacts _ hrole _ _ hcounts hreplaces
      hvacant =>
    obtain rfl : ⟨s.wallet.key, s.entry.id⟩ = e :=
      Option.some.inj ((named?_of_names hacts.marker hacts.named).symm.trans hreset)
    have hcounted := hacts.wellFormed_counted hcounts
    have hid := hacts.id_of_replaceOwner hrole hcounts hreplaces
    obtain ⟨bump, hmarker⟩ := hacts.named.record
    have hne : s.wallet.key ≠ s.marker.key :=
      Records.ne_of_record_ne hacts.holds.record hmarker (by simp)
    have hmarkerKey : s.wallet.key ≠ marker.key := by
      rcases hvacant with hv | hv
      · rwa [hv]
      · exact Records.ne_of_record_ne hacts.holds.record
          (View.record?_of_vacant (hvisible _ hv)) (by simp)
    rw [View.record?_transfer (hcounted.replaceOwner (hix.enrolled p rfl).compressed hreplaces),
      Records.authorityAt?_of_wallet (by rw [Function.update_of_ne hmarkerKey,
        Function.update_of_ne hne, Function.update_self]),
      Wallet.authority?_replaceOwner hcounted hreplaces, if_pos hid.symm, hid] at ha
    exact ⟨p, proof, rfl, (Option.some.inj ha).symm⟩
  | _ => cases hreset

lemma Performs.wallet_of_reset (hp : c.Performs auth ix delta) (hreset : c.reset? ix = some e) :
    ∃ w, View.record? c.data? e.wallet = some (.wallet w) := by
  cases hp with
  | @removeAuthority proof s target refund x removed counted shrunk htargetAt _ _ hacts hnamed =>
    obtain rfl : ⟨s.wallet.key, x.id⟩ = e :=
      Option.some.inj ((named?_of_names htargetAt hnamed).symm.trans hreset)
    exact ⟨_, hacts.holds.record⟩
  | @transferOwnership p proof s marker counted moved old hacts =>
    obtain rfl : ⟨s.wallet.key, s.entry.id⟩ = e :=
      Option.some.inj ((named?_of_names hacts.marker hacts.named).symm.trans hreset)
    exact ⟨_, hacts.holds.record⟩
  | _ => cases hreset

lemma Performs.entry_of_new (hp : c.Performs auth ix delta)
    (hvisible : ∀ key, c.isVacant key = true → c.data? key = none) (hix : ix.WellFormed)
    (hw : View.record? c.data? e.wallet = some (.wallet w)) (hnew : w.authority? e.id = none)
    (ha : Records.authorityAt? (View.record? (delta.shown c.data?)) e = some a) :
    ∃ role p proof, ix = .addAuthority role p proof ∧
      a = ⟨e.id, role, p.seed, 0, p.credential⟩ := by
  rcases hp.wallet_cases hvisible hix hw with hsame | ⟨s, counted, w', halters, hkey, rfl, hw'⟩
  · rw [Records.authorityAt?_of_wallet hsame, hnew] at ha
    cases ha
  · have hcounted := halters.acts.wellFormed_counted halters.counts
    have hnone := halters.acts.none_counted halters.counts hnew
    rw [Records.authorityAt?_of_wallet hw'] at ha
    have haltered := halters.altered
    cases ix with
    | createWallet => exact haltered.elim
    | addAuthority role p proof =>
      obtain ⟨-, id, hinserts⟩ := haltered
      rw [(Wallet.authority?_insert hcounted hinserts).2] at ha
      split at ha
      · next hid =>
        rw [Option.some.injEq, ← hid] at ha
        exact ⟨role, p, proof, rfl, ha.symm⟩
      · rw [hnone] at ha
        cases ha
    | removeAuthority proof =>
      obtain ⟨x, -, hremoves⟩ := haltered
      rw [Wallet.authority?_remove hcounted hremoves] at ha
      split at ha
      · cases ha
      · rw [hnone] at ha
        cases ha
    | transferOwnership p proof =>
      obtain ⟨-, old, hreplaces⟩ := haltered
      rw [Wallet.authority?_replaceOwner hcounted hreplaces] at ha
      split at ha
      · next hid =>
        -- the owner has been there before
        have howner := hcounted.mem_iff.1
          (List.mem_of_find?_eq_some (Wallet.replaceOwner_eq_ok_iff.1 hreplaces).1)
        rw [← hid, hnone] at howner
        cases howner
      · rw [hnone] at ha
        cases ha
    | execute | createSession =>
      rw [show w' = counted from haltered, hnone] at ha
      cases ha

end Context

/-! ## Steps and runs -/

namespace Ledger

variable (d : Deployment) {l : Ledger} {e : EntryRef} {a : Authority} {w : Wallet}
  {steps : List Step}

/-- The role and the key material that a successful addition or transfer registers. -/
def registers? (l : Ledger) : Step → Option (Role × AuthorityPayload)
  | .submit verify dispatcher accounts data =>
    match (l.process d verify dispatcher accounts data).result,
      Instruction.decode d.profile data with
    | .ok _, .ok (.addAuthority role p _) => some (role, p)
    | .ok _, .ok (.transferOwnership p _) => some (.owner, p)
    | _, _ => none
  | _ => none

/-- An addition or a transfer gives an entry its role and its key material: an entry that was not
there, or that the transfer resets. -/
structure Registers (l : Ledger) (s : Step) (e : EntryRef) (role : Role) (p : AuthorityPayload) :
    Prop where
  registered : l.registers? d s = some (role, p)
  before : l.authorityAt? e = none ∨ l.reset? d s = some e
  after : (l.step d s).authorityAt? e = some ⟨e.id, role, p.seed, 0, p.credential⟩

variable {d}

/-- An entry has its role and its seed from before, or it is just being registered with them. -/
lemma entry_of_step {s : Step} (hw : l.view.record? e.wallet = some (.wallet w))
    (ha : (l.step d s).authorityAt? e = some a) :
    (l.reset? d s ≠ some e ∧ ∃ b, l.authorityAt? e = some b ∧ b.role = a.role ∧ b.seed = a.seed) ∨
      ∃ p, p.seed = a.seed ∧ l.Registers d s e a.role p := by
  cases s with
  | submit verify dispatcher accounts data =>
    cases h : (l.process d verify dispatcher accounts data).result with
    | error e =>
      rw [step, ledger_of_error h] at ha
      exact .inl ⟨by simp [reset?, h], a, ha, rfl, rfl⟩
    | ok o =>
      obtain ⟨ix, auth, hc⟩ := exists_commits h
      have hdecode : Instruction.decode d.profile data = .ok ix :=
        (Context.readInstruction_eq_ok_iff.1 hc.read).1
      have hix := Instruction.wellFormed_of_decode hdecode
      have hreset : l.reset? d (.submit verify dispatcher accounts data) =
          (l.context d verify accounts).reset? ix := by
        simp only [reset?, h, hc.read]
      have hshown : Records.authorityAt? (View.record? (o.delta.shown l.view)) e = some a := by
        rwa [← hc.view_eq]
      by_cases hsame : (l.context d verify accounts).reset? ix = some e
      · obtain ⟨p, proof, rfl, rfl⟩ :=
          hc.performs.entry_of_reset (fun _ => view_of_isVacant) hix hsame hshown
        exact .inr ⟨p, rfl, by simp only [registers?, h, hdecode], .inr (hreset.trans hsame), ha⟩
      · cases hold : l.authorityAt? e with
        | some b =>
          have hafter := (becomes_step (.submit verify dispatcher accounts data)).entry hold
            (hreset ▸ hsame)
          obtain rfl := Option.some.inj (hafter.symm.trans ha)
          exact .inl ⟨hreset ▸ hsame, b, rfl, rfl, rfl⟩
        | none =>
          have hnew : w.authority? e.id = none := by
            rwa [authorityAt?, Records.authorityAt?_of_wallet hw] at hold
          obtain ⟨role, p, proof, rfl, rfl⟩ :=
            hc.performs.entry_of_new (fun _ => view_of_isVacant) hix hw hnew hshown
          exact .inr ⟨p, rfl, by simp only [registers?, h, hdecode], .inl hold, ha⟩
  | setSlot slot => exact .inl ⟨(Option.some_ne_none e).symm, a, ha, rfl, rfl⟩
  | warp slots => exact .inl ⟨(Option.some_ne_none e).symm, a, ha, rfl, rfl⟩
  | setLamports key lamports =>
    rw [step, authorityAt?, view_setLamports] at ha
    exact .inl ⟨(Option.some_ne_none e).symm, a, ha, rfl, rfl⟩

lemma wallet_of_reset {s : Step} (h : l.reset? d s = some e) :
    ∃ w, l.view.record? e.wallet = some (.wallet w) := by
  cases s with
  | submit verify dispatcher accounts data =>
    cases hresult : (l.process d verify dispatcher accounts data).result with
    | error e => simp [reset?, hresult] at h
    | ok o =>
      obtain ⟨ix, auth, hc⟩ := exists_commits hresult
      simp only [reset?, hresult, hc.read] at h
      exact hc.performs.wallet_of_reset h
  | setSlot slot => cases h
  | warp slots => cases h
  | setLamports key lamports => cases h

/-- An execution through a session needs a manager with the opener's id and seed. -/
lemma opener_of_process {key : Key} {t : SessionRecord} {verify : Verifier}
    {dispatcher : Dispatcher} {accounts : List AccountRef} {data : List UInt8} {o : Outcome}
    (hsession : l.view.record? key = some (.session t))
    (hcaller : accounts[2]?.map AccountRef.key = some key)
    (hresult : (l.process d verify dispatcher accounts data).result = .ok o)
    (hkind : o.kind = .execute) :
    ∃ a, l.authorityAt? ⟨t.wallet, t.authorizerId⟩ = some a ∧ a.seed = t.authorizerSeed ∧
      a.role.manages = true := by
  obtain ⟨ix, auth, hc⟩ := exists_commits hresult
  have hix : ix.kind = .execute := (Context.performs_of_perform hc.performed).1.symm.trans hkind
  have hperforms := hc.performs
  generalize o.delta = delta at hperforms
  cases hperforms with
  | @execute calls proof p payer wallet caller vault w hprepares =>
    obtain ⟨r, hr, rfl⟩ := Option.map_eq_some_iff.1 hcaller
    obtain rfl : r = caller := Option.some.inj (hr.symm.trans hprepares.callerAt)
    have hauthorized := hprepares.authorized
    generalize p.plan.caller = who, p.delta = writes at hauthorized
    cases hauthorized with
    | @authority a outcome counted named authenticated counts =>
      obtain ⟨bump, hrecord⟩ := named.record
      cases hsession.symm.trans hrecord
    | @session s record hwallet derived live opener signs =>
      cases hsession.symm.trans record
      obtain ⟨a, ha, hseed, hmanages⟩ := opener
      refine ⟨a, Records.authorityAt?_eq_some_iff.2 ⟨w, ?_, ha⟩, hseed, hmanages⟩
      rw [hwallet]
      exact hprepares.holds.record
  | _ => cases hix

lemma wallet_of_step {key : Key} {s : Step} (hw : l.view.record? key = some (.wallet w)) :
    ∃ w', (l.step d s).view.record? key = some (.wallet w') := by
  cases s with
  | submit verify dispatcher accounts data =>
    rcases l.step_submit_cases with hsame | ⟨ix, auth, o, hc⟩
    · exact ⟨w, by rw [hsame, hw]⟩
    · have hix := Instruction.wellFormed_of_decode (Context.readInstruction_eq_ok_iff.1 hc.read).1
      rw [hc.view_eq]
      rcases hc.performs.wallet_cases (fun _ => view_of_isVacant) hix hw with
        hsame | ⟨s, counted, w', -, -, -, hw'⟩
      · exact ⟨w, hsame⟩
      · exact ⟨w', hw'⟩
  | setSlot slot => exact ⟨w, hw⟩
  | warp slots => exact ⟨w, hw⟩
  | setLamports key lamports => exact ⟨w, by rwa [step, view_setLamports]⟩

/-- Where an entry ends up with a role and a seed, it has had them all along, or some step of the
run has registered it with them. -/
theorem entry_of_run_cases (hw : l.view.record? e.wallet = some (.wallet w))
    (ha : (l.run d steps).authorityAt? e = some a) :
    (e ∉ l.resets d steps ∧ ∃ b, l.authorityAt? e = some b ∧ b.role = a.role ∧ b.seed = a.seed) ∨
      ∃ earlier s later p, steps = earlier ++ s :: later ∧ p.seed = a.seed ∧
        (l.run d earlier).Registers d s e a.role p := by
  induction steps generalizing l w with
  | nil => exact .inl ⟨List.not_mem_nil, a, ha, rfl, rfl⟩
  | cons s rest ih =>
    -- the rest of the run goes first, so that the registration found is the last one
    obtain ⟨w', hw'⟩ := wallet_of_step (d := d) (s := s) hw
    rcases ih hw' ha with ⟨hkept, b, hb, hrole, hseed⟩ | ⟨earlier, s', later, p, rfl, hp, h⟩
    · rcases entry_of_step hw hb with ⟨hreset, x, hx, hxrole, hxseed⟩ | ⟨p, hp, h⟩
      · refine .inl ⟨?_, x, hx, hxrole.trans hrole, hxseed.trans hseed⟩
        rw [resets_cons, List.mem_append, Option.mem_toList, not_or]
        exact ⟨hreset, hkept⟩
      · exact .inr ⟨[], s, rest, p, rfl, hp.trans hseed, hrole ▸ h⟩
    · exact .inr ⟨s :: earlier, s', later, p, rfl, hp, h⟩

lemma exists_opens_of_session {key : Key} {t : SessionRecord}
    (h : (l.run d steps).view.record? key = some (.session t)) :
    l.view.record? key = some (.session t) ∨
      ∃ earlier verify dispatcher accounts data later ix auth o l',
        steps = earlier ++ .submit verify dispatcher accounts data :: later ∧
        (l.run d earlier).Commits d verify dispatcher accounts data ix auth o l' ∧
        ((l.run d earlier).context d verify accounts).Opens auth ix key t := by
  induction steps generalizing l with
  | nil => exact .inl h
  | cons s rest ih =>
    rcases ih h with hmid | ⟨earlier, verify, dispatcher, accounts, data, later, ix, auth, o, l',
      rfl, hc, hopens⟩
    · cases s with
      | submit verify dispatcher accounts data =>
        rcases l.step_submit_cases with hsame | ⟨ix, auth, o, hc⟩
        · exact .inl (by rwa [hsame] at hmid)
        · have hix :=
            Instruction.wellFormed_of_decode (Context.readInstruction_eq_ok_iff.1 hc.read).1
          rw [hc.view_eq] at hmid
          rcases hc.performs.stored_cases hix hmid with hold | hstores
          · exact .inl hold
          · cases hstores with
            | opening wallet opens =>
              exact .inr ⟨[], verify, dispatcher, accounts, data, rest, ix, auth, o, _, rfl, hc,
                opens⟩
      | setSlot slot => exact .inl hmid
      | warp slots => exact .inl hmid
      | setLamports key lamports => exact .inl (by rwa [step, view_setLamports] at hmid)
    · exact .inr ⟨s :: earlier, verify, dispatcher, accounts, data, later, ix, auth, o, l', rfl, hc,
        hopens⟩

/-- Every session of a run from an empty ledger was opened by the entry that its record names. -/
theorem session_opened {key : Key} {t : SessionRecord}
    (h : (empty.run d steps).view.record? key = some (.session t)) :
    ∃ earlier verify dispatcher accounts data later ix auth o l',
      steps = earlier ++ .submit verify dispatcher accounts data :: later ∧
      (empty.run d earlier).Commits d verify dispatcher accounts data ix auth o l' ∧
      ((empty.run d earlier).context d verify accounts).Opens auth ix key t :=
  (exists_opens_of_session h).resolve_left nofun

lemma session_of_run {key : Key} {t : SessionRecord}
    (h : l.view.record? key = some (.session t)) :
    (l.run d steps).view.record? key = some (.session t) := by
  induction steps generalizing l with
  | nil => exact h
  | cons s rest ih => exact ih ((becomes_step s).session h)

/-- Once the opener's entry has been removed or given to other keys, an execution succeeds through
the session only if a step since then, that one included, has registered a manager with the opener's
id and seed. -/
theorem opener_registered_of_session_used (before after : List Step) {revoking : Step} {key : Key}
    {t : SessionRecord} {verify : Verifier} {dispatcher : Dispatcher} {accounts : List AccountRef}
    {data : List UInt8} {o : Outcome}
    (hsession : (empty.run d before).view.record? key = some (.session t))
    (hrevoked : (empty.run d before).reset? d revoking = some ⟨t.wallet, t.authorizerId⟩)
    (hcaller : accounts[2]?.map AccountRef.key = some key)
    (hresult : ((empty.run d (before ++ revoking :: after)).process d verify dispatcher accounts
      data).result = .ok o)
    (hkind : o.kind = .execute) :
    ∃ earlier s later role p, revoking :: after = earlier ++ s :: later ∧
      (empty.run d (before ++ earlier)).Registers d s ⟨t.wallet, t.authorizerId⟩ role p ∧
      role.manages = true ∧ p.seed = t.authorizerSeed := by
  rw [run_append] at hresult
  obtain ⟨a, ha, hseed, hmanages⟩ :=
    opener_of_process (session_of_run hsession) hcaller hresult hkind
  obtain ⟨w, hw⟩ := wallet_of_reset hrevoked
  rcases entry_of_run_cases hw ha with ⟨hkept, -⟩ | ⟨earlier, s, later, p, hsteps, hp, hregisters⟩
  · rw [resets_cons, hrevoked] at hkept
    exact absurd (List.mem_append_left _ (List.mem_singleton_self _)) hkept
  · refine ⟨earlier, s, later, a.role, p, hsteps, ?_, hmanages, hp.trans hseed⟩
    rwa [run_append]

end Ledger

namespace Sample

def sessionAddress : Key := ⟨[
  0x51, 0x48, 0x7e, 0x83, 0x2e, 0x5d, 0xed, 0xab, 0x3f, 0x2c, 0x4e, 0x55, 0xde, 0x40, 0x96, 0x93,
  0x02, 0x14, 0x3d, 0xe4, 0xa9, 0x01, 0x81, 0x0f, 0x0d, 0x2f, 0xa6, 0x12, 0x4c, 0xa7, 0x12, 0x5d],
  rfl⟩

/-- The owner adds the spender's key as an admin. -/
def appointment : Step :=
  .submit .echo .acceptAll
    [payer, ⟨walletKey, false, true⟩, ⟨managerMarkerKey, false, false⟩,
      ⟨spenderMarkerKey, false, true⟩, ⟨systemProgram, false, false⟩]
    (InstructionKind.addAuthority.number :: [spender.kind.tag, Role.admin.tag] ++
      Instruction.padding ++ spender.encode)

/-- The authority of a marker opens a session. Both the owner and the admin sign. -/
def opening (marker : Key) : Step :=
  .submit .echo .acceptAll
    [payer, ⟨walletKey, false, false⟩, ⟨marker, false, false⟩, ⟨sessionAddress, false, true⟩,
      ⟨systemProgram, false, false⟩, ⟨.replicate 32 2, true, false⟩]
    (InstructionKind.createSession.number :: List.replicate 32 3 ++ [100, 0, 0, 0, 0, 0, 0, 0])

/-- The owner removes the admin. -/
def dismissal : Step :=
  .submit .echo .acceptAll
    [payer, ⟨walletKey, false, true⟩, ⟨managerMarkerKey, false, false⟩,
      ⟨spenderMarkerKey, false, true⟩, payer]
    [InstructionKind.removeAuthority.number]

/-- The owner gives the wallet to a passkey that takes over the owner's seed. -/
def handoff : Step :=
  .submit .echo .acceptAll
    [payer, ⟨walletKey, false, true⟩, ⟨managerMarkerKey, false, true⟩,
      ⟨managerMarkerKey, false, true⟩, ⟨systemProgram, false, false⟩]
    (InstructionKind.transferOwnership.number :: passkey.kind.tag ::
      AuthorityPayload.encode ⟨manager.seed, passkey.credential⟩)

def sessionCallAccounts : List AccountRef :=
  [payer, ⟨walletKey, false, true⟩, ⟨sessionAddress, false, true⟩, ⟨vaultKey, false, true⟩,
    ⟨systemProgram, false, false⟩, ⟨.replicate 32 3, true, false⟩]

/-- A call by the key of the session. -/
def sessionCall : List UInt8 := InstructionKind.execute.number :: batch

/-- The manager's wallet with an admin, as it is stored. -/
def appointedLedger : Ledger :=
  ⟨(managedLedger.accounts.set walletKey ⟨0, Wallet.encode ⟨255, 255, walletId,
    [⟨0, .owner, manager.seed, 0, manager.credential⟩,
      ⟨1, .admin, spender.seed, 0, spender.credential⟩]⟩⟩).set spenderMarkerKey
    ⟨0, AuthorityMarker.encode ⟨255, 1, walletKey, spender.seed⟩⟩, 0⟩

lemma step_appointment : managedLedger.step default appointment = appointedLedger := by
  decide +kernel

lemma run_appointment (steps : List Step) :
    Ledger.empty.run default (founding :: appointment :: steps) =
      appointedLedger.run default steps := by
  rw [run_founding, Ledger.run_cons, step_appointment]

lemma sessionCall_after_dismissal :
    let l := Ledger.empty.run default [founding, appointment, opening spenderMarkerKey]
    l.view.record? sessionAddress =
        some (.session ⟨254, 1, walletKey, .replicate 32 3, spender.seed, 100⟩) ∧
      l.reset? default dismissal = some ⟨walletKey, 1⟩ ∧
      ((l.run default [dismissal, appointment]).process default .echo .acceptAll
        sessionCallAccounts sessionCall).result.map Outcome.kind = .ok .execute := by
  rw [run_appointment]
  decide +kernel

lemma sessionCall_after_handoff :
    let l := Ledger.empty.run default [founding, opening managerMarkerKey]
    l.view.record? sessionAddress =
        some (.session ⟨254, 0, walletKey, .replicate 32 3, manager.seed, 100⟩) ∧
      l.reset? default handoff = some ⟨walletKey, 0⟩ ∧
      ((l.run default [handoff]).process default .echo .acceptAll sessionCallAccounts
        sessionCall).result.map Outcome.kind = .ok .execute := by
  rw [run_founding]
  decide +kernel

/-- The admin who has opened a session is removed and appointed again, and the session is good
again. The owner who has opened it gives the wallet to new keys with the old seed, and the session
stays good. -/
theorem session_restored :
    (let l := Ledger.empty.run default [founding, appointment, opening spenderMarkerKey]
     l.view.record? sessionAddress =
         some (.session ⟨254, 1, walletKey, .replicate 32 3, spender.seed, 100⟩) ∧
       l.reset? default dismissal = some ⟨walletKey, 1⟩ ∧
       sessionCallAccounts[2]?.map AccountRef.key = some sessionAddress ∧
       ∃ o, ((l.run default [dismissal, appointment]).process default .echo .acceptAll
         sessionCallAccounts sessionCall).result = .ok o ∧ o.kind = .execute) ∧
    (let l := Ledger.empty.run default [founding, opening managerMarkerKey]
     l.view.record? sessionAddress =
         some (.session ⟨254, 0, walletKey, .replicate 32 3, manager.seed, 100⟩) ∧
       l.reset? default handoff = some ⟨walletKey, 0⟩ ∧
       sessionCallAccounts[2]?.map AccountRef.key = some sessionAddress ∧
       ∃ o, ((l.run default [handoff]).process default .echo .acceptAll
         sessionCallAccounts sessionCall).result = .ok o ∧ o.kind = .execute) := by
  obtain ⟨hsession, hreset, hanswered⟩ := sessionCall_after_dismissal
  obtain ⟨hsession', hreset', hanswered'⟩ := sessionCall_after_handoff
  exact ⟨⟨hsession, hreset, rfl, map_eq_ok_iff.1 hanswered⟩,
    ⟨hsession', hreset', rfl, map_eq_ok_iff.1 hanswered'⟩⟩

/-- Between the removal of the admin and the call through the session, a manager with the same seed
has been registered under the same id. -/
theorem opener_registered_of_sessionCall :
    ∃ earlier s later role p, [dismissal, appointment] = earlier ++ s :: later ∧
      (Ledger.empty.run default ([founding, appointment, opening spenderMarkerKey] ++
        earlier)).Registers default s ⟨walletKey, 1⟩ role p ∧
      role.manages = true ∧ p.seed = spender.seed := by
  obtain ⟨hsession, hreset, hanswered⟩ := sessionCall_after_dismissal
  obtain ⟨o, ho, hkind⟩ := map_eq_ok_iff.1 hanswered
  rw [← Ledger.run_append] at ho
  exact Ledger.opener_registered_of_session_used
    [founding, appointment, opening spenderMarkerKey] [appointment] hsession hreset rfl ho hkind

end Sample

end SmartWallet
