import SmartWallet.Proofs.Footprint
import SmartWallet.Proofs.Sessions

/-!
# Where a session comes from

Behind every execution through a session there is the one step that opened it: a manager's master
credential asked for it, the record has not been touched since, and it lasts no longer than the
deployment allows.
-/

namespace SmartWallet

namespace Context

variable {c : Context} {auth : Authorization} {ix : Instruction} {o : Outcome}

/-- Only an execution comes with a plan. -/
lemma prepares_of_planned {dispatcher : Dispatcher} {plan : ExecutionPlan}
    (h : (c.perform dispatcher ix auth).2 = .ok o) (hplan : o.execution = some plan) :
    ∃ calls p payer wallet caller vault w,
      c.Prepares calls auth p payer wallet caller vault w ∧ p.plan = plan := by
  cases ix with
  | execute calls proof =>
    obtain ⟨p, hp, rfl⟩ := prepareExecution_of_perform h
    obtain ⟨payer, wallet, caller, vault, w, hprepares⟩ := prepares_of_prepareExecution hp
    exact ⟨calls, p, payer, wallet, caller, vault, w, hprepares, Option.some.inj hplan⟩
  | _ =>
    obtain ⟨delta, -, rfl⟩ := map_eq_ok_iff.1 h
    cases hplan

end Context

namespace Ledger

/-- A step succeeds in creating a session of a wallet for a session key. -/
inductive CreatesSession (d : Deployment) (l : Ledger) (wallet sessionKey : Key) : Step → Prop
  | submit {verify : Verifier} {dispatcher : Dispatcher} {accounts : List AccountRef}
      {data proof : List UInt8} {o : Outcome} {expiresAt : UInt64} {r : AccountRef}
      (result : (l.process d verify dispatcher accounts data).result = .ok o)
      (decoded : Instruction.decode d.profile data =
        .ok (.createSession sessionKey expiresAt proof))
      (walletAt : accounts[1]? = some r) (walletKey : r.key = wallet) :
      CreatesSession d l wallet sessionKey (.submit verify dispatcher accounts data)

/-- The entry that a session record names asks for the session: it has a role that manages the
wallet, and it uses its master credential. -/
inductive AsksForSession (d : Deployment) (l : Ledger) (key : Key) (t : SessionRecord) : Step → Prop
  | submit {verify : Verifier} {dispatcher : Dispatcher} {accounts : List AccountRef}
      {data proof body : List UInt8} {o : Outcome} {payer wallet marker session : AccountRef}
      {w : Wallet} {a : Authority} {counter? : Option UInt32}
      (result : (l.process d verify dispatcher accounts data).result = .ok o)
      (decoded : Instruction.decode d.profile data =
        .ok (.createSession t.sessionKey t.expiresAt proof))
      (signed : (Instruction.createSession t.sessionKey t.expiresAt proof).signedBody = .ok body)
      (payerAt : accounts[0]? = some payer)
      (walletAt : accounts[1]? = some wallet) (walletKey : wallet.key = t.wallet)
      (holds : l.view.HoldsWallet d t.wallet w)
      (markerAt : accounts[2]? = some marker)
      (named : l.view.Names d t.wallet w marker.key a)
      (opener : a.id = t.authorizerId ∧ a.seed = t.authorizerSeed)
      (manages : a.role = .owner ∨ a.role = .admin)
      (byMaster : AuthRequest.ByMaster ⟨accounts, proof, body,
        InstructionKind.createSession.discriminator d.profile, payer.key, l.slot, false⟩ verify a
        counter?)
      (sessionAt : accounts[3]? = some session) (sessionKey : session.key = key) :
      AsksForSession d l key t (.submit verify dispatcher accounts data)

/-- A step opens the session of a record, which goes where nothing was. -/
structure OpensSession (d : Deployment) (l : Ledger) (key : Key) (t : SessionRecord) (s : Step) :
    Prop where
  asked : l.AsksForSession d key t s
  derived : (Recipe.session t.wallet t.sessionKey).derive d = .ok ⟨key, t.bump⟩
  vacant : l.data? key = none
  stored : (l.step d s).data? key = some t.encode
  future : l.slot < t.expiresAt
  bounded : t.expiresAt.toNat ≤ l.slot.toNat + d.maxSessionSlots.toNat

/-- Slots never go back along a run. -/
def Ascends (d : Deployment) : Ledger → List Step → Prop
  | _, [] => True
  | l, s :: rest => l.slot ≤ (l.step d s).slot ∧ Ascends d (l.step d s) rest

variable {d : Deployment} {l : Ledger} {key wallet sessionKey : Key} {t : SessionRecord} {s : Step}
  {steps earlier later : List Step}

lemma slot_submit {verify : Verifier} {dispatcher : Dispatcher} {accounts : List AccountRef}
    {data : List UInt8} : (l.step d (.submit verify dispatcher accounts data)).slot = l.slot :=
  slot_process

lemma slot_le_of_ascends (h : l.Ascends d steps) : l.slot ≤ (l.run d steps).slot := by
  induction steps generalizing l with
  | nil => exact UInt64.le_refl _
  | cons s rest ih => exact UInt64.le_trans h.1 (ih h.2)

lemma Ascends.drop (h : l.Ascends d (earlier ++ later)) :
    (l.run d earlier).Ascends d later := by
  induction earlier generalizing l with
  | nil => exact h
  | cons s rest ih => exact ih h.2

/-! ## The step that opens a session -/

lemma AsksForSession.key_eq {verify : Verifier} {dispatcher : Dispatcher}
    {accounts : List AccountRef} {data : List UInt8} {k : Key}
    (h : l.AsksForSession d key t (.submit verify dispatcher accounts data))
    (hk : (l.context d verify accounts).keyAt 3 = some k) : key = k := by
  cases h with
  | submit _ _ _ _ _ _ _ _ _ _ _ _ sessionAt sessionKey =>
    obtain ⟨r, hr, rfl⟩ := Context.exists_account_of_keyAt hk
    rw [← sessionKey, Option.some.inj (sessionAt.symm.trans hr)]

lemma AsksForSession.creates (h : l.AsksForSession d key t s) :
    l.CreatesSession d t.wallet t.sessionKey s := by
  cases h with
  | submit result decoded _ _ walletAt walletKey => exact .submit result decoded walletAt walletKey

/-- What a successful creation has checked, and the record that it leaves behind. -/
lemma CreatesSession.opens (h : l.CreatesSession d wallet sessionKey s) :
    ∃ key t, t.wallet = wallet ∧ t.sessionKey = sessionKey ∧ l.OpensSession d key t s := by
  cases h with
  | @submit verify dispatcher accounts data proof o expiresAt wallet ho hdecode hwallet hkey =>
    subst hkey
    obtain ⟨ix, auth, hc⟩ := exists_commits ho
    obtain ⟨hdecode', hbody, hdiscriminator, hproof⟩ :=
      Context.readInstruction_eq_ok_iff.1 hc.read
    obtain rfl := Except.ok.inj (hdecode'.symm.trans hdecode)
    have hview := hc.view_eq
    have hperforms := hc.performs
    generalize o.delta = delta at hview hperforms
    cases hperforms with
    | @createSession _ _ _ act session counted hacts hsystem hmanages hderived hsessionAt hvacant
        hfuture hbounded hcounts =>
      obtain ⟨r, hr, hkey⟩ := Context.exists_account_of_keyAt hsessionAt
      obtain rfl : act.wallet = wallet := Option.some.inj (hacts.wallet.symm.trans hwallet)
      have hmaster := hacts.byMaster rfl
      rw [Context.request, hdiscriminator, hproof] at hmaster
      have hfuture : l.slot < expiresAt := hfuture
      have hspan : (expiresAt - l.slot).toNat ≤ d.maxSessionSlots.toNat := hbounded
      rw [UInt64.toNat_sub_of_le _ _ (UInt64.le_of_lt hfuture)] at hspan
      have hbound : expiresAt.toNat ≤ l.slot.toNat + d.maxSessionSlots.toNat := by omega
      refine ⟨session.key, ⟨session.bump, act.entry.id, act.wallet.key, sessionKey, act.entry.seed,
        expiresAt⟩, rfl, rfl, ?_, hderived, hvacant, ?_, hfuture, hbound⟩
      · exact .submit ho hdecode hbody hacts.payer hacts.wallet rfl hacts.holds hacts.marker
          hacts.named ⟨rfl, rfl⟩ (Role.manages_iff.1 hmanages) hmaster hr hkey
      · refine (congrFun hview session.key).trans ?_
        rw [Delta.shown_append, Delta.shown_cons, Delta.shown_nil, Write.shown_session, View.put,
          Function.update_self]

lemma record?_of_encode (h : l.view key = some t.encode) :
    l.view.record? key = some (.session t) := by
  rw [View.record?, h, Option.bind_some, StoredRecord.decode?_encode_session]

/-- A session of a run from an empty ledger has been opened by one of its steps. -/
theorem exists_opensSession (h : (empty.run d steps).view.record? key = some (.session t)) :
    ∃ earlier s later, steps = earlier ++ s :: later ∧
      (empty.run d earlier).OpensSession d key t s := by
  obtain ⟨earlier, verify, dispatcher, accounts, data, later, ix, auth, o, l', rfl, hc, hopens⟩ :=
    session_opened h
  obtain ⟨proof, rfl⟩ := hopens.instruction
  obtain ⟨act, hacts, -, hwallet, -⟩ := hopens.opener
  have hcreates : (empty.run d earlier).CreatesSession d t.wallet t.sessionKey
      (.submit verify dispatcher accounts data) :=
    .submit hc.answered (Context.readInstruction_eq_ok_iff.1 hc.read).1 hacts.wallet hwallet
  obtain ⟨k, t', -, -, hopens'⟩ := hcreates.opens
  obtain rfl : k = key := hopens'.asked.key_eq hopens.place
  -- the record has stayed as it was stored, so that it is the one at the end of the run
  rw [run_append] at h
  have hend : (((empty.run d earlier).step d _).run d later).view.record? k = some (.session t') :=
    session_of_run (record?_of_encode hopens'.stored)
  obtain rfl := StoredRecord.session.inj (Option.some.inj (hend.symm.trans h))
  exact ⟨earlier, _, later, rfl, hopens'⟩

/-- An account holds at most one session, and the same wallet and session key lead to the same
account. -/
lemma CreatesSession.vacant (h : l.CreatesSession d t.wallet t.sessionKey s) {bump : UInt8}
    (hderived : (Recipe.session t.wallet t.sessionKey).derive d = .ok ⟨key, bump⟩) :
    l.view key = none := by
  obtain ⟨k, t', hwallet, hkey, hopens⟩ := h.opens
  have hderived' := hopens.derived
  rw [hwallet, hkey, hderived, Except.ok.injEq, DerivedAddress.mk.injEq] at hderived'
  rw [hderived'.1]
  exact hopens.vacant

/-- After a step that creates a session, no step creates it again. -/
lemma CreatesSession.not_again {s' : Step} (h : l.CreatesSession d wallet sessionKey s) :
    ¬ (l.run d (s :: steps)).CreatesSession d wallet sessionKey s' := by
  obtain ⟨key, t, rfl, rfl, hopens⟩ := h.opens
  intro hagain
  have hvacant := View.record?_of_vacant (hagain.vacant hopens.derived)
  exact absurd ((session_of_run (record?_of_encode hopens.stored)).symm.trans hvacant) (by simp)

theorem OpensSession.unique {s' : Step} {earlier' later' : List Step}
    (h : (l.run d earlier).OpensSession d key t s)
    (hsteps : earlier ++ s :: later = earlier' ++ s' :: later')
    (h' : (l.run d earlier').CreatesSession d t.wallet t.sessionKey s') : earlier' = earlier := by
  -- the two splits agree, or one of the two steps lies behind the other
  rcases List.append_eq_append_iff.1 hsteps with ⟨between, rfl, hrest⟩ | ⟨between, rfl, hrest⟩
  · cases between with
    | nil => simp
    | cons x between =>
      obtain ⟨rfl, -⟩ := List.cons.inj hrest
      rw [run_append] at h'
      exact absurd h' h.asked.creates.not_again
  · cases between with
    | nil => simp
    | cons x between =>
      obtain ⟨rfl, -⟩ := List.cons.inj hrest
      rw [run_append] at h
      exact absurd h.asked.creates h'.not_again

/-! ## Using a session -/

/-- What an execution through a session has found. -/
lemma session_of_planned {verify : Verifier} {dispatcher : Dispatcher}
    {accounts : List AccountRef} {data : List UInt8} {o : Outcome} {plan : ExecutionPlan}
    {id : UInt8} (hresult : (l.process d verify dispatcher accounts data).result = .ok o)
    (hplan : o.execution = some plan) (hcaller : plan.caller = .session id) :
    ∃ wallet caller t, accounts[1]? = some wallet ∧ accounts[2]? = some caller ∧
      l.view.record? caller.key = some (.session t) ∧ t.wallet = wallet.key ∧
      t.authorizerId = id ∧ l.slot < t.expiresAt ∧
      ∃ a, l.authorityAt? ⟨t.wallet, t.authorizerId⟩ = some a ∧ a.seed = t.authorizerSeed ∧
        (a.role = .owner ∨ a.role = .admin) := by
  obtain ⟨ix, auth, hc⟩ := exists_commits hresult
  obtain ⟨calls, p, payer, wallet, caller, vault, w, hprepares, rfl⟩ :=
    Context.prepares_of_planned hc.performed hplan
  have hauthorized := hprepares.authorized
  rw [hcaller] at hauthorized
  generalize p.delta = writes at hauthorized
  cases hauthorized with
  | @session t record hwallet derived live opener signs =>
    obtain ⟨a, ha, hseed, hmanages⟩ := opener
    have hlive : l.slot < t.expiresAt := of_decide_eq_true live
    have hentry : l.authorityAt? ⟨t.wallet, t.authorizerId⟩ = some a :=
      Records.authorityAt?_eq_some_iff.2 ⟨w, hwallet ▸ hprepares.holds.record, ha⟩
    exact ⟨wallet, caller, t, hprepares.walletAt, hprepares.callerAt, record, hwallet, rfl, hlive,
      a, hentry, hseed, Role.manages_iff.1 hmanages⟩

/-- An execution that succeeds through a session, in a run whose slots never go back, goes back to
exactly one step, which created a session of that wallet for that session key: the entry that the
record names was a manager and asked for it by its master credential. The record has kept its bytes
ever since, the execution comes no earlier than that step and before the session expires, which is
at most the longest duration later, and an entry with the opener's id and seed is a manager now. -/
theorem session_provenance (d : Deployment) (steps : List Step)
    (hascends : empty.Ascends d steps) {verify : Verifier} {dispatcher : Dispatcher}
    {accounts : List AccountRef} {data : List UInt8} {o : Outcome} {plan : ExecutionPlan}
    {id : UInt8}
    (hresult : ((empty.run d steps).process d verify dispatcher accounts data).result = .ok o)
    (hplan : o.execution = some plan) (hcaller : plan.caller = .session id) :
    ∃ wallet caller t earlier s later,
      accounts[1]? = some wallet ∧ wallet.key = t.wallet ∧ accounts[2]? = some caller ∧
      (empty.run d steps).view.record? caller.key = some (.session t) ∧ t.authorizerId = id ∧
      steps = earlier ++ s :: later ∧
      (empty.run d earlier).OpensSession d caller.key t s ∧
      (∀ earlier' s' later', steps = earlier' ++ s' :: later' →
        (empty.run d earlier').CreatesSession d t.wallet t.sessionKey s' → earlier' = earlier) ∧
      (∀ between rest, later = between ++ rest →
        (empty.run d (earlier ++ s :: between)).data? caller.key = some t.encode) ∧
      (empty.run d earlier).slot ≤ (empty.run d steps).slot ∧
      (empty.run d steps).slot < t.expiresAt ∧
      t.expiresAt.toNat ≤ (empty.run d earlier).slot.toNat + d.maxSessionSlots.toNat ∧
      ∃ a, (empty.run d steps).authorityAt? ⟨t.wallet, t.authorizerId⟩ = some a ∧
        a.seed = t.authorizerSeed ∧ (a.role = .owner ∨ a.role = .admin) := by
  obtain ⟨wallet, caller, t, hwallet, hcallerAt, hrecord, hhome, hid, hlive, hopener⟩ :=
    session_of_planned hresult hplan hcaller
  obtain ⟨earlier, s, later, hsteps, hopens⟩ := exists_opensSession hrecord
  have hslot : (empty.run d earlier).slot ≤ (empty.run d steps).slot := by
    subst hsteps
    rw [run_append]
    exact slot_le_of_ascends hascends.drop
  refine ⟨wallet, caller, t, earlier, s, later, hwallet, hhome.symm, hcallerAt, hrecord, hid,
    hsteps, hopens, ?_, ?_, hslot, hlive, hopens.bounded, hopener⟩
  · intro earlier' s' later' hsteps' hcreates
    exact hopens.unique (hsteps.symm.trans hsteps') hcreates
  · rintro between rest -
    rw [run_append]
    exact (data_of_session_run (record?_of_encode hopens.stored)).trans hopens.stored

end Ledger

namespace Sample

/-- The owner opens a session, and time passes. -/
def opened : List Step := [founding, opening managerMarkerKey, .setSlot 5]

lemma ascends_opened : Ledger.empty.Ascends default opened := by
  have hfounding : (Ledger.empty.step default founding).slot = 0 := Ledger.slot_submit
  have hopening : ((Ledger.empty.step default founding).step default
      (opening managerMarkerKey)).slot = 0 := Ledger.slot_submit.trans hfounding
  refine ⟨?_, ?_, ?_, trivial⟩
  · rw [hfounding]
    decide
  · rw [hfounding, hopening]
    decide
  · rw [hopening]
    decide

lemma caller_of_sessionCall :
    ((Ledger.empty.run default opened).process default .echo .acceptAll sessionCallAccounts
      sessionCall).result.map (fun o => o.execution.map ExecutionPlan.caller) =
        .ok (some (.session 0)) := by
  rw [opened, run_founding]
  decide +kernel

/-- The call by the session's key goes back to the step that opened the session. -/
theorem provenance_of_sessionCall :
    Ledger.empty.Ascends default opened ∧
      ∃ o plan, ((Ledger.empty.run default opened).process default .echo .acceptAll
          sessionCallAccounts sessionCall).result = .ok o ∧
        o.execution = some plan ∧ plan.caller = .session 0 ∧
        ∃ t earlier s later, opened = earlier ++ s :: later ∧
          (Ledger.empty.run default earlier).OpensSession default sessionAddress t s ∧
          t.wallet = walletKey ∧ t.authorizerId = 0 ∧ 5 < t.expiresAt := by
  obtain ⟨o, ho, hcalled⟩ := map_eq_ok_iff.1 caller_of_sessionCall
  obtain ⟨plan, hplan, hcaller⟩ := Option.map_eq_some_iff.1 hcalled
  obtain ⟨wallet, caller, t, earlier, s, later, hwallet, hhome, hcallerAt, -, hid, hsteps, hopens,
    -, -, -, hlive, -⟩ := Ledger.session_provenance default opened ascends_opened ho hplan hcaller
  cases hwallet
  cases hcallerAt
  exact ⟨ascends_opened, o, plan, ho, hplan, hcaller, t, earlier, s, later, hsteps, hopens,
    hhome.symm, hid, hlive⟩

end Sample

end SmartWallet
