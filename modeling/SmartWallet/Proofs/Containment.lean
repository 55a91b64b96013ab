import SmartWallet.Proofs.Entries
import SmartWallet.Proofs.Management

/-!
# What needs the owner

Only the owner makes, removes or replaces a manager. As long as the owner of a wallet does not act
in an instruction that changes its authorities, whatever anyone else does, here or at other wallets,
the owner and the admins stay as they are, up to the counters of their signatures.
-/

namespace SmartWallet

/-! ## What an instruction does to a wallet -/

/-- What an instruction by an entry does to a wallet, once a signature has been counted. -/
def Wallet.AlteredBy (acting : Authority) (counted : Wallet) : Instruction → Wallet → Prop
  | .addAuthority role p _, w' => Context.mayAdd acting.role role = true ∧
      ∃ id, counted.insert role p.seed p.credential = .ok (w', id)
  | .removeAuthority _, w' => ∃ a, Context.mayRemove acting.role a.role = true ∧
      counted.remove a.id = .ok (w', a)
  | .transferOwnership p _, w' => acting.role = .owner ∧
      ∃ old, counted.replaceOwner p.seed p.credential = .ok (w', old)
  | .execute .., w' | .createSession .., w' => w' = counted
  | .createWallet .., _ => False

namespace Context

variable {c : Context} {auth : Authorization} {ix : Instruction} {delta rest : Delta} {s : Action}
  {key : Key} {w : Wallet}

/-- An instruction that an entry of the wallet acts in, with the record that it leaves behind. -/
structure Alters (c : Context) (auth : Authorization) (ix : Instruction) (s : Action)
    (counted w' : Wallet) : Prop where
  acts : c.Acts (c.actingAuthorization auth ix) (ix.kind = .execute) s
  counts : s.record.recordCounter s.entry.id s.outcome = .ok counted
  altered : Wallet.AlteredBy s.entry counted ix w'

lemma Alters.wellFormed {counted w' : Wallet} (h : c.Alters auth ix s counted w')
    (hix : ix.WellFormed) : w'.WellFormed := by
  have hcounted := h.acts.wellFormed_counted h.counts
  have haltered := h.altered
  cases ix with
  | createWallet => exact haltered.elim
  | addAuthority role p proof =>
    obtain ⟨-, id, hinsert⟩ := haltered
    exact hcounted.insert (hix.enrolled p rfl).compressed hinsert
  | removeAuthority proof =>
    obtain ⟨a, -, hremove⟩ := haltered
    exact hcounted.remove hremove
  | transferOwnership p proof =>
    obtain ⟨-, old, hreplace⟩ := haltered
    exact hcounted.replaceOwner (hix.enrolled p rfl).compressed hreplace
  | execute | createSession =>
    rw [show w' = counted from haltered]
    exact hcounted

lemma Alters.wallet_cases {counted w' : Wallet} {after : Records}
    (h : c.Alters auth ix s counted w') (hw : View.record? c.data? key = some (.wallet w))
    (hafter : after key =
      if key = s.wallet.key then some (.wallet w') else View.record? c.data? key) :
    after key = some (.wallet w) ∨
      ∃ s counted w', c.Alters auth ix s counted w' ∧ s.wallet.key = key ∧ s.record = w ∧
        after key = some (.wallet w') := by
  by_cases hkey : key = s.wallet.key
  · subst hkey
    have hrecord := h.acts.holds.record
    rw [hw, Option.some.injEq, StoredRecord.wallet.injEq] at hrecord
    rw [if_pos rfl] at hafter
    exact .inr ⟨s, counted, w', h, rfl, hrecord.symm, hafter⟩
  · rw [if_neg hkey, hw] at hafter
    exact .inl hafter

/-- The record that is left where only the first write of a delta is about the wallet. -/
lemma Alters.record?_shown {counted w' : Wallet} (h : c.Alters auth ix s counted w')
    (hix : ix.WellFormed) (hrest : ∀ x ∈ rest, x.key ≠ key) :
    View.record? (Delta.shown (.store s.wallet.key w'.encode :: rest) c.data?) key =
      if key = s.wallet.key then some (.wallet w') else View.record? c.data? key := by
  rw [Delta.shown_cons, View.record?_congr (Delta.shown_of_ne hrest), Write.shown_wallet,
    View.record?_put (StoredRecord.decode?_encode_wallet (h.wellFormed hix)),
    Function.update_apply]

/-- An instruction leaves a wallet's record as it was, or one of the wallet's entries acts in it. -/
theorem Performs.wallet_cases (hp : c.Performs auth ix delta)
    (hvisible : ∀ key, c.isVacant key = true → c.data? key = none) (hix : ix.WellFormed)
    (hw : View.record? c.data? key = some (.wallet w)) :
    View.record? (delta.shown c.data?) key = some (.wallet w) ∨
      ∃ s counted w', c.Alters auth ix s counted w' ∧ s.wallet.key = key ∧ s.record = w ∧
        View.record? (delta.shown c.data?) key = some (.wallet w') := by
  -- every write but that of the acting wallet goes to a vacant account or to a marker
  have hvacant : ∀ {k}, c.isVacant k = true → k ≠ key := fun hk =>
    Records.ne_of_record_ne (View.record?_of_vacant (hvisible _ hk)) hw (by simp)
  cases hp with
  | createWallet _ _ _ _ _ hwalletVacant _ _ _ _ hmarkerVacant _ =>
    refine .inl ?_
    rw [View.record?_congr (Delta.shown_of_ne ?_), hw]
    simp [Write.key, hvacant hwalletVacant, hvacant hmarkerVacant]
  | @addAuthority role p proof s marker counted grown id hacts _ hmay _ _ hmarker hcounts
      hinserts =>
    have halters : c.Alters auth (.addAuthority role p proof) s counted grown :=
      ⟨hacts, hcounts, hmay, id, hinserts⟩
    exact halters.wallet_cases hw
      (halters.record?_shown hix (by simpa [Write.key] using hvacant hmarker))
  | @removeAuthority proof s target refund a removed counted shrunk htargetAt hrefundAt _ hacts
      hnamed _ hmay hcounts hremoves =>
    have hasked : c.Acts (c.actingAuthorization auth (.removeAuthority proof)) false s := by
      simpa only [actingAuthorization, htargetAt, hrefundAt] using hacts
    obtain ⟨counter, hbefore⟩ := Wallet.exists_before_recordCounter hacts.named.entry hcounts
      (Wallet.remove_eq_ok_iff.1 hremoves).1
    rw [hnamed.entry, Option.some.injEq] at hbefore
    subst hbefore
    have halters : c.Alters auth (.removeAuthority proof) s counted shrunk :=
      ⟨hasked, hcounts, removed, hmay, hremoves⟩
    obtain ⟨bump, htarget⟩ := hnamed.record
    have hne : target.key ≠ key := Records.ne_of_record_ne htarget hw (by simp)
    exact halters.wallet_cases hw (halters.record?_shown hix (by simpa [Write.key] using hne))
  | @transferOwnership p proof s marker counted moved old hacts _ hrole _ _ hcounts hreplaces
      hmarker =>
    have halters : c.Alters auth (.transferOwnership p proof) s counted moved :=
      ⟨hacts, hcounts, hrole, old, hreplaces⟩
    obtain ⟨bump, hcurrent⟩ := hacts.named.record
    have hne : s.marker.key ≠ key := Records.ne_of_record_ne hcurrent hw (by simp)
    have hne' : marker.key ≠ key := by
      rcases hmarker with hm | hm
      · rw [hm]
        exact hne
      · exact hvacant hm
    refine halters.wallet_cases hw (halters.record?_shown hix ?_)
    split <;> simp [Write.key, hne, hne']
  | @execute calls proof p payer wallet caller vault w hprepares =>
    have hauthorized := hprepares.authorized
    generalize p.plan.caller = who, p.delta = writes at hauthorized
    cases hauthorized with
    | @authority a o counted named authenticated counts =>
      have hacts := hprepares.acts named authenticated
      have halters : c.Alters auth (.execute calls proof) _ counted counted :=
        ⟨hacts, counts, rfl⟩
      refine halters.wallet_cases hw ?_
      rw [hacts.record?_counted counts, Function.update_apply]
    | session => exact .inl hw
  | @createSession sessionKey expiresAt proof s session counted hacts _ _ _ _ hsession _ _
      hcounts =>
    have halters : c.Alters auth (.createSession sessionKey expiresAt proof) s counted counted :=
      ⟨hacts, hcounts, rfl⟩
    refine halters.wallet_cases hw ?_
    have hne : session.key ≠ key :=
      Records.ne_of_record_ne (View.record?_of_vacant hsession) hw (by simp)
    rw [Delta.shown_append, View.record?_congr (Delta.shown_of_ne (by simpa [Write.key] using hne)),
      hacts.record?_counted hcounts, Function.update_apply]

end Context

/-! ## What only the owner may change -/

/-- An entry without its counter, if that counts signatures. -/
def Authority.uncounted (a : Authority) : Authority :=
  if a.kind.usesSecp256r1 then { a with counter := 0 } else a

/-- The owner and the admins of a wallet, up to the counters of their signatures. -/
def Wallet.managers (w : Wallet) : List Authority :=
  (w.authorities.filter (·.role.manages)).map Authority.uncounted

/-- Two records of a wallet differ at most in its spenders and in counters of signatures. -/
structure Wallet.SameManagers (w' w : Wallet) : Prop where
  header : w'.SameHeader w
  managers : w'.managers = w.managers

lemma Authority.uncounted_counter {a : Authority} (h : a.kind.usesSecp256r1 = true)
    (counter : UInt32) : uncounted { a with counter := counter } = a.uncounted := by
  have hkind : a.credential.kind.usesSecp256r1 = true := h
  simp [uncounted, kind, hkind]

namespace Wallet

variable {w w' w'' : Wallet} {a : Authority} {id : UInt8} {l : List Authority}
  {p q : Authority → Bool}

lemma SameManagers.refl : w.SameManagers w := ⟨⟨rfl, rfl, rfl⟩, rfl⟩

lemma SameManagers.trans (h' : w''.SameManagers w') (h : w'.SameManagers w) :
    w''.SameManagers w :=
  ⟨h'.header.trans h.header, h'.managers.trans h.managers⟩

lemma filter_insertById (ha : p a = false) : (insertById a l).filter p = l.filter p := by
  induction l with
  | nil => simp [insertById, ha]
  | cons b l ih =>
    unfold insertById
    split
    · simp [ha]
    · simp [List.filter_cons, ih]

lemma filter_eraseP (h : l.find? p = some a) (ha : q a = false) :
    (l.eraseP p).filter q = l.filter q := by
  induction l with
  | nil => cases h
  | cons b l ih =>
    by_cases hb : p b = true
    · rw [List.find?_cons_of_pos hb] at h
      cases h
      simp [hb, ha]
    · rw [List.find?_cons_of_neg hb] at h
      simp [hb, List.filter_cons, ih h]

lemma sameManagers_insert {seed : Key} {c : Credential}
    (h : w.insert .spender seed c = .ok (w', id)) : w'.SameManagers w := by
  refine ⟨sameHeader_insert h, ?_⟩
  obtain ⟨-, -, -, -, rfl⟩ := insert_eq_ok_iff.1 h
  rw [managers, managers, filter_insertById rfl]

lemma sameManagers_remove (h : w.remove id = .ok (w', a)) (hrole : a.role = .spender) :
    w'.SameManagers w := by
  refine ⟨sameHeader_remove h, ?_⟩
  obtain ⟨ha, -, rfl⟩ := remove_eq_ok_iff.1 h
  have hspender : a.role.manages = false := by rw [hrole]; rfl
  rw [managers, managers, filter_eraseP ha hspender]

lemma sameManagers_recordCounter {outcome : AuthOutcome} (hwf : w.WellFormed)
    (ha : w.authority? id = some a)
    (hkind : ∀ counter, outcome.newCounter = some counter → a.kind.usesSecp256r1 = true)
    (h : w.recordCounter id outcome = .ok w') : w'.SameManagers w := by
  refine ⟨sameHeader_recordCounter ha h, ?_⟩
  cases hcounter : outcome.newCounter with
  | none =>
    rw [recordCounter_eq_ok_iff ha, hcounter] at h
    rw [h]
  | some counter =>
    obtain ⟨before, after, hl, rfl⟩ := exists_split_of_recordCounter hwf ha h hcounter
    simp only [managers, hl, List.filter_append, List.map_append, List.filter_cons]
    split
    · rw [List.map_cons, List.map_cons, Authority.uncounted_counter (hkind counter hcounter)]
    · rfl

end Wallet

namespace Context

variable {c : Context} {auth : Authorization} {ix : Instruction} {s : Action}

/-- The wallet whose owner acts: the marker at the third account names it. -/
def actingOwner? (c : Context) : Option Key := do
  let e ← c.named? 2
  let a ← Records.authorityAt? (View.record? c.data?) e
  if a.role = .owner then some e.wallet else none

/-- The wallet whose owner acts in an instruction that changes the wallet's authorities. -/
def governed? (c : Context) : Instruction → Option Key
  | .addAuthority .. | .removeAuthority .. | .transferOwnership .. => c.actingOwner?
  | _ => none

lemma Acts.usesSecp256r1 {allowSession : Bool} {counter : UInt32}
    (h : c.Acts auth allowSession s) (hcounter : s.outcome.newCounter = some counter) :
    s.entry.kind.usesSecp256r1 = true := by
  rcases AuthRequest.byMaster_or_bySession h.authenticated with ⟨-, hm⟩ | ⟨ho, -⟩
  · rw [hcounter] at hm
    cases hm with
    | signature signed =>
      obtain ⟨key, hkey, -⟩ := signed.verified
      exact AuthRequest.usesSecp256r1_of_secp256r1Master? hkey
  · rw [ho] at hcounter
    cases hcounter

lemma Acts.actingOwner? {allowSession : Bool} (h : c.Acts auth allowSession s)
    (howner : s.entry.role = .owner) : c.actingOwner? = some s.wallet.key := by
  have hentry : Records.authorityAt? (View.record? c.data?) ⟨s.wallet.key, s.entry.id⟩ =
      some s.entry := by
    rw [Records.authorityAt?_of_wallet h.holds.record, h.named.entry]
  simp [Context.actingOwner?, named?_of_names h.marker h.named, hentry, howner]

/-- An instruction that a wallet's owner does not act in keeps the wallet's managers. -/
theorem Alters.sameManagers {counted w' : Wallet} (h : c.Alters auth ix s counted w')
    (hgoverned : c.governed? ix ≠ some s.wallet.key) : w'.SameManagers s.record := by
  have hcounted : counted.SameManagers s.record :=
    Wallet.sameManagers_recordCounter (View.wellFormed_of_record? h.acts.holds.record)
      h.acts.named.entry (fun _ => h.acts.usesSecp256r1) h.counts
  have haltered := h.altered
  cases ix with
  | createWallet => exact haltered.elim
  | addAuthority role p proof =>
    obtain ⟨hmay, id, hinsert⟩ := haltered
    obtain ⟨-, howner | ⟨-, rfl⟩⟩ := mayAdd_iff.1 hmay
    · exact absurd (h.acts.actingOwner? howner) hgoverned
    · exact (Wallet.sameManagers_insert hinsert).trans hcounted
  | removeAuthority proof =>
    obtain ⟨a, hmay, hremove⟩ := haltered
    obtain howner | ⟨-, hrole⟩ := mayRemove_iff.1 hmay
    · exact absurd (h.acts.actingOwner? howner) hgoverned
    · exact (Wallet.sameManagers_remove hremove hrole).trans hcounted
  | transferOwnership p proof =>
    exact absurd (h.acts.actingOwner? haltered.1) hgoverned
  | execute | createSession =>
    rw [show w' = counted from haltered]
    exact hcounted

end Context

namespace Ledger

variable (d : Deployment)

def governed? (l : Ledger) : Step → Option Key
  | .submit verify dispatcher accounts data =>
    match (l.process d verify dispatcher accounts data).result,
      (l.context d verify accounts).readInstruction data with
    | .ok _, .ok (ix, _) => (l.context d verify accounts).governed? ix
    | _, _ => none
  | _ => none

/-- The wallets whose owners change authorities in a run. -/
def governed : Ledger → List Step → List Key := trace d fun l s => (l.governed? d s).toList

variable {d} {l : Ledger} {key : Key} {w : Wallet} {steps : List Step}

lemma sameManagers_step (s : Step) (hw : l.view.record? key = some (.wallet w))
    (hgoverned : l.governed? d s ≠ some key) :
    ∃ w', (l.step d s).view.record? key = some (.wallet w') ∧ w'.SameManagers w := by
  cases s with
  | submit verify dispatcher accounts data =>
    cases h : (l.process d verify dispatcher accounts data).result with
    | error e =>
      simp only [step, ledger_of_error h]
      exact ⟨w, hw, .refl⟩
    | ok o =>
      obtain ⟨ix, auth, hc⟩ := exists_commits h
      have hdecode := (Context.readInstruction_eq_ok_iff.1 hc.read).1
      simp only [governed?, h, hc.read] at hgoverned
      simp only [step, hc.view_eq]
      rcases hc.performs.wallet_cases (fun _ => view_of_isVacant)
        (Instruction.wellFormed_of_decode hdecode) hw with hsame | ⟨s, counted, w', halters, hkey,
          hrecord, hafter⟩
      · exact ⟨w, hsame, .refl⟩
      · subst hkey hrecord
        exact ⟨w', hafter, halters.sameManagers hgoverned⟩
  | setSlot slot => exact ⟨w, hw, .refl⟩
  | warp slots => exact ⟨w, hw, .refl⟩
  | setLamports k lamports => exact ⟨w, by simpa only [step, view_setLamports] using hw, .refl⟩

/-- Over any run in which the owner of a wallet does not add, remove or replace an authority of it,
the wallet keeps its header, its owner and its admins, with their ids, seeds and credentials. Only
its spenders, and counters of signatures, may come out differently. -/
theorem managers_kept_without_owner (hw : l.view.record? key = some (.wallet w))
    (hgoverned : key ∉ l.governed d steps) :
    ∃ w', (l.run d steps).view.record? key = some (.wallet w') ∧ w'.SameManagers w := by
  induction steps generalizing l w with
  | nil => exact ⟨w, hw, .refl⟩
  | cons s rest ih =>
    simp only [governed, trace, List.mem_append, Option.mem_toList, not_or] at hgoverned
    obtain ⟨w₁, hw₁, hsame₁⟩ := sameManagers_step s hw hgoverned.1
    obtain ⟨w₂, hw₂, hsame₂⟩ := ih hw₁ hgoverned.2
    exact ⟨w₂, hw₂, hsame₂.trans hsame₁⟩

end Ledger

namespace Sample

/-- The owner adds the passkey as an admin. -/
def promotion : Step :=
  .submit .echo .acceptAll
    [payer, ⟨walletKey, false, true⟩, ⟨managerMarkerKey, false, false⟩, ⟨markerKey, false, true⟩,
      ⟨systemProgram, false, false⟩]
    (InstructionKind.addAuthority.number :: [passkey.kind.tag, Role.admin.tag] ++
      Instruction.padding ++ passkey.encode)

def managedWallet : Wallet :=
  ⟨255, 255, walletId, [⟨0, .owner, manager.seed, 0, manager.credential⟩,
    ⟨1, .admin, passkey.seed, 0, passkey.credential⟩]⟩

/-- The passkey adds the spender by a signature. -/
def delegation : Step := .submit .echo .acceptAll additionAccounts addition

lemma delegated :
    let l := Ledger.empty.run default [founding, promotion]
    l.view.record? walletKey = some (.wallet managedWallet) ∧
      walletKey ∉ l.governed default [delegation] ∧
      ((l.run default [delegation]).authorityAt? ⟨walletKey, 2⟩).map Authority.role =
        some .spender := by
  rw [run_founding]
  decide +kernel

/-- An admin adds a spender, and the managers stay who they are. -/
theorem managers_of_delegation :
    let l := Ledger.empty.run default [founding, promotion]
    (∃ w', (l.run default [delegation]).view.record? walletKey = some (.wallet w') ∧
        w'.SameManagers managedWallet) ∧
      ((l.run default [delegation]).authorityAt? ⟨walletKey, 2⟩).map Authority.role =
        some .spender :=
  ⟨Ledger.managers_kept_without_owner delegated.1 delegated.2.1, delegated.2.2⟩

end Sample

end SmartWallet
