import SmartWallet.Proofs.Effects

/-!
# What happens to an entry

An instruction may take one entry of one wallet away from its holder: it removes the entry or gives
it new key material. It may also use up a signature of one entry. Every other entry, every other
marker and every session stay as they are, a used-up signature counts by one, and a new entry starts
at zero. So a counter tells how many signatures its entry has used since it was last reset.
-/

namespace SmartWallet

/-- An entry of a wallet, by its id. -/
structure EntryRef where
  wallet : Key
  id : UInt8
deriving DecidableEq

namespace Context

/-- The entry that the marker at a position names. -/
def named? (c : Context) (index : Nat) : Option EntryRef := do
  let r ← c.accounts[index]?
  let bs ← c.data? r.key
  let m ← AuthorityMarker.decode? bs
  pure ⟨m.wallet, m.authorityId⟩

/-- The entry that an instruction removes or gives to new key material. -/
def reset? (c : Context) : Instruction → Option EntryRef
  | .removeAuthority _ => c.named? 3
  | .transferOwnership .. => c.named? 2
  | _ => none

/-- What the acting entry is asked to authorise. A removal covers its target and its refund. -/
def actingAuthorization (c : Context) (auth : Authorization) : Instruction → Authorization
  | .removeAuthority _ =>
    match c.accounts[3]?, c.accounts[4]? with
    | some target, some refund => { auth with body := target.key.toList ++ refund.key.toList }
    | _, _ => auth
  | _ => auth

/-- What the authenticator answers for the entry that the third account names. -/
def actingOutcome (c : Context) (ix : Instruction) (auth : Authorization) :
    Except ProgramError AuthOutcome := do
  let wallet ← c.account 1
  let marker ← c.account 2
  let w ← c.loadWallet wallet.key
  let a ← c.resolveAuthority wallet.key w marker.key
  c.authenticate a (c.actingAuthorization auth ix) (ix.kind = .execute)

/-- The entry whose signature an instruction uses up. -/
def signer? (c : Context) (ix : Instruction) (auth : Authorization) : Option EntryRef :=
  match c.actingOutcome ix auth with
  | .ok ⟨_, some _⟩ => c.named? 2
  | _ => none

end Context

/-- The entry, if its wallet lists it. -/
def Records.authorityAt? (records : Records) (e : EntryRef) : Option Authority :=
  match records e.wallet with
  | some (.wallet w) => w.authority? e.id
  | _ => none

namespace Records

variable {records : Records} {e : EntryRef} {a : Authority} {key : Key} {w : Wallet}

lemma authorityAt?_of_wallet (hw : records key = some (.wallet w)) (i : UInt8) :
    records.authorityAt? ⟨key, i⟩ = w.authority? i := by
  simp [authorityAt?, hw]

lemma authorityAt?_eq_some_iff : records.authorityAt? e = some a ↔
    ∃ w, records e.wallet = some (.wallet w) ∧ w.authority? e.id = some a := by
  unfold authorityAt?
  split
  · next w hw => simp [hw]
  · next h =>
    simp only [reduceCtorEq, false_iff, not_exists, not_and]
    exact fun w hw => absurd hw (h w)

lemma authorityAt?_of_not_wallet (h : ∀ w, records e.wallet ≠ some (.wallet w)) :
    records.authorityAt? e = none := by
  rw [Option.eq_none_iff_forall_ne_some]
  intro a ha
  obtain ⟨w, hw, -⟩ := authorityAt?_eq_some_iff.1 ha
  exact h w hw

end Records

/-- What an instruction does to entries, markers and sessions, given the entry that it resets and
the entry whose signature it uses up. -/
structure Records.Becomes (before after : Records) (reset? signer? : Option EntryRef) : Prop where
  entry : ∀ {e a}, before.authorityAt? e = some a → reset? ≠ some e → after.authorityAt? e =
    some { a with counter := a.counter + if signer? = some e then 1 else 0 }
  fresh : ∀ {e a}, after.authorityAt? e = some a →
    before.authorityAt? e = none ∨ reset? = some e → a.counter = 0
  signer : ∀ {e}, signer? = some e → ∃ a, before.authorityAt? e = some a
  authority : ∀ {key m}, before key = some (.authority m) →
    reset? ≠ some ⟨m.wallet, m.authorityId⟩ → after key = some (.authority m)
  session : ∀ {key s}, before key = some (.session s) → after key = some (.session s)

namespace Records.Becomes

variable {before after : Records} {reset? signer? : Option EntryRef}

/-- An instruction that does no more than fill vacant accounts. -/
lemma of_vacant (hframe : ∀ key, after key = before key ∨ before key = none)
    (hfresh : ∀ key w i a, before key = none → after key = some (.wallet w) →
      w.authority? i = some a → a.counter = 0) :
    before.Becomes after none none := by
  have hkept : ∀ {key r}, before key = some r → after key = some r := by
    intro key r hr
    rcases hframe key with hk | hk
    · rw [hk, hr]
    · rw [hk] at hr
      cases hr
  have hentry : ∀ {e a}, before.authorityAt? e = some a → after.authorityAt? e = some a := by
    intro e a ha
    obtain ⟨w, hw, hi⟩ := authorityAt?_eq_some_iff.1 ha
    exact authorityAt?_eq_some_iff.2 ⟨w, hkept hw, hi⟩
  constructor
  case entry =>
    intro e a ha _
    rw [hentry ha, if_neg (by simp)]
    simp
  case fresh =>
    rintro e a ha (hnone | hreset)
    · obtain ⟨w, hw, hi⟩ := authorityAt?_eq_some_iff.1 ha
      rcases hframe e.wallet with hk | hk
      · rw [authorityAt?_eq_some_iff.2 ⟨w, hk ▸ hw, hi⟩] at hnone
        cases hnone
      · exact hfresh e.wallet w e.id a hk hw hi
    · cases hreset
  case signer => rintro _ ⟨⟩
  case authority => exact fun hm _ => hkept hm
  case session => exact hkept

lemma refl : before.Becomes before none none :=
  of_vacant (fun _ => .inl rfl) fun key w i a hnone hw => by
    rw [hnone] at hw
    cases hw

/-- An instruction that rewrites one wallet, fills vacant accounts with other records, and may close
the marker of the entry that it resets. -/
lemma of_rewrite {key : Key} {w w' : Wallet} (hw : before key = some (.wallet w))
    (hw' : after key = some (.wallet w'))
    (hentries : ∀ i a, w.authority? i = some a → reset? ≠ some ⟨key, i⟩ → w'.authority? i =
      some { a with counter := a.counter + if signer? = some ⟨key, i⟩ then 1 else 0 })
    (hfresh : ∀ i a, w'.authority? i = some a → w.authority? i = none ∨ reset? = some ⟨key, i⟩ →
      a.counter = 0)
    (hreset : ∀ e, reset? = some e → e.wallet = key)
    (hsigner : ∀ e, signer? = some e → e.wallet = key ∧ ∃ a, w.authority? e.id = some a)
    (hframe : ∀ k, k ≠ key → after k = before k ∨ (∀ v, after k ≠ some (.wallet v)) ∧
      (before k = none ∨
        ∃ m, before k = some (.authority m) ∧ reset? = some ⟨m.wallet, m.authorityId⟩)) :
    before.Becomes after reset? signer? := by
  have hbefore : ∀ k v, k ≠ key → after k ≠ before k → before k ≠ some (.wallet v) := by
    intro k v hk hne hv
    rcases hframe k hk with hsame | ⟨-, hnone | ⟨m, hm, -⟩⟩
    · exact hne hsame
    · rw [hnone] at hv
      cases hv
    · rw [hm] at hv
      cases hv
  -- at another wallet nothing happens, also where an account was filled or closed
  have hother : ∀ {e : EntryRef}, e.wallet ≠ key →
      after.authorityAt? e = before.authorityAt? e := by
    intro e he
    by_cases hsame : after e.wallet = before e.wallet
    · simp only [authorityAt?, hsame]
    · rcases hframe e.wallet he with h | ⟨hafter, -⟩
      · exact absurd h hsame
      · rw [authorityAt?_of_not_wallet hafter,
          authorityAt?_of_not_wallet fun v => hbefore e.wallet v he hsame]
  constructor
  case entry =>
    intro e a ha hne
    by_cases he : e.wallet = key
    · obtain ⟨_, i⟩ := e
      subst he
      rw [authorityAt?_of_wallet hw] at ha
      rw [authorityAt?_of_wallet hw', hentries i a ha hne]
    · rw [hother he, ha, if_neg fun hs => he (hsigner e hs).1]
      simp
  case fresh =>
    intro e a ha hnew
    by_cases he : e.wallet = key
    · obtain ⟨_, i⟩ := e
      subst he
      rw [authorityAt?_of_wallet hw'] at ha
      rw [authorityAt?_of_wallet hw] at hnew
      exact hfresh i a ha hnew
    · rw [hother he] at ha
      rcases hnew with hnone | hr
      · rw [ha] at hnone
        cases hnone
      · exact absurd (hreset e hr) he
  case signer =>
    intro e he
    obtain ⟨hkey, a, ha⟩ := hsigner e he
    exact ⟨a, authorityAt?_eq_some_iff.2 ⟨w, by rw [hkey, hw], ha⟩⟩
  case authority =>
    intro k m hm hne
    have hk : k ≠ key := Records.ne_of_record_ne hm hw (by simp)
    rcases hframe k hk with hsame | ⟨-, hnone | ⟨m', hm', hreset'⟩⟩
    · rw [hsame, hm]
    · rw [hnone] at hm
      cases hm
    · rw [hm'] at hm
      cases hm
      exact absurd hreset' hne
  case session =>
    intro k s hs
    have hk : k ≠ key := Records.ne_of_record_ne hs hw (by simp)
    rcases hframe k hk with hsame | ⟨-, hnone | ⟨m, hm, -⟩⟩
    · rw [hsame, hs]
    · rw [hnone] at hs
      cases hs
    · rw [hm] at hs
      cases hs

end Records.Becomes

/-! ## Who acts -/

namespace Context

variable {c : Context} {auth : Authorization} {ix : Instruction} {delta : Delta} {s : Action}

lemma named?_of_record {index : Nat} {r : AccountRef} {m : AuthorityMarker}
    (hr : c.accounts[index]? = some r)
    (hm : View.record? c.data? r.key = some (.authority m)) :
    c.named? index = some ⟨m.wallet, m.authorityId⟩ := by
  obtain ⟨bs, hbs, hdecode⟩ := View.record?_eq_authority_iff.1 hm
  simp [named?, hr, hbs, hdecode]

lemma named?_of_names {index : Nat} {r : AccountRef} {walletKey : Key} {w : Wallet}
    {a : Authority} (hr : c.accounts[index]? = some r)
    (ha : View.Names c.data? c.deployment walletKey w r.key a) :
    c.named? index = some ⟨walletKey, a.id⟩ := by
  obtain ⟨bump, hrecord⟩ := ha.record
  exact named?_of_record hr hrecord

lemma actingOutcome_of_acts
    (h : c.Acts (c.actingAuthorization auth ix) (ix.kind = .execute) s) :
    c.actingOutcome ix auth = .ok s.outcome := by
  simp only [actingOutcome, bind_eq_ok_iff, account_eq_ok_iff, loadWallet_eq_ok_iff,
    resolveAuthority_eq_ok_iff, authenticate_eq_ok_iff h.payer]
  exact ⟨_, h.wallet, _, h.marker, _, h.holds, _, h.named, h.authenticated⟩

lemma signer?_of_acts (h : c.Acts (c.actingAuthorization auth ix) (ix.kind = .execute) s) :
    c.signer? ix auth = s.outcome.newCounter.map fun _ => ⟨s.wallet.key, s.entry.id⟩ := by
  have ho := actingOutcome_of_acts h
  obtain ⟨payer, wallet, marker, w, a, viaSession, counter?⟩ := s
  cases counter? with
  | none => simp [signer?, ho]
  | some counter => simp [signer?, ho, named?_of_names h.marker h.named]

/-- A used-up signature is for the next counter. -/
lemma Acts.newCounter {allowSession : Bool} {counter : UInt32} (h : c.Acts auth allowSession s)
    (hcounter : s.outcome.newCounter = some counter) : counter = s.entry.counter + 1 := by
  rcases AuthRequest.byMaster_or_bySession h.authenticated with ⟨-, hm⟩ | ⟨ho, -⟩
  · rw [hcounter] at hm
    cases hm with
    | signature signed => exact signed.counter
  · rw [ho] at hcounter
    cases hcounter

lemma Acts.entry_counted {allowSession : Bool} {counted : Wallet} {e? : Option EntryRef}
    (h : c.Acts auth allowSession s)
    (hsigner : e? = s.outcome.newCounter.map fun _ => ⟨s.wallet.key, s.entry.id⟩)
    (hcounts : s.record.recordCounter s.entry.id s.outcome = .ok counted) {i : UInt8}
    {a : Authority} (ha : s.record.authority? i = some a) :
    counted.authority? i =
      some { a with counter := a.counter + if e? = some ⟨s.wallet.key, i⟩ then 1 else 0 } := by
  rw [Wallet.authority?_recordCounter h.named.entry hcounts, hsigner]
  by_cases hi : i = s.entry.id
  · subst hi
    rw [h.named.entry] at ha
    cases ha
    cases hcounter : s.outcome.newCounter with
    | none => simp
    | some counter => simp [h.newCounter hcounter]
  · rw [if_neg hi, ha, if_neg]
    · simp
    · intro hsome
      obtain ⟨counter, -, he⟩ := Option.map_eq_some_iff.1 hsome
      cases he
      exact hi rfl

lemma Acts.none_counted {allowSession : Bool} {counted : Wallet} (h : c.Acts auth allowSession s)
    (hcounts : s.record.recordCounter s.entry.id s.outcome = .ok counted) {i : UInt8}
    (hi : s.record.authority? i = none) : counted.authority? i = none := by
  rw [Option.eq_none_iff_forall_ne_some]
  intro a ha
  obtain ⟨counter, hc⟩ := Wallet.exists_before_recordCounter h.named.entry hcounts ha
  rw [hi] at hc
  cases hc

lemma Acts.fresh_counted {allowSession : Bool} {counted : Wallet}
    (h : c.Acts auth allowSession s)
    (hcounts : s.record.recordCounter s.entry.id s.outcome = .ok counted) (i : UInt8)
    (a : Authority) (ha : counted.authority? i = some a)
    (hnew : s.record.authority? i = none ∨ none = some (EntryRef.mk s.wallet.key i)) :
    a.counter = 0 := by
  rcases hnew with hnone | hreset
  · rw [h.none_counted hcounts hnone] at ha
    cases ha
  · cases hreset

lemma Acts.signer {allowSession : Bool} {e : EntryRef} {e? : Option EntryRef}
    (h : c.Acts auth allowSession s)
    (hsigner : e? = s.outcome.newCounter.map fun _ => ⟨s.wallet.key, s.entry.id⟩)
    (he : e? = some e) : e.wallet = s.wallet.key ∧ ∃ a, s.record.authority? e.id = some a := by
  rw [hsigner] at he
  obtain ⟨counter, -, rfl⟩ := Option.map_eq_some_iff.1 he
  exact ⟨rfl, s.entry, h.named.entry⟩

lemma signer?_of_vacant {key : Key} (hkey : c.keyAt 1 = some key) (hvacant : c.data? key = none) :
    c.signer? ix auth = none := by
  cases ho : c.actingOutcome ix auth with
  | error e => simp [signer?, ho]
  | ok o =>
    simp only [actingOutcome, bind_eq_ok_iff, account_eq_ok_iff, loadWallet_eq_ok_iff] at ho
    obtain ⟨r, hr, _, _, w, hw, _⟩ := ho
    obtain ⟨r', hr', rfl⟩ := Option.map_eq_some_iff.1 hkey
    rw [hr] at hr'
    cases hr'
    have hrecord := hw.record
    rw [View.record?_of_vacant hvacant] at hrecord
    cases hrecord

lemma signer?_of_session {r : AccountRef} {t : SessionRecord} (hr : c.accounts[2]? = some r)
    (ht : View.record? c.data? r.key = some (.session t)) : c.signer? ix auth = none := by
  cases ho : c.actingOutcome ix auth with
  | error e => simp [signer?, ho]
  | ok o =>
    simp only [actingOutcome, bind_eq_ok_iff, account_eq_ok_iff, resolveAuthority_eq_ok_iff] at ho
    obtain ⟨_, _, r', hr', _, _, a, ha, _⟩ := ho
    rw [hr] at hr'
    cases hr'
    obtain ⟨bump, hrecord⟩ := ha.record
    rw [ht] at hrecord
    cases hrecord

/-! ## What an instruction does -/

lemma Acts.wellFormed_counted {allowSession : Bool} {counted : Wallet}
    (h : c.Acts auth allowSession s)
    (hcounts : s.record.recordCounter s.entry.id s.outcome = .ok counted) : counted.WellFormed :=
  (View.wellFormed_of_record? h.holds.record).recordCounter h.named.entry hcounts

/-- The owner who acts is the one who is replaced. -/
lemma Acts.id_of_replaceOwner {allowSession : Bool} {counted moved : Wallet} {old : Authority}
    {seed : Key} {credential : Credential} (h : c.Acts auth allowSession s)
    (hrole : s.entry.role = .owner)
    (hcounts : s.record.recordCounter s.entry.id s.outcome = .ok counted)
    (hreplaces : counted.replaceOwner seed credential = .ok (moved, old)) :
    old.id = s.entry.id := by
  obtain ⟨counter, hb⟩ := Wallet.exists_after_recordCounter h.named.entry hcounts h.named.entry
  have howner := (Wallet.replaceOwner_eq_ok_iff.1 hreplaces).1
  rw [← (h.wellFormed_counted hcounts).owner_unique (Wallet.mem_of_authority? hb)
    (List.mem_of_find?_eq_some howner) hrole (Wallet.role_of_owner? howner)]

/-- The write that a signature brings by itself. -/
lemma Acts.record?_counted {allowSession : Bool} {counted : Wallet}
    (h : c.Acts auth allowSession s)
    (hcounts : s.record.recordCounter s.entry.id s.outcome = .ok counted) :
    View.record? (Delta.shown (if s.outcome.newCounter.isSome then
      [.store s.wallet.key counted.encode] else []) c.data?) =
      Function.update (View.record? c.data?) s.wallet.key (some (.wallet counted)) := by
  have hwf := h.wellFormed_counted hcounts
  split
  · simp only [Delta.shown_cons, Delta.shown_nil, Write.shown_wallet]
    exact View.record?_put (StoredRecord.decode?_encode_wallet hwf)
  · next ho =>
    have hnone : s.outcome.newCounter = none := by simpa using ho
    rw [Wallet.recordCounter_eq_ok_iff h.named.entry, hnone] at hcounts
    rw [hcounts, ← h.holds.record, Function.update_eq_self]
    rfl

lemma Performs.becomes (hp : c.Performs auth ix delta)
    (hvisible : ∀ key, c.isVacant key = true → c.data? key = none)
    (hix : ix.WellFormed) :
    Records.Becomes (View.record? c.data?) (View.record? (delta.shown c.data?)) (c.reset? ix)
      (c.signer? ix auth) := by
  cases hp with
  | @createWallet walletId owner payer wallet vault marker w _ _ _ _ hwalletAt hwalletVacant _ _ _ _
      hmarkerVacant hcreated =>
    have hwf := (Wallet.registered_new hcreated (hix.enrolled owner rfl).compressed).toWellFormed
    have hwallet := hvisible _ hwalletVacant
    have hmarker := hvisible _ hmarkerVacant
    rw [signer?_of_vacant hwalletAt hwallet]
    rw [View.record?_enrolment hwf]
    apply Records.Becomes.of_vacant
    · intro k
      by_cases hkm : k = marker.key
      · exact .inr (by rw [hkm, View.record?_of_vacant hmarker])
      · rw [Function.update_of_ne hkm]
        by_cases hkw : k = wallet.key
        · exact .inr (by rw [hkw, View.record?_of_vacant hwallet])
        · exact .inl (Function.update_of_ne hkw ..)
    · intro k v i a hnone hv ha
      have hkm : k ≠ marker.key := by
        rintro rfl
        rw [Function.update_self] at hv
        cases hv
      have hkw : k = wallet.key := by
        by_contra hkw
        rw [Function.update_of_ne hkm, Function.update_of_ne hkw, hnone] at hv
        cases hv
      rw [Function.update_of_ne hkm, hkw, Function.update_self] at hv
      cases hv
      rw [Wallet.authority?_new hcreated] at ha
      split at ha
      · cases ha
        rfl
      · cases ha
  | @addAuthority role p proof s marker counted grown id hacts _ _ _ _ hvacant hcounts hinserts =>
    have hsigner : c.signer? (.addAuthority role p proof) auth = _ := signer?_of_acts hacts
    have hmarker := View.record?_of_vacant (hvisible _ hvacant)
    have hcounted := hacts.wellFormed_counted hcounts
    have hwf := hcounted.insert (hix.enrolled p rfl).compressed hinserts
    obtain ⟨hfresh, hget⟩ := Wallet.authority?_insert hcounted hinserts
    have hne : s.wallet.key ≠ marker.key :=
      Records.ne_of_record_ne hacts.holds.record hmarker (by simp)
    rw [View.record?_enrolment hwf]
    refine Records.Becomes.of_rewrite hacts.holds.record
      (by rw [Function.update_of_ne hne, Function.update_self]) ?_ ?_ (fun e he => by cases he)
      (fun e => hacts.signer hsigner) ?_
    · intro i a ha _
      have hcount := hacts.entry_counted hsigner hcounts ha
      rw [hget, if_neg, hcount]
      rintro rfl
      rw [hfresh] at hcount
      cases hcount
    · rintro i a ha (hnone | hreset)
      · rw [hget, hacts.none_counted hcounts hnone] at ha
        split at ha
        · cases ha
          rfl
        · cases ha
      · cases hreset
    · intro k hk
      by_cases hkm : k = marker.key
      · exact .inr ⟨by simp [hkm], .inl (by rw [hkm, hmarker])⟩
      · exact .inl (by rw [Function.update_of_ne hkm, Function.update_of_ne hk])
  | @removeAuthority proof s target refund a removed counted shrunk htargetAt hrefundAt _ hacts
      hnamed _ _ hcounts hremoves =>
    have hreset : c.reset? (.removeAuthority proof) = some ⟨s.wallet.key, a.id⟩ :=
      named?_of_names htargetAt hnamed
    have hasked : c.Acts (c.actingAuthorization auth (.removeAuthority proof)) false s := by
      simpa only [actingAuthorization, htargetAt, hrefundAt] using hacts
    have hsigner : c.signer? (.removeAuthority proof) auth = _ := signer?_of_acts hasked
    have hcounted := hacts.wellFormed_counted hcounts
    have hwf := hcounted.remove hremoves
    obtain ⟨bump, htarget⟩ := hnamed.record
    have hne : s.wallet.key ≠ target.key :=
      Records.ne_of_record_ne hacts.holds.record htarget (by simp)
    rw [View.record?_removal hwf, hreset]
    refine Records.Becomes.of_rewrite hacts.holds.record
      (by rw [Function.update_of_ne hne, Function.update_self]) ?_ ?_
      (fun e he => by rw [← Option.some.inj he]) (fun e => hacts.signer hsigner) ?_
    · intro i b hb hi
      rw [Wallet.authority?_remove hcounted hremoves, if_neg,
        hacts.entry_counted hsigner hcounts hb]
      rintro rfl
      exact hi rfl
    · intro i b hb hnew
      rw [Wallet.authority?_remove hcounted hremoves] at hb
      split at hb
      · cases hb
      · next hi =>
        rcases hnew with hnone | hi'
        · rw [hacts.none_counted hcounts hnone] at hb
          cases hb
        · cases hi'
          exact absurd rfl hi
    · intro k hk
      by_cases hkt : k = target.key
      · exact .inr ⟨by simp [hkt], .inr ⟨_, by rw [hkt, htarget], rfl⟩⟩
      · exact .inl (by rw [Function.update_of_ne hkt, Function.update_of_ne hk])
  | @transferOwnership p proof s marker counted moved old hacts _ hrole _ _ hcounts hreplaces
      hvacant =>
    have hreset : c.reset? (.transferOwnership p proof) = some ⟨s.wallet.key, s.entry.id⟩ :=
      named?_of_names hacts.marker hacts.named
    have hsigner : c.signer? (.transferOwnership p proof) auth = _ := signer?_of_acts hacts
    have hcounted := hacts.wellFormed_counted hcounts
    have hwf := hcounted.replaceOwner (hix.enrolled p rfl).compressed hreplaces
    have hid := hacts.id_of_replaceOwner hrole hcounts hreplaces
    obtain ⟨bump, hmarker⟩ := hacts.named.record
    have hne : s.wallet.key ≠ s.marker.key :=
      Records.ne_of_record_ne hacts.holds.record hmarker (by simp)
    have hmarkerKey : s.wallet.key ≠ marker.key := by
      rcases hvacant with hv | hv
      · rw [hv]
        exact hne
      · have hnone := View.record?_of_vacant (hvisible _ hv)
        exact Records.ne_of_record_ne hacts.holds.record hnone (by simp)
    rw [View.record?_transfer hwf, hreset]
    refine Records.Becomes.of_rewrite hacts.holds.record
      (by rw [Function.update_of_ne hmarkerKey, Function.update_of_ne hne, Function.update_self])
      ?_ ?_ (fun e he => by rw [← Option.some.inj he]) (fun e => hacts.signer hsigner) ?_
    · intro i b hb hi
      rw [Wallet.authority?_replaceOwner hcounted hreplaces, if_neg,
        hacts.entry_counted hsigner hcounts hb]
      rintro rfl
      exact hi (by rw [hid])
    · intro i b hb hnew
      rw [Wallet.authority?_replaceOwner hcounted hreplaces] at hb
      split at hb
      · cases hb
        rfl
      · next hi =>
        rcases hnew with hnone | hi'
        · rw [hacts.none_counted hcounts hnone] at hb
          cases hb
        · cases hi'
          exact absurd hid.symm hi
    · intro k hk
      by_cases hko : k = s.marker.key
      · refine .inr ⟨fun v hv => ?_, .inr ⟨_, by rw [hko, hmarker], rfl⟩⟩
        by_cases hkm : k = marker.key
        · simp [hkm] at hv
        · rw [Function.update_of_ne hkm, hko, Function.update_self] at hv
          cases hv
      · by_cases hkm : k = marker.key
        · rcases hvacant with hv | hv
          · exact absurd (hkm.trans hv) hko
          · exact .inr ⟨by simp [hkm],
              .inl (by rw [hkm, View.record?_of_vacant (hvisible _ hv)])⟩
        · exact .inl (by
            rw [Function.update_of_ne hkm, Function.update_of_ne hko, Function.update_of_ne hk])
  | @execute calls proof p payer wallet caller vault w hprepares =>
    have hauthorized := hprepares.authorized
    generalize p.plan.caller = who, p.delta = writes at hauthorized
    cases hauthorized with
    | @authority a o counted named authenticated counts =>
      have hacts := hprepares.acts named authenticated
      have hsigner : c.signer? (.execute calls proof) auth = _ := signer?_of_acts hacts
      rw [hacts.record?_counted counts]
      exact Records.Becomes.of_rewrite hprepares.holds.record (Function.update_self ..)
        (fun i b hb _ => hacts.entry_counted hsigner counts hb)
        (hacts.fresh_counted counts) (fun e he => by cases he)
        (fun e => hacts.signer hsigner) (fun k hk => .inl (Function.update_of_ne hk ..))
    | @session s record wallet derived live opener signs =>
      rw [signer?_of_session hprepares.callerAt record]
      exact Records.Becomes.refl
  | @createSession sessionKey expiresAt proof s session counted hacts _ _ _ _ hvacant _ _ hcounts =>
    have hsigner : c.signer? (.createSession sessionKey expiresAt proof) auth = _ :=
      signer?_of_acts hacts
    have hsession := View.record?_of_vacant hvacant
    have hne : s.wallet.key ≠ session.key :=
      Records.ne_of_record_ne hacts.holds.record hsession (by simp)
    rw [Delta.shown_append, Delta.shown_cons, Delta.shown_nil, Write.shown_session,
      View.record?_put (StoredRecord.decode?_encode_session _), hacts.record?_counted hcounts]
    refine Records.Becomes.of_rewrite hacts.holds.record
      (by rw [Function.update_of_ne hne, Function.update_self])
      (fun i b hb _ => hacts.entry_counted hsigner hcounts hb)
      (hacts.fresh_counted hcounts) (fun e he => by cases he) (fun e => hacts.signer hsigner) ?_
    intro k hk
    by_cases hks : k = session.key
    · exact .inr ⟨by simp [hks], .inl (by rw [hks, hsession])⟩
    · exact .inl (by rw [Function.update_of_ne hks, Function.update_of_ne hk])

end Context

/-! ## Steps and runs -/

namespace Ledger

/-- An entry as the ledger has it. -/
abbrev authorityAt? (l : Ledger) (e : EntryRef) : Option Authority :=
  Records.authorityAt? l.view.record? e

variable (d : Deployment)

/-- The entry that a step removes or gives to new key material. -/
def reset? (l : Ledger) : Step → Option EntryRef
  | .submit verify dispatcher accounts data =>
    match (l.process d verify dispatcher accounts data).result,
      (l.context d verify accounts).readInstruction data with
    | .ok _, .ok (ix, _) => (l.context d verify accounts).reset? ix
    | _, _ => none
  | _ => none

/-- The entry whose signature a step uses up. -/
def signer? (l : Ledger) : Step → Option EntryRef
  | .submit verify dispatcher accounts data =>
    match (l.process d verify dispatcher accounts data).result,
      (l.context d verify accounts).readInstruction data with
    | .ok _, .ok (ix, auth) => (l.context d verify accounts).signer? ix auth
    | _, _ => none
  | _ => none

/-- The entries that a run resets. -/
def resets : Ledger → List Step → List EntryRef := trace d fun l s => (l.reset? d s).toList

/-- The entries whose signatures a run uses up, one for each signature. -/
def signers : Ledger → List Step → List EntryRef := trace d fun l s => (l.signer? d s).toList

variable {d} {l : Ledger} {e : EntryRef} {key : Key} {a : Authority} {m : AuthorityMarker}
  {steps : List Step}

@[simp] lemma resets_cons {s : Step} : l.resets d (s :: steps) =
    (l.reset? d s).toList ++ (l.step d s).resets d steps := rfl

lemma signers_nil : l.signers d [] = [] := rfl

@[simp] lemma signers_cons {s : Step} : l.signers d (s :: steps) =
    (l.signer? d s).toList ++ (l.step d s).signers d steps := rfl

lemma becomes_step (s : Step) :
    Records.Becomes l.view.record? (l.step d s).view.record? (l.reset? d s) (l.signer? d s) := by
  cases s with
  | submit verify dispatcher accounts data =>
    cases h : (l.process d verify dispatcher accounts data).result with
    | error e =>
      simp only [step, ledger_of_error h, reset?, signer?, h]
      exact Records.Becomes.refl
    | ok o =>
      obtain ⟨ix, auth, hc⟩ := exists_commits h
      have hdecode := (Context.readInstruction_eq_ok_iff.1 hc.read).1
      have hbecomes := hc.performs.becomes (fun _ => view_of_isVacant)
        (Instruction.wellFormed_of_decode hdecode)
      simp only [step, hc.view_eq, reset?, signer?, h, hc.read]
      exact hbecomes
  | setSlot slot => exact Records.Becomes.refl
  | warp slots => exact Records.Becomes.refl
  | setLamports key lamports =>
    simp only [step, view_setLamports]
    exact Records.Becomes.refl

/-- A marker stays in its place until its entry is reset. -/
theorem marker_of_run (hm : l.view.record? key = some (.authority m))
    (hkept : ⟨m.wallet, m.authorityId⟩ ∉ l.resets d steps) :
    (l.run d steps).view.record? key = some (.authority m) := by
  induction steps generalizing l with
  | nil => exact hm
  | cons s rest ih =>
    simp only [resets_cons, List.mem_append, Option.mem_toList, not_or] at hkept
    exact ih ((becomes_step s).authority hm hkept.1) hkept.2

/-- An entry stays as it is until it is reset, except that its counter counts its signatures. -/
theorem entry_of_run (ha : l.authorityAt? e = some a) (hkept : e ∉ l.resets d steps) :
    (l.run d steps).authorityAt? e =
      some { a with counter := a.counter + UInt32.ofNat ((l.signers d steps).count e) } := by
  induction steps generalizing l a with
  | nil =>
    show l.authorityAt? e = _
    rw [signers_nil]
    simpa using ha
  | cons s rest ih =>
    simp only [resets_cons, List.mem_append, Option.mem_toList, not_or] at hkept
    have hstep := (becomes_step s).entry ha hkept.1
    have hcount : (l.signers d (s :: rest)).count e =
        (if l.signer? d s = some e then 1 else 0) + ((l.step d s).signers d rest).count e := by
      rw [signers_cons, List.count_append]
      cases hs : l.signer? d s <;> simp [List.count_singleton]
    refine (ih hstep hkept.2).trans ?_
    rw [hcount, UInt32.ofNat_add, UInt32.add_assoc]
    split <;> rfl

/-! ## The counter -/

variable (d e) in
/-- How many signatures of an entry count after a step. A reset starts again at none. -/
def tally (l : Ledger) (s : Step) (n : Nat) : Nat :=
  if l.reset? d s = some e then 0 else if l.signer? d s = some e then n + 1 else n

variable (d e) in
/-- How many signatures of an entry a run has used up since the entry was last reset, where `n` had
been before the run. -/
def usedFrom : Nat → Ledger → List Step → Nat
  | n, _, [] => n
  | n, l, s :: rest => usedFrom (l.tally d e s n) (l.step d s) rest

/-- An entry's counter tells how many signatures the entry has used up. -/
def Tallies (l : Ledger) (e : EntryRef) (n : Nat) : Prop :=
  match l.authorityAt? e with
  | some a => a.counter = UInt32.ofNat n
  | none => n = 0

lemma counter_of_tallies {n : Nat} (h : l.Tallies e n)
    (ha : l.authorityAt? e = some a) : a.counter = UInt32.ofNat n := by
  simpa [Tallies, ha] using h

lemma tallies_step {n : Nat} (s : Step) (h : l.Tallies e n) :
    (l.step d s).Tallies e (l.tally d e s n) := by
  have hbecomes := becomes_step (d := d) (l := l) s
  by_cases hreset : l.reset? d s = some e
  · rw [tally, if_pos hreset, Tallies]
    split
    · next a ha => exact hbecomes.fresh ha (.inr hreset)
    · rfl
  rw [tally, if_neg hreset]
  cases hbefore : l.authorityAt? e with
  | some a =>
    have hafter : (l.step d s).authorityAt? e = some _ := hbecomes.entry hbefore hreset
    rw [Tallies, hafter]
    show a.counter + _ = _
    rw [counter_of_tallies h hbefore]
    split
    · rw [UInt32.ofNat_add]
      rfl
    · simp
  | none =>
    -- an entry that is not there signs nothing, and it starts at zero once it is there
    have hsigner : l.signer? d s ≠ some e := by
      intro hs
      obtain ⟨a, ha⟩ := hbecomes.signer hs
      cases hbefore.symm.trans ha
    have hn : n = 0 := by simpa [Tallies, hbefore] using h
    rw [if_neg hsigner, hn, Tallies]
    split
    · next a ha => exact hbecomes.fresh ha (.inl hbefore)
    · rfl

lemma tallies_run {n : Nat} (h : l.Tallies e n) :
    (l.run d steps).Tallies e (usedFrom d e n l steps) := by
  induction steps generalizing l n with
  | nil => exact h
  | cons s rest ih => exact ih (tallies_step s h)

lemma tallies_empty : empty.Tallies e 0 := rfl

variable (d e steps) in
/-- How many signatures of an entry a run from the empty ledger has used up since the entry was last
reset. -/
def used : Nat := usedFrom d e 0 empty steps

/-- After any run from the empty ledger, the counter of an entry is the number of signatures that it
has used up since it was last reset. -/
theorem counter_eq_used (ha : (empty.run d steps).authorityAt? e = some a) :
    a.counter = UInt32.ofNat (used d e steps) :=
  counter_of_tallies (tallies_run tallies_empty) ha

end Ledger

end SmartWallet
