import SmartWallet.Proofs.Effects

/-!
# The registry

A wallet lists its authorities, and each of them also has a marker at an address of its own. The
`Registry` invariant keeps the two in one-to-one correspondence; every instruction preserves it, as
long as the addresses that it creates accounts at are apart.
-/

namespace SmartWallet

/-- A wallet record in its place: it lies at its own address and carries both of its bumps. -/
structure Wallet.PlacedAt (d : Deployment) (key : Key) (w : Wallet) : Prop where
  registered : w.Registered
  derived : (Recipe.wallet w.walletId.toList).derive d = .ok ⟨key, w.bump⟩
  vault : ∃ vault, (Recipe.vault key).derive d = .ok ⟨vault, w.vaultBump⟩

/-- A marker in its place: it lies at its own address and names an entry of an existing wallet by
id and seed. -/
structure AuthorityMarker.PlacedAt (d : Deployment) (records : Records) (key : Key)
    (m : AuthorityMarker) : Prop where
  derived : (Recipe.authority m.wallet m.seed).derive d = .ok ⟨key, m.bump⟩
  named : ∃ w a, records m.wallet = some (.wallet w) ∧ w.authority? m.authorityId = some a ∧
    a.seed = m.seed

/-- A session record in its place: it lies at its own address and belongs to an existing wallet. -/
structure SessionRecord.PlacedAt (d : Deployment) (records : Records) (key : Key)
    (s : SessionRecord) : Prop where
  derived : (Recipe.session s.wallet s.sessionKey).derive d = .ok ⟨key, s.bump⟩
  opened : ∃ w, records s.wallet = some (.wallet w)

/-- Every record is in its place, and every entry of a wallet has its marker. -/
structure Registry (d : Deployment) (records : Records) : Prop where
  wallet : ∀ {key w}, records key = some (.wallet w) → w.PlacedAt d key
  authority : ∀ {key m}, records key = some (.authority m) → m.PlacedAt d records key
  session : ∀ {key s}, records key = some (.session s) → s.PlacedAt d records key
  marked : ∀ {key w i a}, records key = some (.wallet w) → w.authority? i = some a →
    ∃ marker bump, (Recipe.authority key a.seed).derive d = .ok ⟨marker, bump⟩ ∧
      records marker = some (.authority ⟨bump, i, key, a.seed⟩)

namespace Registry

variable {d : Deployment} {records after : Records} {key k : Key} {w w' : Wallet}

lemma empty : Registry d fun _ => none where
  wallet h := by cases h
  authority h := by cases h
  session h := by cases h
  marked h := by cases h

/-- Nothing, or a marker of the given wallet. -/
def AtMostMarker (key : Key) (r? : Option StoredRecord) : Prop :=
  ∀ r, r? = some r → ∃ m, r = .authority m ∧ m.wallet = key

/-- Changing one wallet record and the markers of its entries. -/
lemma rewrite (h : Registry d records) (hplaced : w'.PlacedAt d key)
    (hwallet : after key = some (.wallet w'))
    (hbefore : ∀ r, records key = some r → ∃ w, r = .wallet w)
    (hframe : ∀ k, k ≠ key → after k = records k ∨
      AtMostMarker key (records k) ∧ AtMostMarker key (after k))
    (hnamed : ∀ k m, after k = some (.authority m) → m.wallet = key →
      (Recipe.authority key m.seed).derive d = .ok ⟨k, m.bump⟩ ∧
        ∃ a, w'.authority? m.authorityId = some a ∧ a.seed = m.seed)
    (hmarked : ∀ i a, w'.authority? i = some a →
      ∃ marker bump, (Recipe.authority key a.seed).derive d = .ok ⟨marker, bump⟩ ∧
        after marker = some (.authority ⟨bump, i, key, a.seed⟩)) :
    Registry d after := by
  have hkept : ∀ {k v}, records k = some (.wallet v) → ∃ v', after k = some (.wallet v') := by
    intro k v hk
    by_cases hkey : k = key
    · exact ⟨w', by rw [hkey, hwallet]⟩
    · rcases hframe k hkey with hsame | ⟨hm, -⟩
      · exact ⟨v, by rw [hsame, hk]⟩
      · obtain ⟨m, hr, -⟩ := hm _ hk
        cases hr
  have hother : ∀ {k r}, k ≠ key → after k = some r →
      (∀ m, r = .authority m → m.wallet ≠ key) → records k = some r := by
    intro k r hkey hk hr
    rcases hframe k hkey with hsame | ⟨-, hm⟩
    · rw [← hsame, hk]
    · obtain ⟨m, hrm, hmkey⟩ := hm r hk
      exact absurd hmkey (hr m hrm)
  constructor
  case wallet =>
    intro k v hk
    by_cases hkey : k = key
    · subst hkey
      rw [hwallet] at hk
      cases hk
      exact hplaced
    · exact h.wallet (hother hkey hk fun m hm => by cases hm)
  case authority =>
    intro k m hk
    by_cases hm : m.wallet = key
    · obtain ⟨hderived, a, ha, hseed⟩ := hnamed k m hk hm
      exact ⟨by rw [hm, hderived], w', a, by rw [hm, hwallet], ha, hseed⟩
    · have hkey : k ≠ key := Records.ne_of_record_ne hk hwallet (by simp)
      have hold := hother hkey hk fun m' hm' => by
        cases hm'
        exact hm
      obtain ⟨hderived, v, a, hv, ha, hseed⟩ := h.authority hold
      refine ⟨hderived, v, a, ?_, ha, hseed⟩
      rcases hframe m.wallet hm with hsame | ⟨hmm, -⟩
      · rw [hsame, hv]
      · obtain ⟨m', hr, -⟩ := hmm _ hv
        cases hr
  case session =>
    intro k s hk
    have hkey : k ≠ key := Records.ne_of_record_ne hk hwallet (by simp)
    obtain ⟨hderived, v, hv⟩ := h.session (hother hkey hk fun m hm => by cases hm)
    exact ⟨hderived, hkept hv⟩
  case marked =>
    intro k v i a hk ha
    by_cases hkey : k = key
    · subst hkey
      rw [hwallet] at hk
      cases hk
      exact hmarked i a ha
    · obtain ⟨marker, bump, hderived, hmarker⟩ :=
        h.marked (hother hkey hk fun m hm => by cases hm) ha
      have hne : marker ≠ key := by
        rintro rfl
        obtain ⟨_, hr⟩ := hbefore _ hmarker
        cases hr
      refine ⟨marker, bump, hderived, ?_⟩
      rcases hframe marker hne with hsame | ⟨hm, -⟩
      · rw [hsame, hmarker]
      · obtain ⟨m, hr, hmkey⟩ := hm _ hmarker
        cases hr
        exact absurd hmkey hkey

/-! ## What each kind of write keeps -/

lemma derived_eq {recipe : Recipe} {a b : DerivedAddress} (ha : recipe.derive d = .ok a)
    (hb : recipe.derive d = .ok b) : a = b := by
  rw [ha] at hb
  cases hb
  rfl

/-- An entry's marker is the only marker of its wallet with its id. -/
lemma marker_unique (h : Registry d records) {m : AuthorityMarker} {a : Authority} {bump : UInt8}
    (hk : records k = some (.authority m)) (hw : records m.wallet = some (.wallet w))
    (ha : w.authority? m.authorityId = some a)
    (hderived : (Recipe.authority m.wallet a.seed).derive d = .ok ⟨key, bump⟩) : k = key := by
  obtain ⟨hplace, v, b, hv, hb, hseed⟩ := h.authority hk
  rw [hw] at hv
  cases hv
  rw [ha] at hb
  cases hb
  rw [← hseed] at hplace
  cases derived_eq hplace hderived
  rfl

/-- A marker that is there after a change of the wallet record was there before it. -/
lemma marker_of_update {m : AuthorityMarker}
    (hk : Function.update records key (some (.wallet w')) k = some (.authority m)) :
    records k = some (.authority m) := by
  have hne : k ≠ key := by
    rintro rfl
    rw [Function.update_self] at hk
    cases hk
  rwa [Function.update_of_ne hne] at hk

/-- Changing an existing wallet record and the markers of its entries. -/
lemma revise (h : Registry d records) (hw : records key = some (.wallet w))
    (hheader : w'.SameHeader w) (hregistered : w'.Registered)
    (hwallet : after key = some (.wallet w'))
    (hframe : ∀ k, k ≠ key → after k = records k ∨
      AtMostMarker key (records k) ∧ AtMostMarker key (after k))
    (hnamed : ∀ k m, after k = some (.authority m) → m.wallet = key →
      (Recipe.authority key m.seed).derive d = .ok ⟨k, m.bump⟩ ∧
        ∃ a, w'.authority? m.authorityId = some a ∧ a.seed = m.seed)
    (hmarked : ∀ i a, w'.authority? i = some a →
      ∃ marker bump, (Recipe.authority key a.seed).derive d = .ok ⟨marker, bump⟩ ∧
        after marker = some (.authority ⟨bump, i, key, a.seed⟩)) :
    Registry d after := by
  have hp := h.wallet hw
  refine h.rewrite ⟨hregistered, ?_, ?_⟩ hwallet ?_ hframe hnamed hmarked
  · rw [hheader.walletId, hheader.bump]
    exact hp.derived
  · rw [hheader.vaultBump]
    exact hp.vault
  · intro r hr
    rw [hw] at hr
    cases hr
    exact ⟨w, rfl⟩

/-- A stored counter. -/
lemma recount (h : Registry d records) {id : UInt8} {a : Authority} {o : AuthOutcome}
    (hw : records key = some (.wallet w)) (ha : w.authority? id = some a)
    (hcounts : w.recordCounter id o = .ok w') :
    Registry d (Function.update records key (some (.wallet w'))) := by
  refine h.revise hw (Wallet.sameHeader_recordCounter ha hcounts)
    ((h.wallet hw).registered.recordCounter ha hcounts) (by simp) ?_ ?_ ?_
  · intro k hk
    simp [hk]
  · intro k m hk hm
    obtain ⟨hderived, v, b, hv, hb, hseed⟩ := h.authority (marker_of_update hk)
    rw [hm, hw] at hv
    cases hv
    obtain ⟨counter, hc⟩ := Wallet.exists_after_recordCounter ha hcounts hb
    exact ⟨hm ▸ hderived, _, hc, hseed⟩
  · intro i b hb
    obtain ⟨counter, hc⟩ := Wallet.exists_before_recordCounter ha hcounts hb
    obtain ⟨marker, bump, hderived, hmarker⟩ := h.marked hw hc
    refine ⟨marker, bump, hderived, ?_⟩
    rw [Function.update_of_ne (Records.ne_of_record_ne hmarker hw (by simp)), hmarker]

/-- Nothing, or a marker of the given entry. -/
def AtMostMarkerOf (key : Key) (id : UInt8) (r? : Option StoredRecord) : Prop :=
  ∀ r, r? = some r → ∃ m, r = .authority m ∧ m.wallet = key ∧ m.authorityId = id

/-- Changing one entry of a wallet and its marker. -/
lemma reassign (h : Registry d records) {id : UInt8} (hw : records key = some (.wallet w))
    (hheader : w'.SameHeader w) (hregistered : w'.Registered)
    (hothers : ∀ i, i ≠ id → w'.authority? i = w.authority? i)
    (hwallet : after key = some (.wallet w'))
    (hframe : ∀ k, k ≠ key → after k = records k ∨
      AtMostMarkerOf key id (records k) ∧ AtMostMarkerOf key id (after k))
    (hnamed : ∀ k m, after k = some (.authority m) → m.wallet = key → m.authorityId = id →
      (Recipe.authority key m.seed).derive d = .ok ⟨k, m.bump⟩ ∧
        ∃ a, w'.authority? id = some a ∧ a.seed = m.seed)
    (hmarked : ∀ a, w'.authority? id = some a →
      ∃ marker bump, (Recipe.authority key a.seed).derive d = .ok ⟨marker, bump⟩ ∧
        after marker = some (.authority ⟨bump, id, key, a.seed⟩)) :
    Registry d after := by
  refine h.revise hw hheader hregistered hwallet ?_ ?_ ?_
  · intro k hk
    refine (hframe k hk).imp_right fun ⟨hbefore, hafter⟩ => ⟨?_, ?_⟩
    · intro r hr
      obtain ⟨m, hrm, hm, -⟩ := hbefore r hr
      exact ⟨m, hrm, hm⟩
    · intro r hr
      obtain ⟨m, hrm, hm, -⟩ := hafter r hr
      exact ⟨m, hrm, hm⟩
  · intro k m hk hm
    by_cases hid : m.authorityId = id
    · rw [hid]
      exact hnamed k m hk hm hid
    · have hne : k ≠ key := Records.ne_of_record_ne hk hwallet (by simp)
      rcases hframe k hne with hsame | ⟨-, hafter⟩
      · obtain ⟨hplace, v, b, hv, hb, hseed⟩ := h.authority (hsame ▸ hk)
        rw [hm, hw] at hv
        cases hv
        exact ⟨hm ▸ hplace, b, by rw [hothers _ hid, hb], hseed⟩
      · obtain ⟨m', hr, -, hid'⟩ := hafter _ hk
        cases hr
        exact absurd hid' hid
  · intro i b hb
    by_cases hid : i = id
    · subst hid
      exact hmarked b hb
    · rw [hothers i hid] at hb
      obtain ⟨marker, bump, hplace, hmarker⟩ := h.marked hw hb
      refine ⟨marker, bump, hplace, ?_⟩
      have hne : marker ≠ key := Records.ne_of_record_ne hmarker hw (by simp)
      rcases hframe marker hne with hsame | ⟨hbefore, -⟩
      · rw [hsame, hmarker]
      · obtain ⟨m, hr, -, hid'⟩ := hbefore _ hmarker
        cases hr
        exact absurd hid' hid

/-- A new entry with its marker, which goes where nothing is. -/
lemma enrol (h : Registry d records) {role : Role} {seed : Key} {c : Credential} {id : UInt8}
    {marker : DerivedAddress} (hw : records key = some (.wallet w)) (hc : c.isWellFormed = true)
    (hinserts : w.insert role seed c = .ok (w', id))
    (hderived : (Recipe.authority key seed).derive d = .ok marker)
    (hvacant : records marker.key = none) :
    Registry d (Function.update (Function.update records key (some (.wallet w'))) marker.key
      (some (.authority ⟨marker.bump, id, key, seed⟩))) := by
  have hreg := (h.wallet hw).registered
  obtain ⟨hnone, hget⟩ := Wallet.authority?_insert hreg.toWellFormed hinserts
  have hmk : key ≠ marker.key := by
    intro hk
    rw [← hk, hw] at hvacant
    cases hvacant
  refine h.reassign hw (Wallet.sameHeader_insert hinserts) (hreg.insert hc hinserts)
    (fun i hi => by rw [hget, if_neg hi])
    (by rw [Function.update_of_ne hmk, Function.update_self]) ?_ ?_ ?_
  · intro k hk
    by_cases hkm : k = marker.key
    · subst hkm
      refine .inr ⟨fun r hr => ?_, fun r hr => ?_⟩
      · rw [hvacant] at hr
        cases hr
      · rw [Function.update_self] at hr
        cases hr
        exact ⟨_, rfl, rfl, rfl⟩
    · exact .inl (by rw [Function.update_of_ne hkm, Function.update_of_ne hk])
  · intro k m hk hm hid
    by_cases hkm : k = marker.key
    · subst hkm
      rw [Function.update_self] at hk
      cases hk
      exact ⟨hderived, _, by rw [hget, if_pos rfl], rfl⟩
    · rw [Function.update_of_ne hkm] at hk
      obtain ⟨-, v, b, hv, hb, -⟩ := h.authority (marker_of_update hk)
      rw [hm, hw] at hv
      cases hv
      rw [hid, hnone] at hb
      cases hb
  · intro a ha
    rw [hget, if_pos rfl] at ha
    cases ha
    exact ⟨marker.key, marker.bump, hderived, Function.update_self ..⟩

/-- A removed entry with its marker. -/
lemma expel (h : Registry d records) {a removed : Authority} {bump bump' : UInt8} {target : Key}
    (hw : records key = some (.wallet w)) (ha : w.authority? a.id = some a)
    (hremoves : w.remove a.id = .ok (w', removed))
    (hderived : (Recipe.authority key a.seed).derive d = .ok ⟨target, bump⟩)
    (htarget : records target = some (.authority ⟨bump', a.id, key, a.seed⟩)) :
    Registry d (Function.update (Function.update records key (some (.wallet w'))) target none) := by
  have hreg := (h.wallet hw).registered
  have hget := Wallet.authority?_remove hreg.toWellFormed hremoves
  have htk := Records.ne_of_record_ne htarget hw (by simp)
  refine h.reassign hw (Wallet.sameHeader_remove hremoves) (hreg.remove hremoves)
    (fun i hi => by rw [hget, if_neg hi])
    (by rw [Function.update_of_ne htk.symm, Function.update_self]) ?_ ?_ ?_
  · intro k hk
    by_cases hkt : k = target
    · subst hkt
      refine .inr ⟨fun r hr => ?_, fun r hr => ?_⟩
      · rw [htarget] at hr
        cases hr
        exact ⟨_, rfl, rfl, rfl⟩
      · rw [Function.update_self] at hr
        cases hr
    · exact .inl (by rw [Function.update_of_ne hkt, Function.update_of_ne hk])
  · intro k m hk hm hid
    have hkt : k ≠ target := by
      rintro rfl
      rw [Function.update_self] at hk
      cases hk
    rw [Function.update_of_ne hkt] at hk
    exact absurd (h.marker_unique (marker_of_update hk) (by rw [hm, hw]) (by rw [hid, ha])
      (by rw [hm, hderived])) hkt
  · intro b hb
    rw [hget, if_pos rfl] at hb
    cases hb

/-- The owner's entry given to new key material. The old marker goes, and the new one stands in its
place or where nothing was. -/
lemma handOver (h : Registry d records) {seed : Key} {c : Credential} {old : Authority}
    {bump bump' : UInt8} {oldKey : Key} {marker : DerivedAddress}
    (hw : records key = some (.wallet w)) (hc : c.isWellFormed = true)
    (hreplaces : w.replaceOwner seed c = .ok (w', old))
    (hold : (Recipe.authority key old.seed).derive d = .ok ⟨oldKey, bump⟩)
    (hmarker : records oldKey = some (.authority ⟨bump', old.id, key, old.seed⟩))
    (hderived : (Recipe.authority key seed).derive d = .ok marker)
    (hvacant : marker.key = oldKey ∨ records marker.key = none) :
    Registry d (Function.update (Function.update (Function.update records key (some (.wallet w')))
      oldKey none) marker.key (some (.authority ⟨marker.bump, old.id, key, seed⟩))) := by
  have hreg := (h.wallet hw).registered
  have hget := Wallet.authority?_replaceOwner hreg.toWellFormed hreplaces
  have howner : w.authority? old.id = some old :=
    hreg.mem_iff.1 (List.mem_of_find?_eq_some (Wallet.replaceOwner_eq_ok_iff.1 hreplaces).1)
  have hok := Records.ne_of_record_ne hmarker hw (by simp)
  have hmk : key ≠ marker.key := by
    rcases hvacant with hv | hv
    · rw [hv]
      exact hok.symm
    · intro hk
      rw [← hk, hw] at hv
      cases hv
  have hbefore : AtMostMarkerOf key old.id (records marker.key) := by
    intro r hr
    rcases hvacant with hv | hv
    · rw [hv, hmarker] at hr
      cases hr
      exact ⟨_, rfl, rfl, rfl⟩
    · rw [hv] at hr
      cases hr
  refine h.reassign hw (Wallet.sameHeader_replaceOwner hreplaces) (hreg.replaceOwner hc hreplaces)
    (fun i hi => by rw [hget, if_neg hi])
    (by rw [Function.update_of_ne hmk, Function.update_of_ne hok.symm, Function.update_self])
    ?_ ?_ ?_
  · intro k hk
    by_cases hkm : k = marker.key
    · subst hkm
      refine .inr ⟨hbefore, fun r hr => ?_⟩
      rw [Function.update_self] at hr
      cases hr
      exact ⟨_, rfl, rfl, rfl⟩
    · rw [Function.update_of_ne hkm]
      by_cases hko : k = oldKey
      · subst hko
        refine .inr ⟨fun r hr => ?_, fun r hr => ?_⟩
        · rw [hmarker] at hr
          cases hr
          exact ⟨_, rfl, rfl, rfl⟩
        · rw [Function.update_self] at hr
          cases hr
      · exact .inl (by rw [Function.update_of_ne hko, Function.update_of_ne hk])
  · intro k m hk hm hid
    by_cases hkm : k = marker.key
    · subst hkm
      rw [Function.update_self] at hk
      cases hk
      exact ⟨hderived, _, by rw [hget, if_pos rfl], rfl⟩
    · rw [Function.update_of_ne hkm] at hk
      have hko : k ≠ oldKey := by
        rintro rfl
        rw [Function.update_self] at hk
        cases hk
      rw [Function.update_of_ne hko] at hk
      exact absurd (h.marker_unique (marker_of_update hk) (by rw [hm, hw]) (by rw [hid, howner])
        (by rw [hm, hold])) hko
  · intro a ha
    rw [hget, if_pos rfl] at ha
    cases ha
    exact ⟨marker.key, marker.bump, hderived, Function.update_self ..⟩

/-- A new wallet with its owner's marker, both where nothing is. -/
lemma found (h : Registry d records) {walletId seed : Key} {c : Credential}
    {wallet vault marker : DerivedAddress} (hc : c.isWellFormed = true)
    (hcreated : Wallet.new walletId wallet.bump vault.bump seed c = .ok w)
    (hwallet : (Recipe.wallet walletId.toList).derive d = .ok wallet)
    (hvault : (Recipe.vault wallet.key).derive d = .ok vault)
    (hmarker : (Recipe.authority wallet.key seed).derive d = .ok marker)
    (hwalletVacant : records wallet.key = none) (hmarkerVacant : records marker.key = none)
    (hapart : wallet.key ≠ marker.key) :
    Registry d (Function.update (Function.update records wallet.key (some (.wallet w))) marker.key
      (some (.authority ⟨marker.bump, 0, wallet.key, seed⟩))) := by
  have hget := Wallet.authority?_new hcreated
  have hplaced : w.PlacedAt d wallet.key := by
    have hreg := Wallet.registered_new hcreated hc
    obtain ⟨-, rfl⟩ := Wallet.new_eq_ok_iff.1 hcreated
    exact ⟨hreg, hwallet, vault.key, hvault⟩
  refine h.rewrite hplaced ?_ ?_ ?_ ?_ ?_
  · rw [Function.update_of_ne hapart, Function.update_self]
  · intro r hr
    rw [hwalletVacant] at hr
    cases hr
  · intro k hk
    by_cases hkm : k = marker.key
    · subst hkm
      refine .inr ⟨?_, ?_⟩
      · intro r hr
        rw [hmarkerVacant] at hr
        cases hr
      · intro r hr
        rw [Function.update_self] at hr
        cases hr
        exact ⟨_, rfl, rfl⟩
    · exact .inl (by rw [Function.update_of_ne hkm, Function.update_of_ne hk])
  · intro k m hk hm
    by_cases hkm : k = marker.key
    · subst hkm
      rw [Function.update_self] at hk
      cases hk
      exact ⟨hmarker, _, by rw [hget, if_pos rfl], rfl⟩
    · rw [Function.update_of_ne hkm] at hk
      obtain ⟨-, v, -, hv, -, -⟩ := h.authority (marker_of_update hk)
      rw [hm, hwalletVacant] at hv
      cases hv
  · intro i b hb
    rw [hget] at hb
    split at hb
    · next hi =>
      cases hb
      exact ⟨marker.key, marker.bump, hmarker, by rw [hi, Function.update_self]⟩
    · cases hb

/-- A new session record of an existing wallet, where nothing is. -/
lemma openSession (h : Registry d records) {s : SessionRecord}
    (hw : records s.wallet = some (.wallet w))
    (hderived : (Recipe.session s.wallet s.sessionKey).derive d = .ok ⟨key, s.bump⟩)
    (hvacant : records key = none) :
    Registry d (Function.update records key (some (.session s))) := by
  have hkept : ∀ {k r}, records k = some r →
      Function.update records key (some (.session s)) k = some r := by
    intro k r hk
    rw [Function.update_of_ne, hk]
    rintro rfl
    rw [hvacant] at hk
    cases hk
  have hold : ∀ {k r}, Function.update records key (some (.session s)) k = some r →
      (k = key ∧ r = .session s) ∨ records k = some r := by
    intro k r hk
    by_cases hks : k = key
    · subst hks
      rw [Function.update_self] at hk
      cases hk
      exact .inl ⟨rfl, rfl⟩
    · rw [Function.update_of_ne hks] at hk
      exact .inr hk
  constructor
  case wallet =>
    intro k v hk
    rcases hold hk with ⟨-, hr⟩ | hk
    · cases hr
    · exact h.wallet hk
  case authority =>
    intro k m hk
    rcases hold hk with ⟨-, hr⟩ | hk
    · cases hr
    · obtain ⟨hplace, v, a, hv, ha, hseed⟩ := h.authority hk
      exact ⟨hplace, v, a, hkept hv, ha, hseed⟩
  case session =>
    intro k t hk
    rcases hold hk with ⟨rfl, hr⟩ | hk
    · cases hr
      exact ⟨hderived, w, hkept hw⟩
    · obtain ⟨hplace, v, hv⟩ := h.session hk
      exact ⟨hplace, v, hkept hv⟩
  case marked =>
    intro k v i a hk ha
    rcases hold hk with ⟨-, hr⟩ | hk
    · cases hr
    · obtain ⟨marker, bump, hplace, hmarker⟩ := h.marked hk ha
      exact ⟨marker, bump, hplace, hkept hmarker⟩

end Registry

/-! ## Addresses that are apart -/

/-- What the addresses of an instruction's accounts are derived from, where it creates accounts. To
load a record is to derive its address once more. -/
def Instruction.recipes (wallet : Key) : Instruction → List Recipe
  | .createWallet walletId _ owner =>
    [.wallet walletId.toList, .vault wallet, .authority wallet owner.seed]
  | .addAuthority _ authority _ => [.authority wallet authority.seed]
  | .transferOwnership newOwner _ => [.authority wallet newOwner.seed]
  | .createSession sessionKey _ _ => [.session wallet sessionKey]
  | .removeAuthority _ | .execute .. => []

lemma Recipe.address_of_derive {d : Deployment} {r : Recipe} {a : DerivedAddress}
    (h : r.derive d = .ok a) : r.address d = .ok a.key := by
  rw [address, h]
  rfl

/-- Different recipes have different addresses. -/
def Recipe.Apart (d : Deployment) (recipes : List Recipe) : Prop :=
  ∀ r ∈ recipes, ∀ r' ∈ recipes, r.address d = r'.address d → r = r'

lemma Recipe.Apart.mono {d : Deployment} {recipes more : List Recipe} (h : Apart d more)
    (hsub : recipes ⊆ more) : Apart d recipes :=
  fun r hr r' hr' => h r (hsub hr) r' (hsub hr')

lemma Recipe.apart_of_nodup {d : Deployment} {recipes : List Recipe}
    (h : (recipes.map fun r => r.address d).Nodup) : Apart d recipes :=
  fun _ hr _ hr' => List.inj_on_of_nodup_map h hr hr'

namespace Ledger

variable (d : Deployment)

/-- The recipes of a step that succeeds. -/
def recipes (l : Ledger) : Step → List Recipe
  | .submit verify dispatcher accounts data =>
    match (l.process d verify dispatcher accounts data).result, accounts[1]?,
      Instruction.decode d.profile data with
    | .ok _, some wallet, .ok ix => ix.recipes wallet.key
    | _, _, _ => []
  | _ => []

/-- The recipes of a run. -/
def runRecipes : Ledger → List Step → List Recipe := trace d (recipes d)

end Ledger

/-! ## Steps and runs -/

lemma View.HoldsWallet.record_of_shows {v : View} {d : Deployment} {records : Records} {key : Key}
    {w : Wallet} (hw : v.HoldsWallet d key w) (h : v.Shows records) :
    records key = some (.wallet w) := by
  rw [← h.record?_eq, hw.record]

lemma View.Names.record_of_shows {v : View} {d : Deployment} {records : Records} {key k : Key}
    {w : Wallet} {a : Authority} (ha : v.Names d key w k a) (h : v.Shows records) :
    ∃ bump, records k = some (.authority ⟨bump, a.id, key, a.seed⟩) := by
  rw [← h.record?_eq]
  exact ha.record

namespace Context

variable {c : Context} {records : Records} {auth : Authorization} {ix : Instruction} {delta : Delta}

lemma vacant_of_isVacant {key : Key} (h : View.Shows c.data? records)
    (hv : c.isVacant key = true) : records key = none := by
  apply h.vacant_iff.1
  cases hk : c.data? key with
  | none => rfl
  | some bs => simp [isVacant, hk, h.ne_nil hk] at hv

lemma vacant_of_counted {key k : Key} {w counted : Wallet}
    (hw : records key = some (.wallet w)) (hvacant : records k = none) :
    Function.update records key (some (.wallet counted)) k = none := by
  rw [Function.update_of_ne, hvacant]
  rintro rfl
  rw [hw] at hvacant
  cases hvacant

/-- What a signed challenge writes by itself. -/
lemma shows_counted {key : Key} {w counted : Wallet} {a : Authority} {o : AuthOutcome}
    (h : View.Shows c.data? records) (hreg : Registry c.deployment records)
    (hw : records key = some (.wallet w)) (ha : w.authority? a.id = some a)
    (hcounts : w.recordCounter a.id o = .ok counted) :
    (Delta.shown (if o.newCounter.isSome then [.store key counted.encode] else []) c.data?).Shows
      (Function.update records key (some (.wallet counted))) := by
  have hwf := ((hreg.wallet hw).registered.recordCounter ha hcounts).toWellFormed
  split
  · simpa using h.put (StoredRecord.decode?_encode_wallet hwf)
  · next ho =>
    rw [Wallet.recordCounter_eq_ok_iff ha] at hcounts
    have hnone : o.newCounter = none := by simpa using ho
    rw [hnone] at hcounts
    rw [hcounts, ← hw, Function.update_eq_self]
    exact h

/-- Every instruction keeps the registry. -/
theorem Performs.registry (hp : c.Performs auth ix delta) (h : View.Shows c.data? records)
    (hreg : Registry c.deployment records)
    (hix : ix.WellFormed)
    (hapart : ∀ wallet, c.keyAt 1 = some wallet → Recipe.Apart c.deployment (ix.recipes wallet)) :
    ∃ after, (delta.shown c.data?).Shows after ∧ Registry c.deployment after := by
  cases hp with
  | @createWallet walletId owner payer wallet vault marker w _ _ _ hwallet hwalletAt hwalletVacant
      hvault _ hmarker _ hmarkerVacant hcreated =>
    have hc := (hix.enrolled owner rfl).compressed
    have hwf := (Wallet.registered_new hcreated hc).toWellFormed
    refine ⟨_, ?_, hreg.found hc hcreated hwallet hvault hmarker
      (vacant_of_isVacant h hwalletVacant) (vacant_of_isVacant h hmarkerVacant) ?_⟩
    · simpa using (h.put (StoredRecord.decode?_encode_wallet hwf)).put
        (StoredRecord.decode?_encode_authority _)
    · intro hkey
      have := hapart wallet.key hwalletAt (.wallet walletId.toList) (by simp [Instruction.recipes])
        (.authority wallet.key owner.seed) (by simp [Instruction.recipes])
        (by rw [Recipe.address_of_derive hwallet, Recipe.address_of_derive hmarker, hkey])
      cases this
  | @addAuthority role p proof s marker counted grown id hacts _ _ hmarker _ hvacant hcounts
      hinserts =>
    have hc := (hix.enrolled p rfl).compressed
    have hw := hacts.holds.record_of_shows h
    have ha := hacts.named.entry
    have hcounted := hreg.recount hw ha hcounts
    have hvacant := vacant_of_isVacant h hvacant
    have hgrown := hcounted.enrol (Function.update_self ..) hc hinserts hmarker
      (vacant_of_counted hw hvacant)
    rw [Function.update_idem] at hgrown
    have hwf := ((hcounted.wallet (Function.update_self ..)).registered.insert hc
      hinserts).toWellFormed
    refine ⟨_, ?_, hgrown⟩
    simpa using (h.put (StoredRecord.decode?_encode_wallet hwf)).put
      (StoredRecord.decode?_encode_authority _)
  | @removeAuthority proof s target refund a removed counted shrunk _ _ _ hacts hnamed _ _ hcounts
      hremoves =>
    have hw := hacts.holds.record_of_shows h
    have ha := hacts.named.entry
    have hcounted := hreg.recount hw ha hcounts
    obtain ⟨bump', htarget⟩ := hnamed.record_of_shows h
    obtain ⟨bump, hderived⟩ := hnamed.derived
    have hne := Records.ne_of_record_ne htarget hw (by simp)
    obtain ⟨counter, hb⟩ := Wallet.exists_after_recordCounter ha hcounts hnamed.entry
    have hshrunk := hcounted.expel (a := { a with counter := counter }) (Function.update_self ..) hb
      hremoves hderived (by rw [Function.update_of_ne hne, htarget])
    rw [Function.update_idem] at hshrunk
    have hwf := ((hcounted.wallet (Function.update_self ..)).registered.remove
      hremoves).toWellFormed
    refine ⟨_, ?_, hshrunk⟩
    simpa using (h.put (StoredRecord.decode?_encode_wallet hwf)).drop
  | @transferOwnership p proof s marker counted moved old hacts _ hrole hmarker _ hcounts hreplaces
      hvacant =>
    have hc := (hix.enrolled p rfl).compressed
    have hw := hacts.holds.record_of_shows h
    have ha := hacts.named.entry
    have hcounted := hreg.recount hw ha hcounts
    obtain ⟨bump', hmarkerAt⟩ := hacts.named.record_of_shows h
    obtain ⟨bump, hderived⟩ := hacts.named.derived
    have hne := Records.ne_of_record_ne hmarkerAt hw (by simp)
    obtain ⟨counter, hb⟩ := Wallet.exists_after_recordCounter ha hcounts ha
    have hcreg := (hcounted.wallet (Function.update_self ..)).registered
    have howner := (Wallet.replaceOwner_eq_ok_iff.1 hreplaces).1
    have hold : { s.entry with counter := counter } = old :=
      hcreg.owner_unique (Wallet.mem_of_authority? hb) (List.mem_of_find?_eq_some howner) hrole
        (Wallet.role_of_owner? howner)
    subst hold
    have hvacant : marker.key = s.marker.key ∨
        Function.update records s.wallet.key (some (.wallet counted)) marker.key = none :=
      hvacant.imp_right fun hv => vacant_of_counted hw (vacant_of_isVacant h hv)
    have hmoved := hcounted.handOver (Function.update_self ..) hc hreplaces hderived
      (by rw [Function.update_of_ne hne, hmarkerAt]) hmarker hvacant
    rw [Function.update_idem] at hmoved
    have hwf := (hcreg.replaceOwner hc hreplaces).toWellFormed
    refine ⟨_, ?_, hmoved⟩
    have hput : (View.put c.data? s.wallet.key moved.encode).Shows _ :=
      h.put (StoredRecord.decode?_encode_wallet hwf)
    rw [Delta.shown_transfer]
    exact hput.drop.put (StoredRecord.decode?_encode_authority _)
  | @execute calls proof p payer wallet caller vault w hprepares =>
    have hw := hprepares.holds.record_of_shows h
    have hauthorized := hprepares.authorized
    generalize p.plan.caller = caller, p.delta = delta at hauthorized
    cases hauthorized with
    | authority named _ counts => exact ⟨_, shows_counted h hreg hw named.entry counts,
        hreg.recount hw named.entry counts⟩
    | session => exact ⟨_, h, hreg⟩
  | @createSession sessionKey expiresAt proof s session counted hacts _ _ hsession _ hvacant _ _
      hcounts =>
    have hw := hacts.holds.record_of_shows h
    have ha := hacts.named.entry
    have hcounted := hreg.recount hw ha hcounts
    refine ⟨_, ?_, hcounted.openSession (s := ⟨session.bump, s.entry.id, s.wallet.key, sessionKey,
      s.entry.seed, expiresAt⟩) (Function.update_self ..) hsession
      (vacant_of_counted hw (h.vacant_iff.1 hvacant))⟩
    rw [Delta.shown_append]
    simpa using (shows_counted h hreg hw ha hcounts).put (StoredRecord.decode?_encode_session _)

end Context

namespace Ledger

variable {d : Deployment} {l : Ledger} {records : Records}

lemma registry_step {s : Step} (h : l.view.Shows records) (hreg : Registry d records)
    (hapart : Recipe.Apart d (l.recipes d s)) :
    ∃ after, (l.step d s).view.Shows after ∧ Registry d after := by
  cases s with
  | submit verify dispatcher accounts data =>
    rcases l.step_submit_cases with hsame | ⟨ix, auth, o, hc⟩
    · rw [hsame]
      exact ⟨records, h, hreg⟩
    · rw [hc.view_eq]
      have hdecode := (Context.readInstruction_eq_ok_iff.1 hc.read).1
      refine hc.performs.registry h hreg (Instruction.wellFormed_of_decode hdecode) ?_
      intro wallet hwallet
      obtain ⟨r, hr, rfl⟩ := Option.map_eq_some_iff.1 hwallet
      have hr : accounts[1]? = some r := hr
      have hdecode : Instruction.decode d.profile data = .ok ix := hdecode
      simp only [recipes, hc.answered, hr, hdecode] at hapart
      exact hapart
  | setSlot slot => exact ⟨records, h, hreg⟩
  | warp slots => exact ⟨records, h, hreg⟩
  | setLamports key lamports =>
    refine ⟨records, ?_, hreg⟩
    rw [step, view_setLamports]
    exact h

theorem registry_run {steps : List Step} (h : l.view.Shows records) (hreg : Registry d records)
    (hapart : Recipe.Apart d (l.runRecipes d steps)) :
    ∃ after, (l.run d steps).view.Shows after ∧ Registry d after := by
  induction steps generalizing l records with
  | nil => exact ⟨records, h, hreg⟩
  | cons s rest ih =>
    have hfirst : Recipe.Apart d (l.recipes d s) := hapart.mono (List.subset_append_left ..)
    have hrest : Recipe.Apart d ((l.step d s).runRecipes d rest) :=
      hapart.mono (List.subset_append_right ..)
    obtain ⟨after, hafter, hregAfter⟩ := registry_step h hreg hfirst
    exact ih hafter hregAfter hrest

/-- After any run from the empty ledger, every account with data holds exactly one record, which is
in its place: a wallet with ascending ids, one owner, whose id is 0, and seeds that are apart, or a
marker that names an entry of a wallet, or a session of a wallet. Conversely, every entry of every
wallet has one marker, at its own address. -/
theorem one_record_per_account (d : Deployment) (steps : List Step)
    (apart : Recipe.Apart d (empty.runRecipes d steps)) :
    (∀ key bs, (empty.run d steps).data? key = some bs →
      (∃ w, Wallet.decode bs = .ok w ∧ AuthorityMarker.decode? bs = none ∧
        SessionRecord.decode? bs = none ∧ w.PlacedAt d key ∧
        w.authorities.Pairwise (fun a b => a.id < b.id) ∧
        w.authorities.countP (·.role == .owner) = 1 ∧
        (∀ a ∈ w.authorities, a.role = .owner → a.id = 0) ∧
        (w.authorities.map (·.seed)).Nodup) ∨
      (∃ m, AuthorityMarker.decode? bs = some m ∧ (∀ w, Wallet.decode bs ≠ .ok w) ∧
        SessionRecord.decode? bs = none ∧ m.PlacedAt d (empty.run d steps).view.record? key) ∨
      (∃ s, SessionRecord.decode? bs = some s ∧ (∀ w, Wallet.decode bs ≠ .ok w) ∧
        AuthorityMarker.decode? bs = none ∧ s.PlacedAt d (empty.run d steps).view.record? key)) ∧
    (∀ key w, (empty.run d steps).view.record? key = some (.wallet w) → ∀ a ∈ w.authorities,
      ∃ marker bump, (Recipe.authority key a.seed).derive d = .ok ⟨marker, bump⟩ ∧
        ∀ k m, (empty.run d steps).view.record? k = some (.authority m) ∧ m.wallet = key ∧
            m.authorityId = a.id ↔
          k = marker ∧ m = ⟨bump, a.id, key, a.seed⟩) := by
  have hempty : empty.view.Shows fun _ => none := fun _ => rfl
  obtain ⟨records, h, hreg⟩ := registry_run hempty Registry.empty apart
  rw [h.record?_eq]
  constructor
  · intro key bs hbs
    have hbs : (empty.run d steps).view key = some bs := hbs
    have hk := h key
    rw [hbs, Option.map_some] at hk
    obtain ⟨r, hr, hd⟩ := Option.map_eq_some_iff.1 hk.symm
    cases r with
    | wallet w =>
      have hp := hreg.wallet hr
      exact .inl ⟨w, StoredRecord.decode?_eq_wallet_iff.1 hd.symm,
        StoredRecord.not_authority hd.symm (by simp), StoredRecord.not_session hd.symm (by simp),
        hp, hp.registered.ascending, hp.registered.oneOwner,
        fun a ha hrole => hp.registered.ownerIsZero (hp.registered.mem_iff.1 ha) hrole,
        hp.registered.nodup_seeds⟩
    | authority m =>
      exact .inr (.inl ⟨m, StoredRecord.decode?_eq_authority_iff.1 hd.symm,
        StoredRecord.not_wallet hd.symm (by simp), StoredRecord.not_session hd.symm (by simp),
        hreg.authority hr⟩)
    | session s =>
      exact .inr (.inr ⟨s, StoredRecord.decode?_eq_session_iff.1 hd.symm,
        StoredRecord.not_wallet hd.symm (by simp), StoredRecord.not_authority hd.symm (by simp),
        hreg.session hr⟩)
  · intro key w hw a ha
    have hid := (hreg.wallet hw).registered.mem_iff.1 ha
    obtain ⟨marker, bump, hderived, hmarker⟩ := hreg.marked hw hid
    refine ⟨marker, bump, hderived, fun k m => ⟨?_, ?_⟩⟩
    · rintro ⟨hm, rfl, hmid⟩
      have hk := hreg.marker_unique hm hw (by rw [hmid, hid]) hderived
      rw [hk, hmarker, Option.some.injEq, StoredRecord.authority.injEq] at hm
      exact ⟨hk, hm.symm⟩
    · rintro ⟨rfl, rfl⟩
      exact ⟨hmarker, rfl, rfl⟩

end Ledger

namespace Sample

/-- Creates the wallet. -/
def creation : Step :=
  .submit .rejectAll .acceptAll
    [payer, ⟨walletKey, false, true⟩, ⟨vaultKey, false, false⟩, ⟨markerKey, false, true⟩,
      ⟨systemProgram, false, false⟩]
    (InstructionKind.createWallet.number :: walletId.toList ++ [passkey.kind.tag, 255] ++
      Instruction.padding ++ passkey.encode)

lemma run_creation : Ledger.empty.run default [creation] = ledger 0 := by
  decide +kernel

lemma runRecipes_creation : Ledger.empty.runRecipes default [creation] =
    [.wallet walletId.toList, .vault walletKey, .authority walletKey passkey.seed] := by
  decide +kernel

lemma apart_creation : Recipe.Apart default (Ledger.empty.runRecipes default [creation]) := by
  rw [runRecipes_creation]
  apply Recipe.apart_of_nodup
  simp only [List.map_cons, List.map_nil, Recipe.address_of_derive derive_wallet,
    Recipe.address_of_derive derive_vault, Recipe.address_of_derive derive_marker]
  decide

/-- The owner of the new wallet has one marker. -/
theorem one_marker_of_creation :
    Recipe.Apart default (Ledger.empty.runRecipes default [creation]) ∧
      ∀ k m, (Ledger.empty.run default [creation]).view.record? k = some (.authority m) ∧
          m.wallet = walletKey ∧ m.authorityId = 0 ↔
        k = markerKey ∧ m = ⟨255, 0, walletKey, passkey.seed⟩ := by
  refine ⟨apart_creation, ?_⟩
  obtain ⟨marker, bump, hderived, h⟩ :=
    (Ledger.one_record_per_account default [creation] apart_creation).2 walletKey (wallet 0)
      (run_creation ▸ record?_ledger 0) (ownerEntry 0) (by simp [wallet])
  cases Registry.derived_eq derive_marker hderived
  exact h

end Sample

end SmartWallet
