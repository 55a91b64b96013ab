import SmartWallet.Proofs.Entries
import SmartWallet.Proofs.Registry

/-!
# Where nothing is stored

Every record lies at the address of its own recipe, and some instruction of the run created it
there. As long as different recipes have different addresses, an address is therefore vacant unless
its own record has been created.
-/

namespace SmartWallet

/-- What the address of a record is derived from. -/
def StoredRecord.recipe : StoredRecord → Recipe
  | .wallet w => .wallet w.walletId.toList
  | .authority m => .authority m.wallet m.seed
  | .session s => .session s.wallet s.sessionKey

namespace Records

variable {records : Records} {recipes more : List Recipe} {key k : Key} {r : StoredRecord}

lemma cases_of_update {r? : Option StoredRecord}
    (h : Function.update records k r? key = some r) :
    (key = k ∧ r? = some r) ∨ records key = some r := by
  by_cases hk : key = k
  · subst hk
    rw [Function.update_self] at h
    exact .inl ⟨rfl, h⟩
  · rw [Function.update_of_ne hk] at h
    exact .inr h

/-- The records were created from the given recipes. -/
def CoveredBy (records : Records) (recipes : List Recipe) : Prop :=
  ∀ key r, records key = some r → r.recipe ∈ recipes

lemma CoveredBy.mono (h : records.CoveredBy recipes) (hsub : recipes ⊆ more) :
    records.CoveredBy more :=
  fun key r hr => hsub (h key r hr)

end Records

/-! ## What an instruction stores -/

namespace Context

variable {c : Context} {auth : Authorization} {ix : Instruction} {delta : Delta}
  {recipes : List Recipe} {key : Key} {r : StoredRecord}

/-- The session of a record is opened by the entry that the record names. -/
structure Opens (c : Context) (auth : Authorization) (ix : Instruction) (key : Key)
    (t : SessionRecord) : Prop where
  instruction : ∃ proof, ix = .createSession t.sessionKey t.expiresAt proof
  opener : ∃ s, c.Acts auth false s ∧ s.entry.role.manages = true ∧ s.wallet.key = t.wallet ∧
    s.entry.id = t.authorizerId ∧ s.entry.seed = t.authorizerSeed
  place : c.keyAt 3 = some key

/-- The records that an instruction can store at a key. -/
inductive Stores (c : Context) (auth : Authorization) (ix : Instruction) (key : Key) :
    StoredRecord → Prop
  | creation {w : Wallet} (place : c.keyAt 1 = some key)
      (creates : .wallet w.walletId.toList ∈ ix.recipes key) : Stores c auth ix key (.wallet w)
  | rewriting {w w' : Wallet} (stored : View.record? c.data? key = some (.wallet w))
      (header : w'.SameHeader w) : Stores c auth ix key (.wallet w')
  | marking {m : AuthorityMarker} (wallet : c.keyAt 1 = some m.wallet)
      (marks : .authority m.wallet m.seed ∈ ix.recipes m.wallet) :
      Stores c auth ix key (.authority m)
  | opening {t : SessionRecord} (wallet : c.keyAt 1 = some t.wallet)
      (opens : c.Opens auth ix key t) : Stores c auth ix key (.session t)

/-- Every record has been there before, or the instruction has stored it. -/
lemma Performs.stored_cases (hp : c.Performs auth ix delta) (hix : ix.WellFormed)
    (hr : View.record? (delta.shown c.data?) key = some r) :
    View.record? c.data? key = some r ∨ c.Stores auth ix key r := by
  cases hp with
  | @createWallet walletId owner payer wallet vault marker w _ _ _ _ hwalletAt _ _ _ _ _ _
      hcreated =>
    have hwf := (Wallet.registered_new hcreated (hix.enrolled owner rfl).compressed).toWellFormed
    rw [View.record?_enrolment hwf] at hr
    rcases Records.cases_of_update hr with ⟨rfl, ⟨⟩⟩ | hr
    · exact .inr (.marking hwalletAt (by simp [Instruction.recipes]))
    · rcases Records.cases_of_update hr with ⟨rfl, ⟨⟩⟩ | hr
      · obtain ⟨-, rfl⟩ := Wallet.new_eq_ok_iff.1 hcreated
        exact .inr (.creation hwalletAt (by simp [Instruction.recipes]))
      · exact .inl hr
  | @addAuthority role p proof s marker counted grown id hacts _ _ _ _ _ hcounts hinserts =>
    have hwf := (hacts.wellFormed_counted hcounts).insert (hix.enrolled p rfl).compressed hinserts
    rw [View.record?_enrolment hwf] at hr
    rcases Records.cases_of_update hr with ⟨rfl, ⟨⟩⟩ | hr
    · exact .inr (.marking (keyAt_of_account hacts.wallet rfl) (by simp [Instruction.recipes]))
    · rcases Records.cases_of_update hr with ⟨rfl, ⟨⟩⟩ | hr
      · exact .inr (.rewriting hacts.holds.record ((Wallet.sameHeader_insert hinserts).trans
          (Wallet.sameHeader_recordCounter hacts.named.entry hcounts)))
      · exact .inl hr
  | @removeAuthority proof s target refund a removed counted shrunk _ _ _ hacts _ _ _ hcounts
      hremoves =>
    have hwf := (hacts.wellFormed_counted hcounts).remove hremoves
    rw [View.record?_removal hwf] at hr
    rcases Records.cases_of_update hr with ⟨-, ⟨⟩⟩ | hr
    rcases Records.cases_of_update hr with ⟨rfl, ⟨⟩⟩ | hr
    · exact .inr (.rewriting hacts.holds.record ((Wallet.sameHeader_remove hremoves).trans
        (Wallet.sameHeader_recordCounter hacts.named.entry hcounts)))
    · exact .inl hr
  | @transferOwnership p proof s marker counted moved old hacts _ _ _ _ hcounts hreplaces _ =>
    have hwf := (hacts.wellFormed_counted hcounts).replaceOwner (hix.enrolled p rfl).compressed
      hreplaces
    rw [View.record?_transfer hwf] at hr
    -- the new marker comes last, since it may lie where the old one was
    rcases Records.cases_of_update hr with ⟨rfl, ⟨⟩⟩ | hr
    · exact .inr (.marking (keyAt_of_account hacts.wallet rfl) (by simp [Instruction.recipes]))
    · rcases Records.cases_of_update hr with ⟨-, ⟨⟩⟩ | hr
      rcases Records.cases_of_update hr with ⟨rfl, ⟨⟩⟩ | hr
      · exact .inr (.rewriting hacts.holds.record ((Wallet.sameHeader_replaceOwner hreplaces).trans
          (Wallet.sameHeader_recordCounter hacts.named.entry hcounts)))
      · exact .inl hr
  | @execute calls proof p payer wallet caller vault w hprepares =>
    have hauthorized := hprepares.authorized
    generalize p.plan.caller = who, p.delta = writes at hauthorized hr
    cases hauthorized with
    | @authority a o counted named authenticated counts =>
      have hacts := hprepares.acts named authenticated
      rw [hacts.record?_counted counts] at hr
      rcases Records.cases_of_update hr with ⟨rfl, ⟨⟩⟩ | hr
      · exact .inr (.rewriting hprepares.holds.record
          (Wallet.sameHeader_recordCounter named.entry counts))
      · exact .inl hr
    | session => exact .inl hr
  | @createSession sessionKey expiresAt proof s session counted hacts _ hmanages _ hsessionAt _ _ _
      hcounts =>
    rw [Delta.shown_append, Delta.shown_cons, Delta.shown_nil, Write.shown_session,
      View.record?_put (StoredRecord.decode?_encode_session _), hacts.record?_counted hcounts] at hr
    rcases Records.cases_of_update hr with ⟨rfl, ⟨⟩⟩ | hr
    · exact .inr (.opening (keyAt_of_account hacts.wallet rfl)
        ⟨⟨proof, rfl⟩, ⟨s, hacts, hmanages, rfl, rfl, rfl⟩, hsessionAt⟩)
    · rcases Records.cases_of_update hr with ⟨rfl, ⟨⟩⟩ | hr
      · exact .inr (.rewriting hacts.holds.record
          (Wallet.sameHeader_recordCounter hacts.named.entry hcounts))
      · exact .inl hr

lemma Performs.covered (hp : c.Performs auth ix delta) (hix : ix.WellFormed)
    (h : Records.CoveredBy (View.record? c.data?) recipes)
    (hnew : ∀ wallet, c.keyAt 1 = some wallet → ix.recipes wallet ⊆ recipes) :
    Records.CoveredBy (View.record? (delta.shown c.data?)) recipes := by
  intro key r hr
  rcases hp.stored_cases hix hr with hold | hstores
  · exact h key r hold
  · cases hstores with
    | creation place creates => exact hnew _ place creates
    | @rewriting w w' stored header =>
      have hmem := h key _ stored
      rwa [StoredRecord.recipe, ← header.walletId] at hmem
    | marking wallet marks => exact hnew _ wallet marks
    | opening wallet opens =>
      obtain ⟨proof, rfl⟩ := opens.instruction
      exact hnew _ wallet (List.mem_singleton_self _)

end Context

/-! ## Steps and runs -/

namespace Ledger

variable {d : Deployment} {l : Ledger} {recipes : List Recipe}

lemma covered_step {s : Step} (h : Records.CoveredBy l.view.record? recipes) :
    Records.CoveredBy (l.step d s).view.record? (recipes ++ l.recipes d s) := by
  have hkept : Records.CoveredBy l.view.record? (recipes ++ l.recipes d s) :=
    h.mono (List.subset_append_left ..)
  cases s with
  | submit verify dispatcher accounts data =>
    rcases l.step_submit_cases with hsame | ⟨ix, auth, o, hc⟩
    · rw [hsame]
      exact hkept
    · rw [hc.view_eq]
      have hdecode : Instruction.decode d.profile data = .ok ix :=
        (Context.readInstruction_eq_ok_iff.1 hc.read).1
      refine hc.performs.covered (Instruction.wellFormed_of_decode hdecode) hkept ?_
      intro wallet hwallet
      obtain ⟨r, hr, rfl⟩ := Option.map_eq_some_iff.1 hwallet
      have hr : accounts[1]? = some r := hr
      simp only [Ledger.recipes, hc.answered, hr, hdecode]
      exact List.subset_append_right ..
  | setSlot slot => exact hkept
  | warp slots => exact hkept
  | setLamports key lamports =>
    rw [step, view_setLamports]
    exact hkept

lemma covered_run {steps : List Step} (h : Records.CoveredBy l.view.record? recipes) :
    Records.CoveredBy (l.run d steps).view.record? (recipes ++ l.runRecipes d steps) := by
  induction steps generalizing l recipes with
  | nil => exact h.mono (List.subset_append_left ..)
  | cons s rest ih =>
    have hrest := ih (covered_step h : Records.CoveredBy (l.step d s).view.record? _)
    rwa [List.append_assoc] at hrest

/-- Every account with data holds a record in its place, created from one of the given recipes. -/
structure Orderly (l : Ledger) (d : Deployment) (created : List Recipe) : Prop where
  shows : l.view.Shows l.view.record?
  registry : Registry d l.view.record?
  covered : Records.CoveredBy l.view.record? created

lemma orderly_run (steps : List Step) (hapart : Recipe.Apart d (empty.runRecipes d steps)) :
    (empty.run d steps).Orderly d (empty.runRecipes d steps) := by
  have hempty : empty.view.Shows fun _ => none := fun _ => rfl
  obtain ⟨records, h, hreg⟩ := registry_run hempty Registry.empty hapart
  have hcovered : Records.CoveredBy empty.view.record? [] := by
    rw [hempty.record?_eq]
    exact nofun
  exact ⟨h.record?_eq ▸ h, h.record?_eq ▸ hreg, covered_run hcovered⟩

end Ledger

/-! ## Vacant addresses -/

lemma Registry.derive_recipe {d : Deployment} {records : Records} {key : Key} {r : StoredRecord}
    (h : Registry d records) (hr : records key = some r) : r.recipe.address d = .ok key := by
  cases r with
  | wallet w => exact Recipe.address_of_derive (h.wallet hr).derived
  | authority m => exact Recipe.address_of_derive (h.authority hr).derived
  | session s => exact Recipe.address_of_derive (h.session hr).derived

namespace Ledger.Orderly

variable {l : Ledger} {d : Deployment} {created more : List Recipe} {recipe : Recipe}
  {address : DerivedAddress} {wallet : Key}

/-- What lies at the address of a recipe was created from it. -/
theorem recipe_eq {r : StoredRecord} (h : l.Orderly d created)
    (hapart : Recipe.Apart d (created ++ more)) (hmem : recipe ∈ more)
    (hderived : recipe.derive d = .ok address) (hr : l.view.record? address.key = some r) :
    r.recipe = recipe :=
  hapart _ (List.mem_append_left _ (h.covered _ _ hr)) _ (List.mem_append_right _ hmem)
    ((h.registry.derive_recipe hr).trans (Recipe.address_of_derive hderived).symm)

lemma vacant_of_unregistered {seed : Key} {w : Wallet} (h : l.Orderly d created)
    (hapart : Recipe.Apart d (created ++ more)) (hmem : .authority wallet seed ∈ more)
    (hderived : (Recipe.authority wallet seed).derive d = .ok address)
    (hw : l.view.record? wallet = some (.wallet w)) (hseed : ∀ a ∈ w.authorities, a.seed ≠ seed) :
    l.view address.key = none := by
  rw [h.shows.vacant_iff]
  cases hr : l.view.record? address.key with
  | none => rfl
  | some r =>
    have hrecipe := h.recipe_eq hapart hmem hderived hr
    cases r with
    | authority m =>
      cases hrecipe
      obtain ⟨-, v, a, hv, ha, haseed⟩ := h.registry.authority hr
      rw [hw] at hv
      cases hv
      exact absurd haseed (hseed a (Wallet.mem_of_authority? ha))
    | wallet w => cases hrecipe
    | session s => cases hrecipe

lemma vacant_of_unopened {sessionKey : Key} (h : l.Orderly d created)
    (hapart : Recipe.Apart d (created ++ more)) (hmem : .session wallet sessionKey ∈ more)
    (hderived : (Recipe.session wallet sessionKey).derive d = .ok address)
    (hopen : ∀ key s, l.view.record? key = some (.session s) →
      ¬ (s.wallet = wallet ∧ s.sessionKey = sessionKey)) :
    l.view address.key = none := by
  rw [h.shows.vacant_iff]
  cases hr : l.view.record? address.key with
  | none => rfl
  | some r =>
    have hrecipe := h.recipe_eq hapart hmem hderived hr
    cases r with
    | session s =>
      cases hrecipe
      exact absurd ⟨rfl, rfl⟩ (hopen _ s hr)
    | wallet w => cases hrecipe
    | authority m => cases hrecipe

lemma holdsWallet {w : Wallet} (h : l.Orderly d created)
    (hw : l.view.record? wallet = some (.wallet w)) : View.HoldsWallet l.view d wallet w :=
  ⟨hw, (h.registry.wallet hw).derived⟩

lemma names {w : Wallet} {a : Authority} (h : l.Orderly d created)
    (hw : l.view.record? wallet = some (.wallet w)) (ha : a ∈ w.authorities)
    (hderived : (Recipe.authority wallet a.seed).derive d = .ok address) :
    View.Names l.view d wallet w address.key a := by
  have hentry := (h.registry.wallet hw).registered.mem_iff.1 ha
  obtain ⟨marker, bump, hmarkerDerived, hmarker⟩ := h.registry.marked hw hentry
  obtain rfl := Registry.derived_eq hmarkerDerived hderived
  exact ⟨⟨bump, hmarker⟩, ⟨bump, hderived⟩, hentry⟩

end Ledger.Orderly

end SmartWallet
