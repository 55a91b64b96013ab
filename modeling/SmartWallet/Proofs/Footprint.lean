import SmartWallet.Proofs.Vacancy

/-!
# What an instruction touches

An instruction is about the wallet at its second account, and it changes no data but that wallet's:
its record, the markers of its entries, and vacant addresses where it creates a record that belongs
to it. Records of other wallets, and sessions of any wallet, keep their bytes.
-/

namespace SmartWallet

/-- The wallet that a record at a key belongs to. -/
def StoredRecord.home (key : Key) : StoredRecord → Key
  | .wallet _ => key
  | .authority m => m.wallet
  | .session s => s.wallet

/-- The wallet that an address derived from a recipe belongs to. -/
def Recipe.home (key : Key) : Recipe → Key
  | .wallet _ => key
  | .vault w | .authority w _ | .session w _ | .policy w => w

@[simp] lemma StoredRecord.home_recipe (key : Key) (r : StoredRecord) :
    r.recipe.home key = r.home key := by
  cases r <;> rfl

namespace Context

variable {c : Context} {auth : Authorization} {ix : Instruction} {delta : Delta} {wallet key : Key}
  {r : StoredRecord}

/-- The accounts whose data an instruction on a wallet may change. -/
inductive Touches (c : Context) (ix : Instruction) (wallet key : Key) : Prop
  | record {w : Wallet} (stored : View.record? c.data? key = some (.wallet w))
      (home : key = wallet)
  | marker {m : AuthorityMarker} (stored : View.record? c.data? key = some (.authority m))
      (home : m.wallet = wallet)
  | vacant {recipe : Recipe} (vacant : c.data? key = none) (creates : recipe ∈ ix.recipes wallet)
      (address : recipe.address c.deployment = .ok key) (home : recipe.home key = wallet)

lemma touches_of_holds {w : Wallet} (h : View.HoldsWallet c.data? c.deployment key w) :
    c.Touches ix key key :=
  .record h.record rfl

lemma touches_of_names {w : Wallet} {a : Authority}
    (h : View.Names c.data? c.deployment wallet w key a) : c.Touches ix wallet key := by
  obtain ⟨bump, hmarker⟩ := h.record
  exact .marker hmarker rfl

/-- Every write of an instruction is about the wallet at the second account. -/
theorem Performs.touches (hp : c.Performs auth ix delta)
    (hvisible : ∀ key, c.isVacant key = true → c.data? key = none) :
    ∃ wallet, c.keyAt 1 = some wallet ∧ ∀ x ∈ delta, c.Touches ix wallet x.key := by
  cases hp with
  | createWallet _ _ _ walletDerived walletAt walletVacant _ _ markerDerived _ markerVacant =>
    refine ⟨_, walletAt, ?_⟩
    simp only [List.forall_mem_cons, Write.key]
    exact ⟨.vacant (hvisible _ walletVacant) (List.mem_cons_self ..)
        (Recipe.address_of_derive walletDerived) rfl,
      .vacant (hvisible _ markerVacant) (by simp [Instruction.recipes])
        (Recipe.address_of_derive markerDerived) rfl, List.forall_mem_nil _⟩
  | addAuthority acts _ _ derived _ vacant =>
    refine ⟨_, keyAt_of_account acts.wallet rfl, ?_⟩
    simp only [List.forall_mem_cons, Write.key]
    exact ⟨touches_of_holds acts.holds, .vacant (hvisible _ vacant) (List.mem_singleton_self _)
      (Recipe.address_of_derive derived) rfl, List.forall_mem_nil _⟩
  | removeAuthority _ _ _ acts named =>
    refine ⟨_, keyAt_of_account acts.wallet rfl, ?_⟩
    simp only [List.forall_mem_cons, Write.key]
    exact ⟨touches_of_holds acts.holds, touches_of_names named, List.forall_mem_nil _⟩
  | @transferOwnership p proof s marker counted moved old acts _ _ derived _ _ _ vacant =>
    refine ⟨_, keyAt_of_account acts.wallet rfl, ?_⟩
    have hmarker : c.Touches (.transferOwnership p proof) s.wallet.key marker.key := by
      rcases vacant with hsame | hvacant
      · rw [hsame]
        exact touches_of_names acts.named
      · exact .vacant (hvisible _ hvacant) (List.mem_singleton_self _)
          (Recipe.address_of_derive derived) rfl
    simp only [List.cons_append, List.forall_mem_cons, List.forall_mem_append, Write.key]
    refine ⟨touches_of_holds acts.holds, ?_, hmarker, List.forall_mem_nil _⟩
    split
    · exact List.forall_mem_nil _
    · simpa [Write.key] using touches_of_names acts.named
  | @execute calls proof p payer wallet caller vault w prepares =>
    refine ⟨_, keyAt_of_account prepares.walletAt rfl, ?_⟩
    have hauthorized := prepares.authorized
    generalize p.plan.caller = who, p.delta = writes at hauthorized
    cases hauthorized with
    | authority =>
      split
      · simpa [Write.key] using touches_of_holds prepares.holds
      · exact List.forall_mem_nil _
    | session => exact List.forall_mem_nil _
  | createSession acts _ _ derived _ vacant =>
    refine ⟨_, keyAt_of_account acts.wallet rfl, ?_⟩
    simp only [List.forall_mem_append, List.forall_mem_cons, Write.key]
    refine ⟨?_, .vacant vacant (List.mem_singleton_self _) (Recipe.address_of_derive derived) rfl,
      List.forall_mem_nil _⟩
    split
    · simpa [Write.key] using touches_of_holds acts.holds
    · exact List.forall_mem_nil _

/-- What was there before, at an account that an instruction touches. -/
lemma Touches.home_before (h : c.Touches ix wallet key)
    (hr : View.record? c.data? key = some r) : r.home key = wallet := by
  cases h with
  | record stored home =>
    rw [stored] at hr
    cases hr
    exact home
  | marker stored home =>
    rw [stored] at hr
    cases hr
    exact home
  | vacant vacant =>
    rw [View.record?_of_vacant vacant] at hr
    cases hr

/-- What is there afterwards, at an account that an instruction touches. -/
lemma Performs.home_after (hp : c.Performs auth ix delta) (hix : ix.WellFormed)
    (hwallet : c.keyAt 1 = some wallet) (htouches : c.Touches ix wallet key)
    (hr : View.record? (delta.shown c.data?) key = some r) : r.home key = wallet := by
  rcases hp.stored_cases hix hr with hold | hstores
  · exact htouches.home_before hold
  · cases hstores with
    | creation place => exact Option.some.inj (place.symm.trans hwallet)
    | rewriting stored =>
      show key = wallet
      exact htouches.home_before stored
    | marking place => exact Option.some.inj (place.symm.trans hwallet)
    | opening place => exact Option.some.inj (place.symm.trans hwallet)

/-- An instruction leaves the bytes of every session. -/
lemma Performs.data_of_session {t : SessionRecord} (hp : c.Performs auth ix delta)
    (hvisible : ∀ key, c.isVacant key = true → c.data? key = none)
    (ht : View.record? c.data? key = some (.session t)) :
    delta.shown c.data? key = c.data? key := by
  obtain ⟨wallet, -, htouches⟩ := hp.touches hvisible
  refine Delta.shown_of_ne fun x hx => ?_
  rintro rfl
  cases htouches x hx with
  | record stored => cases ht.symm.trans stored
  | marker stored => cases ht.symm.trans stored
  | vacant vacant => cases ht.symm.trans (View.record?_of_vacant vacant)

end Context

namespace Ledger

variable {d : Deployment} {l : Ledger} {key : Key} {t : SessionRecord} {steps : List Step}

lemma data_of_session_step (s : Step) (ht : l.view.record? key = some (.session t)) :
    (l.step d s).view key = l.view key := by
  cases s with
  | submit verify dispatcher accounts data =>
    rcases l.step_submit_cases with hsame | ⟨ix, auth, o, hc⟩
    · rw [hsame]
    · rw [hc.view_eq]
      exact hc.performs.data_of_session (fun _ => view_of_isVacant) ht
  | setSlot slot => rfl
  | warp slots => rfl
  | setLamports key lamports => rw [step, view_setLamports]

/-- Once it is there, a session record is neither rewritten nor deleted. -/
theorem data_of_session_run (ht : l.view.record? key = some (.session t)) :
    (l.run d steps).view key = l.view key := by
  induction steps generalizing l with
  | nil => rfl
  | cons s rest ih =>
    have hstep := data_of_session_step (d := d) s ht
    exact (ih (by rwa [View.record?_congr hstep])).trans hstep

end Ledger

end SmartWallet
