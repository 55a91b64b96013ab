import SmartWallet.Proofs.Dependence
import SmartWallet.Proofs.Lamports
import SmartWallet.Proofs.Management

/-!
# Wallets are isolated

Instructions on different wallets do not notice each other. Whichever goes first, each gives the
same answer and leaves the same data, also where an account list names accounts of the other wallet.
-/

namespace SmartWallet

/-! ## Views and deltas -/

namespace Delta

variable {v v' : View} {delta delta' : Delta} {key : Key}

lemma shown_congr (h : v key = v' key) : delta.shown v key = delta.shown v' key := by
  induction delta generalizing v v' with
  | nil => exact h
  | cons w rest ih =>
    rw [shown_cons, shown_cons]
    apply ih
    by_cases hw : w.key = key
    · subst hw
      cases w with
      | store k bs => cases bs <;> simp [Write.shown, Write.key, View.put, View.drop]
      | close k refundTo => simp [Write.key, View.drop]
    · rw [Write.shown_of_ne hw, Write.shown_of_ne hw, h]

/-- Deltas that write to different accounts can be shown in either order. -/
lemma shown_comm (h : ∀ key, (∀ w ∈ delta, w.key ≠ key) ∨ ∀ w ∈ delta', w.key ≠ key) :
    delta.shown (delta'.shown v) = delta'.shown (delta.shown v) := by
  funext key
  rcases h key with hkey | hkey
  · rw [shown_of_ne hkey]
    exact shown_congr (shown_of_ne hkey).symm
  · rw [shown_of_ne hkey]
    exact shown_congr (shown_of_ne hkey)

end Delta

/-- The writes that an instruction has committed. -/
def Processed.writes (p : Processed) : Delta :=
  match p.result with
  | .ok o => o.delta
  | .error _ => []

namespace Ledger

variable {l : Ledger} {d : Deployment} {verify verify' : Verifier}
  {dispatcher dispatcher' : Dispatcher} {accounts accounts' : List AccountRef}
  {data data' : List UInt8} {key : Key}

lemma view_process : (l.process d verify dispatcher accounts data).ledger.view =
    (l.process d verify dispatcher accounts data).writes.shown l.view := by
  cases h : (l.process d verify dispatcher accounts data).result with
  | error e =>
    rw [ledger_of_error h, Processed.writes, h]
    rfl
  | ok o =>
    obtain ⟨ix, auth, hc⟩ := exists_commits h
    rw [hc.view_eq, Processed.writes, h]

/-- Where all lamports fit one account, what an instruction asks for is committed. -/
lemma result_process (hroom : l.accounts.totalLamports < UInt64.size) :
    (l.process d verify dispatcher accounts data).result =
      ((l.context d verify accounts).process dispatcher data).2 := by
  cases h : ((l.context d verify accounts).process dispatcher data).2 with
  | error e => simp [process, h]
  | ok o =>
    have hread := h
    unfold Context.process at hread
    split at hread
    · cases hread
    · next ix auth _ =>
      obtain ⟨l', happly⟩ := (Context.performs_of_perform hread).2.exists_apply hroom
      simp [process, h, happly]

/-! ## What belongs to a wallet -/

/-- The recipes of an instruction, whether it succeeds or not. -/
def submittedRecipes (d : Deployment) (accounts : List AccountRef) (data : List UInt8) :
    List Recipe :=
  match accounts[1]?, Instruction.decode d.profile data with
  | some wallet, .ok ix => ix.recipes wallet.key
  | _, _ => []

/-- An account that an instruction touches lies at the address of a recipe of its wallet. -/
lemma Orderly.recipe_of_touches {created : List Recipe} {ix : Instruction} {wallet : Key}
    (h : l.Orderly d created) (ht : (l.context d verify accounts).Touches ix wallet key) :
    ∃ recipe ∈ created ++ ix.recipes wallet, recipe.address d = .ok key ∧
      recipe.home key = wallet := by
  have hstored : ∀ r, l.view.record? key = some r → ∃ recipe ∈ created ++ ix.recipes wallet,
      recipe.address d = .ok key ∧ recipe.home key = wallet := by
    intro r hr
    refine ⟨r.recipe, List.mem_append_left _ (h.covered key r hr), h.registry.derive_recipe hr, ?_⟩
    rw [StoredRecord.home_recipe]
    exact ht.home_before hr
  cases ht with
  | record stored => exact hstored _ stored
  | marker stored => exact hstored _ stored
  | vacant _ creates address home => exact ⟨_, List.mem_append_right _ creates, address, home⟩

/-- The accounts that instructions touch belong to one wallet only. -/
lemma Orderly.wallet_eq_of_touches {created more : List Recipe} {ix : Instruction}
    {wallet : Key} {recipe : Recipe} (h : l.Orderly d created)
    (hapart : Recipe.Apart d more) (hcreated : created ++ ix.recipes wallet ⊆ more)
    (ht : (l.context d verify accounts).Touches ix wallet key) (hmem : recipe ∈ more)
    (haddress : recipe.address d = .ok key) : recipe.home key = wallet := by
  obtain ⟨recipe', hmem', haddress', hhome⟩ := h.recipe_of_touches ht
  rw [hapart recipe hmem recipe' (hcreated hmem') (haddress.trans haddress'.symm), hhome]

/-- No account is touched by instructions on two wallets. -/
lemma Orderly.wallet_unique {created more : List Recipe} {ix ix' : Instruction}
    {wallet wallet' : Key} (h : l.Orderly d created) (hapart : Recipe.Apart d more)
    (hfirst : created ++ ix.recipes wallet ⊆ more)
    (hsecond : created ++ ix'.recipes wallet' ⊆ more)
    (ht : (l.context d verify accounts).Touches ix wallet key)
    (ht' : (l.context d verify' accounts').Touches ix' wallet' key) : wallet = wallet' := by
  obtain ⟨recipe, hmem, haddress, hhome⟩ := h.recipe_of_touches ht
  rw [← hhome]
  exact h.wallet_eq_of_touches hapart hsecond ht' (hfirst hmem) haddress

/-- An instruction on one wallet leaves the data as it was, as far as instructions on another wallet
can tell. -/
lemma Orderly.alikeFor {created more : List Recipe} {ix ix' : Instruction}
    {auth : Authorization} {o : Outcome} {l' : Ledger} {wallet wallet' : Key}
    (h : l.Orderly d created) (hapart : Recipe.Apart d more)
    (hfirst : created ++ ix.recipes wallet ⊆ more)
    (hsecond : created ++ ix'.recipes wallet' ⊆ more)
    (hc : l.Commits d verify dispatcher accounts data ix auth o l')
    (hwallet : (l.context d verify accounts).keyAt 1 = some wallet) (hne : wallet ≠ wallet') :
    View.AlikeFor d wallet' (ix'.recipes wallet') l.view l'.view := by
  obtain ⟨w, hw, htouches⟩ := hc.performs.touches fun _ => view_of_isVacant
  obtain rfl : wallet = w := Option.some.inj (hwallet.symm.trans hw)
  have hix : ix.WellFormed :=
    Instruction.wellFormed_of_decode (Context.readInstruction_eq_ok_iff.1 hc.read).1
  rw [hc.view_eq]
  constructor
  · intro key
    by_cases hwritten : ∃ x ∈ o.delta, x.key = key
    · obtain ⟨x, hx, rfl⟩ := hwritten
      refine .inr ⟨fun r hr => ?_, fun r hr => ?_⟩
      · rwa [(htouches x hx).home_before hr]
      · rwa [hc.performs.home_after hix hw (htouches x hx) hr]
    · exact .inl (Delta.shown_of_ne fun x hx hkey => hwritten ⟨x, hx, hkey⟩)
  · intro recipe hmem key haddress hhome
    refine Delta.shown_of_ne ?_
    rintro x hx rfl
    have hown := h.wallet_eq_of_touches hapart hfirst (htouches x hx)
      (hsecond (List.mem_append_right _ hmem)) haddress
    exact hne (hown.symm.trans hhome)

/-! ## Two instructions -/

/-- Two instructions that are about different wallets, on a ledger where no addresses collide. -/
structure Unrelated (l : Ledger) (d : Deployment) (accounts : List AccountRef)
    (data : List UInt8) (accounts' : List AccountRef) (data' : List UInt8) : Prop where
  differ : ∀ r r', accounts[1]? = some r → accounts'[1]? = some r' → r.key ≠ r'.key
  placed : ∃ created more, l.Orderly d created ∧ Recipe.Apart d more ∧
    created ++ submittedRecipes d accounts data ⊆ more ∧
    created ++ submittedRecipes d accounts' data' ⊆ more

lemma submittedRecipes_eq {r : AccountRef} {ix : Instruction} (hr : accounts[1]? = some r)
    (hix : Instruction.decode d.profile data = .ok ix) :
    submittedRecipes d accounts data = ix.recipes r.key := by
  simp only [submittedRecipes, hr, hix]

lemma Commits.submittedRecipes_eq {ix : Instruction} {auth : Authorization} {o : Outcome}
    {l' : Ledger} {wallet : Key} (h : l.Commits d verify dispatcher accounts data ix auth o l')
    (hwallet : (l.context d verify accounts).keyAt 1 = some wallet) :
    submittedRecipes d accounts data = ix.recipes wallet := by
  obtain ⟨r, hr, rfl⟩ := Option.map_eq_some_iff.1 hwallet
  exact Ledger.submittedRecipes_eq hr (Context.readInstruction_eq_ok_iff.1 h.read).1

namespace Unrelated

lemma symm (h : l.Unrelated d accounts data accounts' data') :
    l.Unrelated d accounts' data' accounts data := by
  obtain ⟨created, more, horderly, hapart, hfirst, hsecond⟩ := h.placed
  exact ⟨fun r r' hr hr' => (h.differ r' r hr' hr).symm, created, more, horderly, hapart, hsecond,
    hfirst⟩

lemma seesAlike (h : l.Unrelated d accounts data accounts' data') {ix' : Instruction}
    (hix' : Instruction.decode d.profile data' = .ok ix') :
    (l.context d verify' accounts').SeesAlike ix'
      (l.process d verify dispatcher accounts data).ledger.view := by
  intro r' hr'
  have hr' : accounts'[1]? = some r' := hr'
  obtain ⟨created, more, horderly, hapart, hfirst, hsecond⟩ := h.placed
  cases hresult : (l.process d verify dispatcher accounts data).result with
  | error e =>
    rw [ledger_of_error hresult]
    exact ⟨fun _ => .inl rfl, fun _ _ _ _ _ => rfl⟩
  | ok o =>
    obtain ⟨ix, auth, hc⟩ := exists_commits hresult
    obtain ⟨wallet, hwallet, -⟩ := hc.performs.touches fun _ => view_of_isVacant
    rw [hc.submittedRecipes_eq hwallet] at hfirst
    rw [submittedRecipes_eq hr' hix'] at hsecond
    obtain ⟨r, hr, rfl⟩ := Option.map_eq_some_iff.1 hwallet
    exact horderly.alikeFor hapart hfirst hsecond hc hwallet (h.differ r r' hr hr')

/-- After the first instruction, the second one goes as it would have gone before it. -/
theorem process_eq (h : l.Unrelated d accounts data accounts' data') :
    ((l.process d verify dispatcher accounts data).ledger.context d verify' accounts').process
        dispatcher' data' =
      (l.context d verify' accounts').process dispatcher' data' := by
  have hcontext : (l.process d verify dispatcher accounts data).ledger.context d verify' accounts' =
      (l.context d verify' accounts').withData
        (l.process d verify dispatcher accounts data).ledger.view := by
    rw [context, slot_process]
    rfl
  rw [hcontext]
  exact Context.process_withData fun ix' hix' => h.seesAlike hix'

lemma log_eq (h : l.Unrelated d accounts data accounts' data') :
    ((l.process d verify dispatcher accounts data).ledger.process d verify' dispatcher' accounts'
        data').log =
      (l.process d verify' dispatcher' accounts' data').log := by
  rw [log_process, log_process, h.process_eq]

lemma result_eq (h : l.Unrelated d accounts data accounts' data')
    (hroom : l.accounts.totalLamports < UInt64.size) :
    ((l.process d verify dispatcher accounts data).ledger.process d verify' dispatcher' accounts'
        data').result =
      (l.process d verify' dispatcher' accounts' data').result := by
  rw [result_process (by rwa [totalLamports_process]), result_process hroom, h.process_eq]

/-- No account is written by both. -/
theorem writes_apart (h : l.Unrelated d accounts data accounts' data') (key : Key) :
    (∀ w ∈ (l.process d verify dispatcher accounts data).writes, w.key ≠ key) ∨
      ∀ w ∈ (l.process d verify' dispatcher' accounts' data').writes, w.key ≠ key := by
  obtain ⟨created, more, horderly, hapart, hfirst, hsecond⟩ := h.placed
  cases hresult : (l.process d verify dispatcher accounts data).result with
  | error e => exact .inl (by simp [Processed.writes, hresult])
  | ok o =>
    cases hresult' : (l.process d verify' dispatcher' accounts' data').result with
    | error e => exact .inr (by simp [Processed.writes, hresult'])
    | ok o' =>
      obtain ⟨ix, auth, hc⟩ := exists_commits hresult
      obtain ⟨ix', auth', hc'⟩ := exists_commits hresult'
      obtain ⟨wallet, hwallet, htouches⟩ := hc.performs.touches fun _ => view_of_isVacant
      obtain ⟨wallet', hwallet', htouches'⟩ := hc'.performs.touches fun _ => view_of_isVacant
      rw [hc.submittedRecipes_eq hwallet] at hfirst
      rw [hc'.submittedRecipes_eq hwallet'] at hsecond
      obtain ⟨r, hr, rfl⟩ := Option.map_eq_some_iff.1 hwallet
      obtain ⟨r', hr', rfl⟩ := Option.map_eq_some_iff.1 hwallet'
      simp only [Processed.writes, hresult, hresult']
      by_contra hboth
      push Not at hboth
      obtain ⟨⟨x, hx, rfl⟩, y, hy, hkey⟩ := hboth
      have htouched := htouches' y hy
      rw [hkey] at htouched
      exact h.differ r r' hr hr'
        (horderly.wallet_unique hapart hfirst hsecond (htouches x hx) htouched)

lemma view_eq (h : l.Unrelated d accounts data accounts' data')
    (hroom : l.accounts.totalLamports < UInt64.size) :
    ((l.process d verify dispatcher accounts data).ledger.process d verify' dispatcher' accounts'
        data').ledger.view =
      ((l.process d verify' dispatcher' accounts' data').ledger.process d verify dispatcher accounts
        data).ledger.view := by
  have hwrites : ((l.process d verify dispatcher accounts data).ledger.process d verify' dispatcher'
      accounts' data').writes = (l.process d verify' dispatcher' accounts' data').writes := by
    rw [Processed.writes, h.result_eq hroom, Processed.writes]
  have hwrites' : ((l.process d verify' dispatcher' accounts' data').ledger.process d verify
      dispatcher accounts data).writes = (l.process d verify dispatcher accounts data).writes := by
    rw [Processed.writes, h.symm.result_eq hroom, Processed.writes]
  rw [view_process, view_process, hwrites, view_process, view_process, hwrites']
  exact (Delta.shown_comm h.writes_apart).symm

end Unrelated

/-- An instruction changes no record of another wallet. -/
theorem data_of_other {r : StoredRecord} (hr : l.view.record? key = some r)
    (hother : ∀ a, accounts[1]? = some a → r.home key ≠ a.key) :
    (l.process d verify dispatcher accounts data).ledger.data? key = l.data? key := by
  cases h : (l.process d verify dispatcher accounts data).result with
  | error e => rw [ledger_of_error h]
  | ok o =>
    obtain ⟨ix, auth, hc⟩ := exists_commits h
    obtain ⟨wallet, hwallet, htouches⟩ := hc.performs.touches fun _ => view_of_isVacant
    obtain ⟨a, ha, rfl⟩ := Option.map_eq_some_iff.1 hwallet
    show (l.process d verify dispatcher accounts data).ledger.view key = l.view key
    rw [hc.view_eq]
    refine Delta.shown_of_ne ?_
    rintro x hx rfl
    exact hother a ha ((htouches x hx).home_before hr)

/-- Two instructions with different accounts for their wallets, on a ledger that a run leaves
behind, give the same answers and hand over the same calls in either order, and they leave the same
data at every key. The first of them alone leaves the records, markers and sessions of all other
wallets as they are. -/
theorem wallets_isolated (d : Deployment) (steps : List Step) (verify verify' : Verifier)
    (dispatcher dispatcher' : Dispatcher) (accounts accounts' : List AccountRef)
    (data data' : List UInt8)
    (apart : Recipe.Apart d (empty.runRecipes d steps ++ submittedRecipes d accounts data ++
      submittedRecipes d accounts' data'))
    (room : (empty.run d steps).accounts.totalLamports < UInt64.size)
    (differ : ∀ r r', accounts[1]? = some r → accounts'[1]? = some r' → r.key ≠ r'.key) :
    let l := empty.run d steps
    let first := l.process d verify dispatcher accounts data
    let second := l.process d verify' dispatcher' accounts' data'
    let secondLast := first.ledger.process d verify' dispatcher' accounts' data'
    let firstLast := second.ledger.process d verify dispatcher accounts data
    (firstLast.result = first.result ∧ firstLast.log = first.log) ∧
    (secondLast.result = second.result ∧ secondLast.log = second.log) ∧
    (∀ key, secondLast.ledger.data? key = firstLast.ledger.data? key) ∧
    ∀ key r, l.view.record? key = some r →
      (∀ a, accounts[1]? = some a → r.home key ≠ a.key) → first.ledger.data? key = l.data? key := by
  intro l first second secondLast firstLast
  have hcreated : empty.runRecipes d steps ⊆ empty.runRecipes d steps ++
      submittedRecipes d accounts data ++ submittedRecipes d accounts' data' :=
    List.subset_append_of_subset_left _ (List.subset_append_left ..)
  have h : l.Unrelated d accounts data accounts' data' :=
    ⟨differ, _, _, orderly_run steps (apart.mono hcreated), apart, List.subset_append_left ..,
      List.append_subset.2 ⟨hcreated, List.subset_append_right ..⟩⟩
  exact ⟨⟨h.symm.result_eq room, h.symm.log_eq⟩, ⟨h.result_eq room, h.log_eq⟩,
    congrFun (h.view_eq room), fun _ _ => data_of_other⟩

end Ledger

namespace Sample

def neighbourId : Key := .replicate 32 2

def neighbourKey : Key := ⟨[
  0xaa, 0x15, 0xec, 0xda, 0x91, 0x76, 0x1e, 0xe5, 0xdc, 0x1b, 0xc5, 0xa1, 0x76, 0x84, 0x1d, 0x86,
  0x15, 0xea, 0xf6, 0x76, 0xd0, 0x98, 0xfe, 0x13, 0x88, 0xe1, 0x45, 0x00, 0xa4, 0x38, 0x8a, 0xc4],
  rfl⟩

def neighbourVaultKey : Key := ⟨[
  0xb4, 0xec, 0x35, 0xb2, 0xa9, 0x9d, 0x43, 0x21, 0x11, 0xa1, 0x85, 0x14, 0x51, 0xc3, 0x60, 0x83,
  0x2c, 0xcd, 0x6b, 0x51, 0x1e, 0x29, 0xea, 0x86, 0x7d, 0xf9, 0x47, 0xa8, 0x51, 0x0f, 0x1b, 0x5d],
  rfl⟩

def neighbourMarkerKey : Key := ⟨[
  0x04, 0x74, 0x00, 0x1e, 0x6b, 0xce, 0xf8, 0xe9, 0x51, 0x48, 0x77, 0x84, 0xaa, 0x40, 0x6e, 0x82,
  0xc0, 0x83, 0x00, 0x03, 0xc1, 0x03, 0xa2, 0xa4, 0x88, 0x1f, 0x8a, 0xe1, 0x3f, 0x97, 0x6c, 0x94],
  rfl⟩

lemma derive_neighbour :
    (Recipe.wallet neighbourId.toList).derive default = .ok ⟨neighbourKey, 253⟩ := by
  decide +kernel

lemma derive_neighbourVault :
    (Recipe.vault neighbourKey).derive default = .ok ⟨neighbourVaultKey, 252⟩ := by
  decide +kernel

lemma derive_neighbourMarker : (Recipe.authority neighbourKey manager.seed).derive default =
    .ok ⟨neighbourMarkerKey, 255⟩ := by
  decide +kernel

/-- The accounts of an instruction by which the manager creates another wallet. -/
def neighbourAccounts : List AccountRef :=
  [payer, ⟨neighbourKey, false, true⟩, ⟨neighbourVaultKey, false, false⟩,
    ⟨neighbourMarkerKey, false, true⟩, ⟨systemProgram, false, false⟩]

def neighbourCreation : List UInt8 :=
  InstructionKind.createWallet.number :: neighbourId.toList ++ [manager.kind.tag, 255] ++
    Instruction.padding ++ manager.encode

lemma submittedRecipes_addition : Ledger.submittedRecipes default additionAccounts addition =
    [.authority walletKey spender.seed] := by
  decide +kernel

lemma submittedRecipes_neighbour :
    Ledger.submittedRecipes default neighbourAccounts neighbourCreation =
      [.wallet neighbourId.toList, .vault neighbourKey, .authority neighbourKey manager.seed] := by
  decide +kernel

lemma apart_neighbours : Recipe.Apart default (Ledger.empty.runRecipes default [creation] ++
    Ledger.submittedRecipes default additionAccounts addition ++
    Ledger.submittedRecipes default neighbourAccounts neighbourCreation) := by
  rw [runRecipes_creation, submittedRecipes_addition, submittedRecipes_neighbour]
  apply Recipe.apart_of_nodup
  simp only [List.cons_append, List.nil_append, List.map_cons, List.map_nil,
    Recipe.address_of_derive derive_wallet, Recipe.address_of_derive derive_vault,
    Recipe.address_of_derive derive_marker, Recipe.address_of_derive derive_spenderMarker,
    Recipe.address_of_derive derive_neighbour, Recipe.address_of_derive derive_neighbourVault,
    Recipe.address_of_derive derive_neighbourMarker]
  decide

lemma kind_neighbourCreation :
    ((ledger 0).process default .rejectAll .acceptAll neighbourAccounts
      neighbourCreation).result.map Outcome.kind = .ok .createWallet := by
  decide +kernel

lemma kinds_neighbours :
    (((Ledger.empty.run default [creation]).process default .echo .acceptAll additionAccounts
        addition).result.map Outcome.kind) = .ok .addAuthority ∧
      (((Ledger.empty.run default [creation]).process default .rejectAll .acceptAll
        neighbourAccounts neighbourCreation).result.map Outcome.kind) = .ok .createWallet ∧
      (Ledger.empty.run default [creation]).accounts.totalLamports < UInt64.size := by
  rw [run_creation]
  exact ⟨kind_addition, kind_neighbourCreation, by decide⟩

/-- The owner adds a spender and the manager creates another wallet. In either order both succeed,
and the accounts hold the same. -/
theorem neighbours_in_either_order :
    let first := (Ledger.empty.run default [creation]).process default .echo .acceptAll
      additionAccounts addition
    let second := (Ledger.empty.run default [creation]).process default .rejectAll .acceptAll
      neighbourAccounts neighbourCreation
    let secondLast := first.ledger.process default .rejectAll .acceptAll neighbourAccounts
      neighbourCreation
    let firstLast := second.ledger.process default .echo .acceptAll additionAccounts addition
    firstLast.result.map Outcome.kind = .ok .addAuthority ∧
      secondLast.result.map Outcome.kind = .ok .createWallet ∧
      ∀ key, secondLast.ledger.data? key = firstLast.ledger.data? key := by
  obtain ⟨hfirst, hsecond, hroom⟩ := kinds_neighbours
  obtain ⟨⟨hfirstLast, -⟩, ⟨hsecondLast, -⟩, hdata, -⟩ :=
    Ledger.wallets_isolated default [creation] .echo .rejectAll .acceptAll .acceptAll
      additionAccounts neighbourAccounts addition neighbourCreation apart_neighbours hroom
      (by rintro r r' ⟨⟩ ⟨⟩; decide)
  simp only [hfirstLast, hsecondLast, hfirst, hsecond, hdata, implies_true, and_self]

end Sample

end SmartWallet
