import SmartWallet.Proofs.Fidelity
import SmartWallet.Proofs.Lamports
import SmartWallet.Proofs.Sessions

/-!
# Commitment

When a delta can be committed, and what the ledger then holds. A store always works; a closing stops
the whole delta if its account is missing or if the refund does not fit. An instruction closes a
marker that is there, and never stores where it closes, so that its writes are committed whenever
all lamports fit one account, and each of them is still to be seen at the end. It does not matter
who gets the refund: a refund never brings data.
-/

namespace SmartWallet

/-! ## What cannot be written -/

namespace AccountMap

variable {m : AccountMap} {key k : Key} {w : Write} {rest delta : Delta} {e : ProgramError}

/-- Why a write cannot be carried out: it closes an account that is missing, or the lamports of the
closed account do not fit those of another. -/
inductive Blocks (m : AccountMap) : Write → Prop
  | missing {key refundTo : Key} (absent : m.find? key = none) : m.Blocks (.close key refundTo)
  | overflow {key refundTo : Key} {closed : Account} (found : m.find? key = some closed)
      (other : refundTo ≠ key)
      (full : UInt64.size ≤ (m.getD refundTo).lamports.toNat + closed.lamports.toNat) :
      m.Blocks (.close key refundTo)

/-- Some write of the delta cannot be carried out once those before it have been. -/
def GetsStuck (m : AccountMap) (delta : Delta) : Prop :=
  ∃ before w after m', delta = before ++ w :: after ∧ m.writeAll before = .ok m' ∧ m'.Blocks w

lemma not_getsStuck_nil : ¬m.GetsStuck [] := by
  rintro ⟨before, w, after, -, hsplit, -⟩
  cases before <;> cases hsplit

lemma getsStuck_cons :
    m.GetsStuck (w :: rest) ↔ m.Blocks w ∨ ∃ m', m.write w = .ok m' ∧ m'.GetsStuck rest := by
  constructor
  · rintro ⟨before, w', after, m', hsplit, hbefore, hblocks⟩
    cases before with
    | nil =>
      cases hsplit
      cases hbefore
      exact .inl hblocks
    | cons x before =>
      cases hsplit
      rw [writeAll, bind_eq_ok_iff] at hbefore
      obtain ⟨m₁, hw, hbefore⟩ := hbefore
      exact .inr ⟨m₁, hw, before, w', after, m', rfl, hbefore, hblocks⟩
  · rintro (hblocks | ⟨m₁, hw, before, w', after, m', rfl, hbefore, hblocks⟩)
    · exact ⟨[], w, rest, m, rfl, rfl, hblocks⟩
    · refine ⟨w :: before, w', after, m', rfl, ?_, hblocks⟩
      rw [writeAll, bind_eq_ok_iff]
      exact ⟨m₁, hw, hbefore⟩

lemma getD_erase : (m.erase key).getD k = if k = key then .empty else m.getD k := by
  rw [getD, find?_erase]
  split <;> rfl

lemma write_eq_error_iff : m.write w = .error e ↔ e = .invalidAccountData ∧ m.Blocks w := by
  cases w with
  | store key data =>
    constructor
    · nofun
    · rintro ⟨-, ⟨⟩⟩
  | close key refundTo =>
    simp only [write, bind_eq_error_iff, orError_eq_error_iff, orError_eq_ok_iff,
      ensure_eq_error_iff, pure_ne_error, and_false, exists_false, or_false, not_lt]
    constructor
    · rintro (⟨absent, rfl⟩ | ⟨closed, found, full, rfl⟩)
      · exact ⟨rfl, .missing absent⟩
      · rw [getD_erase] at full
        split at full
        · -- the closed account starts afresh, and what it held fits it
          have hfits := closed.lamports.toNat_lt
          simp only [Account.empty, UInt64.toNat_zero, Nat.zero_add] at full
          exact absurd full (Nat.not_le_of_lt hfits)
        · next other => exact ⟨rfl, .overflow found other full⟩
    · rintro ⟨rfl, hblocks⟩
      cases hblocks with
      | missing absent => exact .inl ⟨absent, rfl⟩
      | overflow found other full =>
        exact .inr ⟨_, found, by rwa [getD_erase, if_neg other], rfl⟩

lemma writeAll_eq_error_iff :
    m.writeAll delta = .error e ↔ e = .invalidAccountData ∧ m.GetsStuck delta := by
  induction delta generalizing m with
  | nil => simp [writeAll, not_getsStuck_nil]
  | cons w rest ih =>
    rw [writeAll, bind_eq_error_iff, write_eq_error_iff, getsStuck_cons]
    simp only [ih]
    constructor
    · rintro (⟨rfl, hblocks⟩ | ⟨m', hw, rfl, hstuck⟩)
      · exact ⟨rfl, .inl hblocks⟩
      · exact ⟨rfl, .inr ⟨m', hw, hstuck⟩⟩
    · rintro ⟨rfl, hblocks | ⟨m', hw, hstuck⟩⟩
      · exact .inl ⟨rfl, hblocks⟩
      · exact .inr ⟨m', hw, rfl, hstuck⟩

end AccountMap

namespace Ledger

variable {l : Ledger} {delta : Delta} {e : ProgramError}

lemma apply_eq_error_iff :
    l.apply delta = .error e ↔ e = .invalidAccountData ∧ l.accounts.GetsStuck delta := by
  simp only [apply, bind_eq_error_iff, pure_ne_error, and_false, exists_false, or_false,
    AccountMap.writeAll_eq_error_iff]

/-- The ledger after an attempt to commit a delta. -/
def attempt (l : Ledger) (delta : Delta) : Ledger :=
  match l.apply delta with
  | .ok committed => committed
  | .error _ => l

lemma attempt_of_ok {l' : Ledger} (h : l.apply delta = .ok l') : l.attempt delta = l' := by
  rw [attempt, h]

lemma attempt_of_error (h : l.apply delta = .error e) : l.attempt delta = l := by
  rw [attempt, h]

end Ledger

/-! ## What a delta leaves to be seen -/

namespace Delta

variable {v : View} {delta : Delta} {key k : Key} {bs data : List UInt8}

/-- Whether some write of the delta closes the account. -/
def Closes (delta : Delta) (key : Key) : Prop := ∃ refundTo, .close key refundTo ∈ delta

/-- Every account is as the delta says: it holds what was stored there last, or nothing if it was
only closed, or what it held before. -/
structure CarriedOut (delta : Delta) (before after : View) : Prop where
  stored : ∀ key bs, delta.stored? key = some bs → after key = some bs
  closed : ∀ key, delta.stored? key = none → delta.Closes key → after key = none
  kept : ∀ key, delta.stored? key = none → ¬delta.Closes key → after key = before key

lemma stored?_concat_store : Delta.stored? (delta ++ [.store k data]) key =
    if k = key then some data else delta.stored? key := by
  simp only [stored?, List.reverse_append, List.reverse_singleton, List.singleton_append,
    List.findSome?_cons]
  split <;> simp_all

lemma stored?_concat_close {refundTo : Key} :
    Delta.stored? (delta ++ [.close k refundTo]) key = delta.stored? key := by
  simp [stored?]

lemma shown_concat {w : Write} : Delta.shown (delta ++ [w]) v = w.shown (delta.shown v) := by
  rw [shown_append, shown_cons, shown_nil]

lemma shown_concat_of_ne {w : Write} (h : w.key ≠ key) :
    Delta.shown (delta ++ [w]) v key = delta.shown v key := by
  rw [shown_concat, Write.shown_of_ne h]

lemma mem_of_stored? (h : delta.stored? key = some bs) : .store key bs ∈ delta := by
  obtain ⟨w, hw, hstored⟩ := List.exists_of_findSome?_eq_some h
  cases w with
  | store k data =>
    obtain ⟨rfl, rfl⟩ : k = key ∧ data = bs := by simpa using hstored
    exact List.mem_reverse.1 hw
  | close k refundTo => cases hstored

lemma store_notMem_of_stored? (h : delta.stored? key = none) : .store key bs ∉ delta := by
  intro hmem
  have hnone := List.findSome?_eq_none_iff.1 h (.store key bs) (List.mem_reverse.2 hmem)
  simp at hnone

/-- What was stored last at an account that is not closed is to be seen. -/
lemma shown_of_stored? (hvisible : bs ≠ []) (hopen : ¬delta.Closes key)
    (h : delta.stored? key = some bs) : delta.shown v key = some bs := by
  induction delta using List.reverseRecOn with
  | nil => cases h
  | append_singleton delta w ih =>
    have hopen' : ¬Closes delta key := fun ⟨refundTo, hmem⟩ =>
      hopen ⟨refundTo, List.mem_append_left _ hmem⟩
    cases w with
    | store k data =>
      rw [stored?_concat_store] at h
      split at h
      · next hk =>
        cases h
        rw [shown_concat, Write.shown_store hvisible, View.put, hk, Function.update_self]
      · next hk => rw [shown_concat_of_ne (w := .store k data) hk, ih hopen' h]
    | close k refundTo =>
      rw [stored?_concat_close] at h
      have hk : k ≠ key := by
        rintro rfl
        exact hopen ⟨refundTo, by simp⟩
      rw [shown_concat_of_ne (w := .close k refundTo) hk, ih hopen' h]

/-- Nothing is to be seen at an account that is closed and never stored. -/
lemma shown_of_closes (hclosed : delta.Closes key) (h : delta.stored? key = none) :
    delta.shown v key = none := by
  induction delta using List.reverseRecOn with
  | nil => exact absurd hclosed (by simp [Closes])
  | append_singleton delta w ih =>
    obtain ⟨refundTo, hmem⟩ := hclosed
    cases w with
    | store k data =>
      rw [stored?_concat_store] at h
      split at h
      · cases h
      · next hk =>
        rw [shown_concat_of_ne (w := .store k data) hk, ih ⟨refundTo, by simpa using hmem⟩ h]
    | close k heir =>
      rw [stored?_concat_close] at h
      by_cases hk : k = key
      · rw [shown_concat, Write.shown_close, View.drop, hk, Function.update_self]
      · rw [shown_concat_of_ne (w := .close k heir) hk,
          ih ⟨refundTo, by simpa [Ne.symm hk] using hmem⟩ h]

lemma shown_of_untouched (hopen : ¬delta.Closes key) (h : delta.stored? key = none) :
    delta.shown v key = v key := by
  refine shown_of_ne fun w hw hkey => ?_
  cases w with
  | store k data =>
    obtain rfl : k = key := hkey
    exact store_notMem_of_stored? h hw
  | close k refundTo =>
    obtain rfl : k = key := hkey
    exact hopen ⟨refundTo, hw⟩

lemma carriedOut_shown (hvisible : ∀ key bs, .store key bs ∈ delta → bs ≠ [])
    (hopen : ∀ key bs, .store key bs ∈ delta → ¬delta.Closes key) (v : View) :
    delta.CarriedOut v (delta.shown v) where
  stored key bs h :=
    shown_of_stored? (hvisible key bs (mem_of_stored? h)) (hopen key bs (mem_of_stored? h)) h
  closed _ h hclosed := shown_of_closes hclosed h
  kept _ h hopen := shown_of_untouched hopen h

end Delta

/-! ## What an instruction writes -/

namespace Context

variable {c : Context} {auth : Authorization} {ix : Instruction} {delta : Delta} {key : Key}
  {bs : List UInt8}

lemma Calls.not_closes {payer walletKey k : Key} {w : Wallet} {who : Caller}
    (h : c.Calls auth payer walletKey w k who delta) : ¬delta.Closes key := by
  cases h with
  | authority => split <;> simp [Delta.Closes]
  | session => simp [Delta.Closes]

lemma Calls.data_ne_nil {payer walletKey k : Key} {w : Wallet} {who : Caller}
    (h : c.Calls auth payer walletKey w k who delta) (hmem : .store key bs ∈ delta) : bs ≠ [] := by
  cases h with
  | authority =>
    split at hmem
    · obtain ⟨-, rfl⟩ : key = walletKey ∧ bs = _ := by simpa using hmem
      exact Wallet.encode_ne_nil _
    · cases hmem
  | session => cases hmem

/-- An instruction stores records only, and none of them is empty. -/
lemma Performs.data_ne_nil (hp : c.Performs auth ix delta) (hmem : .store key bs ∈ delta) :
    bs ≠ [] := by
  have hwallet := fun w : Wallet => w.encode_ne_nil.symm
  have hmarker := fun m : AuthorityMarker => m.encode_ne_nil.symm
  have hsession := fun t : SessionRecord => t.encode_ne_nil.symm
  rintro rfl
  cases hp with
  | createWallet => simp [hwallet, hmarker] at hmem
  | addAuthority => simp [hwallet, hmarker] at hmem
  | removeAuthority => simp [hwallet] at hmem
  | transferOwnership => split at hmem <;> simp [hwallet, hmarker] at hmem
  | execute prepares => exact prepares.authorized.data_ne_nil hmem rfl
  | createSession => split at hmem <;> simp [hwallet, hsession] at hmem

/-- An instruction closes a marker only, and neither the wallet nor a new marker is there. -/
lemma Performs.not_closes (hp : c.Performs auth ix delta) (hmem : .store key bs ∈ delta) :
    ¬delta.Closes key := by
  rintro ⟨refundTo, hclose⟩
  cases hp with
  | createWallet => simp at hclose
  | addAuthority => simp at hclose
  | removeAuthority _ _ _ acts named =>
    have hne := named.ne_of_holdsWallet acts.holds
    simp only [List.mem_cons, List.not_mem_nil, Write.store.injEq, Write.close.injEq, reduceCtorEq,
      or_false, false_or] at hmem hclose
    exact hne (hclose.1.symm.trans hmem.1)
  | transferOwnership acts =>
    have hne := acts.named.ne_of_holdsWallet acts.holds
    split at hmem
    · next hsame => simp [hsame] at hclose
    · next hother =>
      simp only [hother, if_false, List.cons_append, List.nil_append, List.mem_cons,
        List.not_mem_nil, Write.store.injEq, Write.close.injEq, reduceCtorEq, or_false,
        false_or] at hmem hclose
      obtain ⟨rfl, -⟩ := hclose
      obtain ⟨hwallet, -⟩ | ⟨hmarker, -⟩ := hmem
      · exact hne hwallet
      · exact hother hmarker.symm
  | execute prepares => exact prepares.authorized.not_closes ⟨refundTo, hclose⟩
  | createSession => split at hclose <;> simp at hclose

/-- After a successful instruction, every account is as its writes say. -/
theorem Performs.carriedOut (hp : c.Performs auth ix delta) :
    delta.CarriedOut c.data? (delta.shown c.data?) :=
  Delta.carriedOut_shown (fun _ _ => hp.data_ne_nil) (fun _ _ => hp.not_closes) _

end Context

/-! ## Committing -/

namespace Ledger

variable {l : Ledger} {d : Deployment} {verify : Verifier} {dispatcher : Dispatcher}
  {accounts : List AccountRef} {data : List UInt8} {o : Outcome}

lemma exists_performs_of_process
    (h : ((l.context d verify accounts).process dispatcher data).2 = .ok o) :
    ∃ ix auth, (l.context d verify accounts).readInstruction data = .ok (ix, auth) ∧
      ((l.context d verify accounts).perform dispatcher ix auth).2 = .ok o := by
  unfold Context.process at h
  split at h
  · cases h
  · next ix auth hread => exact ⟨ix, auth, hread, h⟩

/-- Where all lamports fit one account, a successful instruction is committed. -/
theorem exists_commits_of_process (hroom : l.accounts.totalLamports < UInt64.size)
    (h : ((l.context d verify accounts).process dispatcher data).2 = .ok o) :
    ∃ ix auth, l.Commits d verify dispatcher accounts data ix auth o
      (l.process d verify dispatcher accounts data).ledger := by
  obtain ⟨ix, auth, hread, hperform⟩ := exists_performs_of_process h
  obtain ⟨l', happly⟩ := (Context.performs_of_perform hperform).2.exists_apply hroom
  exact ⟨ix, auth, commits_of_perform hread hperform happly⟩

lemma totalLamports_attempt (delta : Delta) :
    (l.attempt delta).accounts.totalLamports = l.accounts.totalLamports := by
  cases h : l.apply delta with
  | error e => rw [attempt_of_error h]
  | ok l' => rw [attempt_of_ok h, totalLamports_apply h]

/-- A delta is committed as a whole and moves lamports without making or losing any, or it fails and
the ledger stays as it was. It fails for a write that cannot be carried out in its turn, and for
nothing else. Where all lamports fit one account, whatever an instruction asks for is committed, and
every account is then as its writes say. -/
theorem conserves_and_commits (l : Ledger) :
    (∀ delta,
      (l.apply delta = .error .invalidAccountData ∧ l.attempt delta = l ∨
        l.apply delta = .ok (l.attempt delta) ∧
          (l.attempt delta).accounts.totalLamports = l.accounts.totalLamports) ∧
      ((∃ e, l.apply delta = .error e) ↔ l.accounts.GetsStuck delta)) ∧
    (l.accounts.totalLamports < UInt64.size →
      ∀ d verify dispatcher accounts data o,
        ((l.context d verify accounts).process dispatcher data).2 = .ok o →
        (l.process d verify dispatcher accounts data).result = .ok o ∧
          (l.process d verify dispatcher accounts data).ledger = l.attempt o.delta ∧
          o.delta.CarriedOut l.data?
            (l.process d verify dispatcher accounts data).ledger.data?) := by
  refine ⟨fun delta => ⟨?_, ?_⟩, fun hroom d verify dispatcher accounts data o h => ?_⟩
  · cases happly : l.apply delta with
    | error e =>
      obtain ⟨rfl, -⟩ := apply_eq_error_iff.1 happly
      exact .inl ⟨rfl, attempt_of_error happly⟩
    | ok l' => exact .inr ⟨by rw [attempt_of_ok happly], totalLamports_attempt delta⟩
  · constructor
    · rintro ⟨e, he⟩
      exact (apply_eq_error_iff.1 he).2
    · intro hstuck
      exact ⟨_, apply_eq_error_iff.2 ⟨rfl, hstuck⟩⟩
  · obtain ⟨ix, auth, hc⟩ := exists_commits_of_process hroom h
    refine ⟨hc.answered, (attempt_of_ok hc.applied).symm, ?_⟩
    have hview : (l.process d verify dispatcher accounts data).ledger.data? =
        o.delta.shown l.data? := hc.view_eq
    rw [hview]
    exact hc.performs.carriedOut

end Ledger

namespace Sample

/-- The admin's marker holds lamports. -/
def endowed : Ledger :=
  Ledger.empty.run default [founding, appointment, .setLamports spenderMarkerKey 500]

/-- The manager removes the admin, and the marker that is closed is to get its own lamports. -/
def selfRefund : List AccountRef :=
  [payer, ⟨walletKey, false, true⟩, ⟨managerMarkerKey, false, false⟩,
    ⟨spenderMarkerKey, false, true⟩, ⟨spenderMarkerKey, false, true⟩]

def selfRefundOutcome : Outcome :=
  ⟨.removeAuthority,
    [.store walletKey foundedWallet.encode, .close spenderMarkerKey spenderMarkerKey], none⟩

lemma process_selfRefund :
    endowed.accounts.totalLamports < UInt64.size ∧
      ((endowed.context default .echo selfRefund).process .acceptAll
        [InstructionKind.removeAuthority.number]).2 = .ok selfRefundOutcome := by
  rw [endowed, run_appointment]
  decide +kernel

/-- The marker is there again, for its lamports, but its record is gone. -/
theorem selfRefund_committed :
    (endowed.accounts.totalLamports < UInt64.size ∧
      ((endowed.context default .echo selfRefund).process .acceptAll
        [InstructionKind.removeAuthority.number]).2 = .ok selfRefundOutcome) ∧
    let p := endowed.process default .echo .acceptAll selfRefund
      [InstructionKind.removeAuthority.number]
    p.result = .ok selfRefundOutcome ∧ p.ledger = endowed.attempt selfRefundOutcome.delta ∧
      p.ledger.data? spenderMarkerKey = none ∧
      p.ledger.data? walletKey = some foundedWallet.encode ∧
      p.ledger.lamports spenderMarkerKey = 500 := by
  obtain ⟨hroom, hprocess⟩ := process_selfRefund
  obtain ⟨hanswered, hledger, hcarried⟩ :=
    (Ledger.conserves_and_commits endowed).2 hroom _ _ _ _ _ _ hprocess
  have hclosed : Delta.Closes selfRefundOutcome.delta spenderMarkerKey :=
    ⟨spenderMarkerKey, List.mem_cons_of_mem _ (List.mem_singleton_self _)⟩
  exact ⟨⟨hroom, hprocess⟩, hanswered, hledger, hcarried.closed _ (by decide) hclosed,
    hcarried.stored _ _ (by decide), by decide +kernel⟩

end Sample

end SmartWallet
