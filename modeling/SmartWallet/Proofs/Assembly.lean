import SmartWallet.Client.Transaction
import SmartWallet.Proofs.Packing

/-!
# What a message tells about an account

A message lists every key once, with all privileges that are asked for it anywhere, and its payer as
a writable signer. The order of the keys and the counts in the header give back exactly these
privileges, so that a program sees each account of its call with the union of the privileges that
the whole message asks for the key.
-/

namespace SmartWallet

/-- A key with every privilege that some references ask for it. -/
def AccountRef.united (refs : List AccountRef) (key : Key) : AccountRef :=
  ⟨key, refs.any fun a => a.key == key && a.signer, refs.any fun a => a.key == key && a.writable⟩

lemma AccountRef.united_append_singleton (refs : List AccountRef) (a : AccountRef) (key : Key) :
    united (refs ++ [a]) key =
      if a.key = key then
        ⟨key, (united refs key).signer || a.signer, (united refs key).writable || a.writable⟩
      else united refs key := by
  by_cases h : a.key = key
  · simp [united, h]
  · simp [united, beq_eq_false_iff_ne.2 h, h]

namespace Message

/-! ## Uniting references -/

variable {a r : AccountRef} {refs asked : List AccountRef}

lemma keys_unite : (unite a refs).map AccountRef.key =
    if a.key ∈ refs.map AccountRef.key then refs.map AccountRef.key
    else refs.map AccountRef.key ++ [a.key] := by
  induction refs with
  | nil => rfl
  | cons b refs ih =>
    unfold unite
    by_cases hb : b.key = a.key
    · simp [hb]
    · simp only [hb, if_false, List.map_cons, ih, List.mem_cons, Ne.symm hb, false_or]
      split <;> simp

lemma mem_unite (hnodup : (refs.map AccountRef.key).Nodup) (h : r ∈ unite a refs) :
    (r ∈ refs ∧ r.key ≠ a.key) ∨
      (∃ b ∈ refs, b.key = a.key ∧ r = ⟨a.key, b.signer || a.signer, b.writable || a.writable⟩) ∨
      (a.key ∉ refs.map AccountRef.key ∧ r = a) := by
  induction refs with
  | nil =>
    rw [unite, List.mem_singleton] at h
    exact .inr (.inr ⟨List.not_mem_nil, h⟩)
  | cons b refs ih =>
    obtain ⟨hb, hnodup⟩ := List.nodup_cons.1 hnodup
    unfold unite at h
    split at h
    · next hkey =>
      rcases List.mem_cons.1 h with rfl | hr
      · exact .inr (.inl ⟨b, List.mem_cons_self .., hkey, by rw [hkey]⟩)
      · refine .inl ⟨List.mem_cons_of_mem _ hr, fun he => hb ?_⟩
        exact List.mem_map.2 ⟨r, hr, he.trans hkey.symm⟩
    · next hkey =>
      rcases List.mem_cons.1 h with rfl | hr
      · exact .inl ⟨List.mem_cons_self .., hkey⟩
      · rcases ih hnodup hr with ⟨hmem, hne⟩ | ⟨b', hb', hunited⟩ | ⟨hnew, heq⟩
        · exact .inl ⟨List.mem_cons_of_mem _ hmem, hne⟩
        · exact .inr (.inl ⟨b', List.mem_cons_of_mem _ hb', hunited⟩)
        · refine .inr (.inr ⟨?_, heq⟩)
          rw [List.map_cons, List.mem_cons, not_or]
          exact ⟨Ne.symm hkey, hnew⟩

/-- The list holds the key of every reference once, with all privileges asked for it. -/
structure Unites (asked refs : List AccountRef) : Prop where
  nodup : (refs.map AccountRef.key).Nodup
  covers : ∀ a ∈ asked, a.key ∈ refs.map AccountRef.key
  united : ∀ r ∈ refs, r = AccountRef.united asked r.key

lemma Unites.united_of_new (h : Unites asked refs) (hnew : a.key ∉ refs.map AccountRef.key) :
    AccountRef.united asked a.key = ⟨a.key, false, false⟩ := by
  have hne : ∀ b ∈ asked, (b.key == a.key) = false := fun b hb =>
    beq_eq_false_iff_ne.2 fun he => hnew (he ▸ h.covers b hb)
  simp only [AccountRef.united, AccountRef.mk.injEq, true_and, List.any_eq_false]
  exact ⟨fun b hb => by simp [hne b hb], fun b hb => by simp [hne b hb]⟩

lemma Unites.unite (h : Unites asked refs) (a : AccountRef) :
    Unites (asked ++ [a]) (unite a refs) where
  nodup := by
    rw [keys_unite]
    split
    · exact h.nodup
    · next hnew => exact List.nodup_append.2 ⟨h.nodup, by simp, by simpa using hnew⟩
  covers b hb := by
    have hkeys : b.key ∈ refs.map AccountRef.key ∨ b.key = a.key := by
      rcases List.mem_append.1 hb with hb | hb
      · exact .inl (h.covers b hb)
      · exact .inr (by rw [List.mem_singleton.1 hb])
    rw [keys_unite]
    split
    · next hold => exact hkeys.elim id fun he => he ▸ hold
    · simpa using hkeys
  united r hr := by
    rcases mem_unite h.nodup hr with ⟨hmem, hne⟩ | ⟨b, hb, hkey, rfl⟩ | ⟨hnew, rfl⟩
    · rw [AccountRef.united_append_singleton, if_neg (Ne.symm hne)]
      exact h.united r hmem
    · have hunited := h.united b hb
      rw [hkey] at hunited
      rw [AccountRef.united_append_singleton, if_pos rfl, ← hunited]
    · rw [AccountRef.united_append_singleton, if_pos rfl, h.united_of_new hnew]
      simp

lemma unites_foldl (h : Unites asked refs) (more : List AccountRef) :
    Unites (asked ++ more) (more.foldl (fun refs a => unite a refs) refs) := by
  induction more generalizing asked refs with
  | nil => simpa using h
  | cons a more ih => simpa using ih (h.unite a)

/-- What some calls ask for, their programs included. -/
def askedBy (calls : List Call) : List AccountRef :=
  calls.flatMap fun c => ⟨c.program, false, false⟩ :: c.accounts

lemma length_unite_le : (unite a refs).length ≤ refs.length + 1 := by
  rw [← List.length_map AccountRef.key, keys_unite]
  split <;> simp

lemma length_references_le (calls : List Call) :
    (references calls).length ≤ (askedBy calls).length := by
  have hfold : ∀ asked refs, (List.foldl (fun refs a => unite a refs) refs asked).length ≤
      refs.length + asked.length := by
    intro asked
    induction asked with
    | nil => simp
    | cons a asked ih =>
      intro refs
      have hstep := ih (unite a refs)
      have hunite : (unite a refs).length ≤ refs.length + 1 := length_unite_le
      rw [List.foldl_cons, List.length_cons]
      omega
  have hall := hfold (askedBy calls) []
  rwa [List.length_nil, Nat.zero_add] at hall

lemma unites_references (calls : List Call) : Unites (askedBy calls) (references calls) := by
  have hempty : Unites [] [] := ⟨List.nodup_nil, nofun, nofun⟩
  exact unites_foldl hempty (askedBy calls)

/-! ## The order of the accounts -/

variable {payer blockhash : Key} {calls : List Call}

/-- What a message asks for: its payer is a writable signer. -/
def requested (payer : Key) (calls : List Call) : List AccountRef :=
  ⟨payer, true, true⟩ :: askedBy calls

/-- The accounts of a layout but its payer, in four groups. -/
def group (payer : Key) (calls : List Call) (signer writable : Bool) : List AccountRef :=
  (((references calls).filter (·.key ≠ payer)).mergeSort fun a b => a.key.le b.key).filter
    fun a => a.signer == signer && a.writable == writable

lemma layout_eq : layout payer calls = (⟨payer, true, true⟩ :: group payer calls true true) ++
    (group payer calls true false ++ (group payer calls false true ++
      group payer calls false false)) := by
  simp [layout, group]

lemma mem_group {signer writable : Bool} : r ∈ group payer calls signer writable ↔
    (r ∈ references calls ∧ r.key ≠ payer) ∧ r.signer = signer ∧ r.writable = writable := by
  simp [group]

lemma length_layout_le : (layout payer calls).length ≤ (requested payer calls).length := by
  have hgroups : ∀ refs : List AccountRef,
      (refs.filter fun a => a.signer == true && a.writable == true).length +
        ((refs.filter fun a => a.signer == true && a.writable == false).length +
          ((refs.filter fun a => a.signer == false && a.writable == true).length +
            (refs.filter fun a => a.signer == false && a.writable == false).length)) =
        refs.length := by
    intro refs
    induction refs with
    | nil => rfl
    | cons r refs ih =>
      cases hs : r.signer <;> cases hw : r.writable <;> simp [hs, hw] at ih ⊢ <;> omega
  have hfilter : ((references calls).filter (·.key ≠ payer)).length ≤ (references calls).length :=
    List.length_filter_le ..
  have hasked := length_references_le calls
  simp only [layout_eq, group, List.length_append, List.length_cons, requested]
  rw [Nat.add_right_comm, hgroups, List.length_mergeSort]
  omega

lemma mem_layout : r ∈ layout payer calls ↔
    r = ⟨payer, true, true⟩ ∨ (r ∈ references calls ∧ r.key ≠ payer) := by
  simp only [layout_eq, List.mem_append, List.mem_cons, mem_group]
  cases r.signer <;> cases r.writable <;> simp

lemma eq_united_of_mem_layout (h : r ∈ layout payer calls) :
    r = AccountRef.united (requested payer calls) r.key := by
  rcases mem_layout.1 h with rfl | ⟨hr, hne⟩
  · simp [AccountRef.united, requested]
  · have hunited := (unites_references calls).united r hr
    have hpayer : (payer == r.key) = false := beq_eq_false_iff_ne.2 (Ne.symm hne)
    simpa [AccountRef.united, requested, hpayer] using hunited

lemma mem_keys_layout (h : a ∈ requested payer calls) :
    a.key ∈ (layout payer calls).map AccountRef.key := by
  rcases List.mem_cons.1 h with rfl | ha
  · exact List.mem_map.2 ⟨_, mem_layout.2 (.inl rfl), rfl⟩
  · by_cases hkey : a.key = payer
    · exact List.mem_map.2 ⟨_, mem_layout.2 (.inl rfl), hkey.symm⟩
    · obtain ⟨r, hr, hrkey⟩ := List.mem_map.1 ((unites_references calls).covers a ha)
      exact List.mem_map.2 ⟨r, mem_layout.2 (.inr ⟨hr, hrkey ▸ hkey⟩), hrkey⟩

/-! ## The privileges in the header -/

/-- The accounts can be counted and indexed by bytes. -/
def Fits (refs : List AccountRef) : Prop := refs.length ≤ 256 ∧ refs.countP (·.signer) < 256

lemma fits_layout (h : (requested payer calls).length < 256) : Fits (layout payer calls) := by
  have hlength : (layout payer calls).length ≤ (requested payer calls).length := length_layout_le
  have hsigners : (layout payer calls).countP (·.signer) ≤ (layout payer calls).length :=
    List.countP_le_length
  exact ⟨by omega, by omega⟩

variable {A B C D : List AccountRef}

/-- Accounts in four groups, by their privileges. -/
structure Grouped (A B C D : List AccountRef) : Prop where
  both : ∀ r ∈ A, r.signer = true ∧ r.writable = true
  signer : ∀ r ∈ B, r.signer = true ∧ r.writable = false
  writable : ∀ r ∈ C, r.signer = false ∧ r.writable = true
  neither : ∀ r ∈ D, r.signer = false ∧ r.writable = false

lemma Grouped.counts (h : Grouped A B C D) :
    (A ++ (B ++ (C ++ D))).countP (·.signer) = A.length + B.length ∧
    (A ++ (B ++ (C ++ D))).countP (fun a => a.signer && !a.writable) = B.length ∧
    (A ++ (B ++ (C ++ D))).countP (fun a => !a.signer && !a.writable) = D.length := by
  have hcount (l : List AccountRef) (p : AccountRef → Bool) (b : Bool) (hl : ∀ r ∈ l, p r = b) :
      l.countP p = if b then l.length else 0 := by
    cases b with
    | true => simpa [List.countP_eq_length] using hl
    | false => simpa [List.countP_eq_zero] using hl
  simp only [List.countP_append]
  refine ⟨?_, ?_, ?_⟩
  · rw [hcount A _ true fun r hr => (h.both r hr).1, hcount B _ true fun r hr => (h.signer r hr).1,
      hcount C _ false fun r hr => (h.writable r hr).1,
      hcount D _ false fun r hr => (h.neither r hr).1]
    rfl
  · rw [hcount A _ false fun r hr => by simp [h.both r hr],
      hcount B _ true fun r hr => by simp [h.signer r hr],
      hcount C _ false fun r hr => by simp [h.writable r hr],
      hcount D _ false fun r hr => by simp [h.neither r hr]]
    simp
  · rw [hcount A _ false fun r hr => by simp [h.both r hr],
      hcount B _ false fun r hr => by simp [h.signer r hr],
      hcount C _ false fun r hr => by simp [h.writable r hr],
      hcount D _ true fun r hr => by simp [h.neither r hr]]
    simp

/-- Position alone tells the privileges of an account. -/
lemma Grouped.privileges (h : Grouped A B C D) {i : Nat}
    (hr : (A ++ (B ++ (C ++ D)))[i]? = some r) :
    (r.signer = true ↔ i < A.length + B.length) ∧
    (r.writable = true ↔
      i < A.length ∨ (A.length + B.length ≤ i ∧ i < A.length + B.length + C.length)) := by
  rw [List.getElem?_append] at hr
  split at hr
  · have hmem := h.both r (List.mem_of_getElem? hr)
    simp only [hmem, true_iff]
    omega
  · rw [List.getElem?_append] at hr
    split at hr
    · have hmem := h.signer r (List.mem_of_getElem? hr)
      simp only [hmem, true_iff, Bool.false_eq_true, false_iff]
      omega
    · rw [List.getElem?_append] at hr
      split at hr
      · have hmem := h.writable r (List.mem_of_getElem? hr)
        simp only [hmem, true_iff, Bool.false_eq_true, false_iff]
        omega
      · have hmem := h.neither r (List.mem_of_getElem? hr)
        simp only [hmem, Bool.false_eq_true, false_iff]
        omega

lemma Grouped.account?_eq {refs : List AccountRef} {compiled : List CompiledCall}
    (h : Grouped A B C D) (hrefs : refs = A ++ (B ++ (C ++ D))) (hfits : Fits refs)
    (hpos : 0 < A.length) (i : Nat) :
    account? ⟨headerOf refs, refs.map AccountRef.key, blockhash, compiled⟩ i = refs[i]? := by
  obtain ⟨hlength, hsigners⟩ := hfits
  obtain ⟨hrequired, hreadonlySigned, hreadonlyUnsigned⟩ := h.counts
  rw [← hrefs] at hrequired hreadonlySigned hreadonlyUnsigned
  have hsum : refs.length = A.length + (B.length + (C.length + D.length)) := by
    simp [hrefs]
  -- the payer is in the first group, so that no count of the header wraps
  have hbyte {n : Nat} (hn : n < 256) : (UInt8.ofNat n).toNat = n :=
    UInt8.toNat_ofNat_of_lt' hn
  simp only [account?, headerOf, hrequired, hreadonlySigned, hreadonlyUnsigned, List.length_map,
    List.getElem?_map, Option.map_map]
  rw [hbyte (by omega), hbyte (by omega), hbyte (by omega)]
  cases hr : refs[i]? with
  | none => rfl
  | some r =>
    obtain ⟨hs, hw⟩ := h.privileges (hrefs ▸ hr)
    have hlt := (List.getElem?_eq_some_iff.1 hr).1
    have hsigner : decide (i < A.length + B.length) = r.signer := by
      rw [Bool.eq_iff_iff, decide_eq_true_iff, hs]
    have hwritable : decide (if i < A.length + B.length then i < A.length + B.length - B.length
        else i < refs.length - D.length) = r.writable := by
      rw [Bool.eq_iff_iff, decide_eq_true_iff, hw]
      split
      · omega
      · omega
    simp only [Option.map_some, Function.comp_apply, hsigner, hwritable]

/-- The header gives every account back its privileges. -/
lemma account?_compile (hfits : Fits (layout payer calls)) (i : Nat) :
    (compile payer blockhash calls).account? i = (layout payer calls)[i]? := by
  refine Grouped.account?_eq ⟨?_, ?_, ?_, ?_⟩ layout_eq hfits (by simp) i
  · intro r hr
    rcases List.mem_cons.1 hr with rfl | hr
    · exact ⟨rfl, rfl⟩
    · exact (mem_group.1 hr).2
  · exact fun r hr => (mem_group.1 hr).2
  · exact fun r hr => (mem_group.1 hr).2
  · exact fun r hr => (mem_group.1 hr).2

/-! ## The accounts of a call -/

/-- The accounts of a compiled call as its program sees them. -/
def seen? (m : Message) (call : CompiledCall) : Option (List AccountRef) :=
  call.accounts.mapM fun index => m.account? index.toNat

lemma exists_getElem?_findIdx {key : Key} (h : key ∈ refs.map AccountRef.key) :
    ∃ r, refs[(refs.map AccountRef.key).findIdx (· == key)]? = some r ∧ r.key = key := by
  have hlt : (refs.map AccountRef.key).findIdx (· == key) < (refs.map AccountRef.key).length :=
    List.findIdx_lt_length_of_exists ⟨key, h, by simp⟩
  have hkey := List.findIdx_getElem (w := hlt)
  rw [List.getElem_map, beq_iff_eq] at hkey
  exact ⟨_, List.getElem?_eq_getElem (by simpa using hlt), hkey⟩

lemma account?_index (hfits : Fits (layout payer calls)) (ha : a ∈ requested payer calls) :
    (compile payer blockhash calls).account?
      (UInt8.ofNat (((layout payer calls).map AccountRef.key).findIdx (· == a.key))).toNat =
      some (AccountRef.united (requested payer calls) a.key) := by
  obtain ⟨r, hr, hkey⟩ := exists_getElem?_findIdx (mem_keys_layout ha)
  have hlt := (List.getElem?_eq_some_iff.1 hr).1
  rw [UInt8.toNat_ofNat_of_lt' (lt_of_lt_of_le hlt hfits.1), account?_compile hfits,
    hr, eq_united_of_mem_layout (List.mem_of_getElem? hr), hkey]

/-- A program sees each account of its call with every privilege that the message asks for the
key. -/
theorem seen?_compile (hfits : Fits (layout payer calls)) {call : Call} (hcall : call ∈ calls) :
    (compile payer blockhash calls).seen?
      (.compile ((layout payer calls).map AccountRef.key) call) =
      some (call.accounts.map fun a => AccountRef.united (requested payer calls) a.key) := by
  have hrequested : ∀ a ∈ call.accounts, a ∈ requested payer calls := fun a ha =>
    List.mem_cons_of_mem _ (List.mem_flatMap.2 ⟨call, hcall, List.mem_cons_of_mem _ ha⟩)
  simp only [seen?, CompiledCall.compile]
  generalize call.accounts = refs at hrequested
  induction refs with
  | nil => rfl
  | cons a refs ih =>
    rw [List.map_cons, List.mapM_cons, account?_index hfits (hrequested a (List.mem_cons_self ..)),
      ih fun b hb => hrequested b (List.mem_cons_of_mem _ hb)]
    rfl

end Message

end SmartWallet
