import SmartWallet.Proofs.InstructionGrammar
import SmartWallet.Proofs.RemainingAccounts

/-!
# The limits of a packed batch

A batch is packed exactly if each of its lengths fits the field that is written for it and an index
is left for every key that it names. The index of a key is its first position among the fixed keys
and the added ones, and none of them is cut to its byte: `IndexedTable` packs with the positions in
a map, checks every step that is taken for granted, and meets no fault but that of a full table.
-/

namespace SmartWallet

lemma idxOf?_append (l l' : List Key) (key : Key) :
    (l ++ l').idxOf? key = (l.idxOf? key).or ((l'.idxOf? key).map (· + l.length)) :=
  List.findIdx?_append

lemma idxOf?_mono {l l' : List Key} {key : Key} {i : Nat} (h : l <+: l')
    (hi : l.idxOf? key = some i) : l'.idxOf? key = some i := by
  obtain ⟨more, rfl⟩ := h
  rw [idxOf?_append, hi, Option.some_or]

/-! ## Keys and their positions -/

namespace AccountTable

variable {t t' : AccountTable} {key : Key} {role : AccountRole} {a : AccountRef}
  {refs more : List AccountRef} {i : UInt8} {indexes : List UInt8}

/-- The keys that have an index, in the order of their indexes. -/
def keys (t : AccountTable) : List Key := t.fixed ++ t.added.map AccountRef.key

lemma length_keys (t : AccountTable) : t.keys.length = t.fixed.length + t.added.length := by
  simp [keys]

lemma idxOf?_keys (t : AccountTable) (key : Key) :
    t.keys.idxOf? key = (t.fixed.findIdx? (· == key)).or
      ((t.added.findIdx? (·.key == key)).map (· + t.fixed.length)) := by
  rw [keys, idxOf?_append, List.idxOf?, List.findIdx?_map]
  rfl

lemma keys_widen {l : List AccountRef} :
    (widen key role l).map AccountRef.key = l.map AccountRef.key := by
  induction l with
  | nil => rfl
  | cons b l ih =>
    unfold widen
    split
    · next hkey => simp [AccountRole.toRef, hkey]
    · simp [ih]

lemma keys_append_singleton :
    ({ t with added := t.added ++ [role.toRef key] } : AccountTable).keys = t.keys ++ [key] := by
  simp [keys, AccountRole.toRef]

/-- A key is registered under its position, where only a new one takes a new place. -/
lemma keys_of_register (hfits : t.Fits) (h : t.register key role = .ok (t', i)) :
    t.keys <+: t'.keys ∧ t'.keys.idxOf? key = some i.toNat := by
  obtain ⟨hfits', -⟩ := register_places hfits h
  have hbyte : ∀ n, t'.keys.idxOf? key = some n → (UInt8.ofNat n).toNat = n := by
    intro n hn
    obtain ⟨hlt, -⟩ := List.idxOf?_eq_some_iff.1 hn
    rw [length_keys] at hlt
    exact UInt8.toNat_ofNat_of_lt' (hlt.trans_le hfits')
  suffices hposition : t.keys <+: t'.keys ∧ ∃ n, t'.keys.idxOf? key = some n ∧ i = UInt8.ofNat n by
    obtain ⟨hgrows, n, hn, rfl⟩ := hposition
    exact ⟨hgrows, by rw [hbyte n hn, hn]⟩
  unfold register at h
  split at h
  · next j hj =>
    cases h
    exact ⟨List.prefix_rfl, j, by rw [idxOf?_keys, hj, Option.some_or], rfl⟩
  · next hfixed =>
    split at h
    · next j hj =>
      cases h
      have hkeys : ({ t with added := widen key role t.added } : AccountTable).keys = t.keys :=
        congrArg (t.fixed ++ ·) keys_widen
      refine ⟨hkeys ▸ List.prefix_rfl, j + t.fixed.length, ?_, by rw [Nat.add_comm]⟩
      rw [hkeys, idxOf?_keys, hfixed, hj]
      rfl
    · next hadded =>
      simp only [bind_eq_ok_iff, ensure_eq_ok, exists_const, pure_eq_ok_iff, Prod.mk.injEq] at h
      obtain ⟨-, rfl, rfl⟩ := h
      have hkeys : ({ t with added := t.added ++ [role.toRef key] } : AccountTable).keys =
          t.keys ++ [key] := keys_append_singleton
      refine ⟨hkeys ▸ List.prefix_append _ _, t.keys.length, ?_, by rw [length_keys]⟩
      rw [hkeys, idxOf?_append, idxOf?_keys, hfixed, hadded]
      simp [List.idxOf?_cons]

lemma keys_of_registerAll (hfits : t.Fits) (h : t.registerAll refs = .ok (t', indexes)) :
    t.keys <+: t'.keys ∧
      List.Forall₂ (fun a i => t'.keys.idxOf? a.key = some i.toNat) refs indexes := by
  induction refs generalizing t indexes with
  | nil =>
    cases h
    exact ⟨List.prefix_rfl, .nil⟩
  | cons a refs ih =>
    simp only [registerAll, bind_eq_ok_iff, pure_eq_ok_iff, Prod.exists, Prod.mk.injEq] at h
    obtain ⟨t₁, i, hfirst, _, rest, hrest, rfl, rfl⟩ := h
    obtain ⟨hfits₁, -⟩ := register_places hfits hfirst
    obtain ⟨hgrows, hindex⟩ := keys_of_register hfits hfirst
    obtain ⟨hgrows', hindexes⟩ := ih hfits₁ hrest
    exact ⟨hgrows.trans hgrows', .cons (idxOf?_mono hgrows' hindex) hindexes⟩

/-! ## When an index is left -/

lemma length_le_collect (fixed : List Key) (refs added : List AccountRef) :
    added.length ≤ (collect fixed refs added).length := by
  unfold collect
  induction refs.filter (·.key ∉ fixed) generalizing added with
  | nil => exact Nat.le_refl _
  | cons a refs ih =>
    refine le_trans ?_ (ih (Message.unite a added))
    rw [← List.length_map AccountRef.key, ← List.length_map AccountRef.key, Message.keys_unite]
    split <;> simp

lemma exists_register_iff (hfits : t.Fits) : (∃ r, t.register a.key (.ofRef a) = .ok r) ↔
    t.fixed.length + (collect t.fixed [a] t.added).length ≤ maxAccounts := by
  constructor
  · rintro ⟨⟨t', i⟩, h⟩
    obtain ⟨hfits', -⟩ := register_places hfits h
    rwa [added_of_register h] at hfits'
  · intro hroom
    unfold register
    split
    · exact ⟨_, rfl⟩
    · next hfixed =>
      split
      · exact ⟨_, rfl⟩
      · next hadded =>
        have hnew : a.key ∉ t.fixed := fun hmem => by
          simpa using List.findIdx?_eq_none_iff.1 hfixed a.key hmem
        have hkey : a.key ∉ t.added.map AccountRef.key := by simpa using hadded
        have hlength : (collect t.fixed [a] t.added).length = t.added.length + 1 := by
          simp [collect, hnew, Message.unite_of_new hkey]
        have hlt : t.fixed.length + t.added.length < maxAccounts := by omega
        simp only [bind_eq_ok_iff, ensure_eq_ok, pure_eq_ok_iff]
        exact ⟨_, (), hlt, rfl⟩

lemma exists_registerAll_iff (hfits : t.Fits) : (∃ r, t.registerAll refs = .ok r) ↔
    t.fixed.length + (collect t.fixed refs t.added).length ≤ maxAccounts := by
  constructor
  · rintro ⟨⟨t', indexes⟩, h⟩
    obtain ⟨hfits', -⟩ := registerAll_places hfits h
    rwa [added_of_registerAll h] at hfits'
  · intro hroom
    induction refs generalizing t with
    | nil => exact ⟨_, rfl⟩
    | cons a refs ih =>
      rw [← List.singleton_append, collect_append] at hroom
      have hfirst := length_le_collect t.fixed refs (collect t.fixed [a] t.added)
      obtain ⟨⟨t₁, i⟩, h⟩ := (exists_register_iff (a := a) hfits).2 (by omega)
      have ht₁ := added_of_register h
      subst ht₁
      obtain ⟨⟨t', indexes⟩, h'⟩ := ih (register_places hfits h).1 hroom
      simp only [registerAll, bind_eq_ok_iff, pure_eq_ok_iff]
      exact ⟨_, _, h, _, h', rfl⟩

end AccountTable

/-! ## Packing with a map -/

/-- The accounts that have an index, with the indexes of their keys in a map. -/
structure IndexedTable where
  fixed : Nat
  position : Key → Option Nat
  added : List AccountRef

/-- Why an account gets no index: none is left, the account under its index is not there, or its
index does not fit into a byte. -/
inductive IndexFault
  | full
  | outOfRange
  | tooWide
deriving DecidableEq

namespace IndexedTable

/-- The fixed accounts, each key with its first index. -/
def start (fixed : List Key) : IndexedTable where
  fixed := fixed.length
  position := fixed.zipIdx.foldl
    (fun position (key, i) => Function.update position key (some ((position key).getD i)))
    fun _ => none
  added := []

def toByte (i : Nat) : Except IndexFault UInt8 := do
  ensure (i ≤ 255) .tooWide
  pure (UInt8.ofNat i)

/-- Widens the privileges of the account under an index, unless it is a fixed one. -/
def widenAt (m : IndexedTable) (i : Nat) (key : Key) (role : AccountRole) :
    Except IndexFault IndexedTable :=
  if i < m.fixed then .ok m
  else do
    let a ← orError .outOfRange m.added[i - m.fixed]?
    let widened := ((AccountRole.ofRef a).merge role).toRef key
    pure { m with added := m.added.set (i - m.fixed) widened }

def register (m : IndexedTable) (key : Key) (role : AccountRole) :
    Except IndexFault (IndexedTable × UInt8) :=
  match m.position key with
  | some i => do
    let m ← m.widenAt i key role
    let index ← toByte i
    pure (m, index)
  | none => do
    let i := m.fixed + m.added.length
    ensure (i < AccountTable.maxAccounts) .full
    let index ← toByte i
    pure (⟨m.fixed, Function.update m.position key (some i), m.added ++ [role.toRef key]⟩, index)

def registerAll (m : IndexedTable) : List AccountRef →
    Except IndexFault (IndexedTable × List UInt8)
  | [] => .ok (m, [])
  | a :: rest => do
    let (m, i) ← m.register a.key (.ofRef a)
    let (m, is) ← m.registerAll rest
    pure (m, i :: is)

/-- A table of accounts with the map of the positions of its keys. -/
def ofTable (t : AccountTable) : IndexedTable := ⟨t.fixed.length, t.keys.idxOf?, t.added⟩

variable {t : AccountTable} {key : Key} {role : AccountRole}

lemma position_append_singleton (l : List Key) (key : Key) :
    Function.update l.idxOf? key (some ((l.idxOf? key).getD l.length)) = (l ++ [key]).idxOf? := by
  funext k
  rw [idxOf?_append, List.idxOf?_cons]
  by_cases hk : k = key
  · subst hk
    cases l.idxOf? k <;> simp
  · simp [hk, Ne.symm hk]

lemma start_eq_ofTable (fixed : List Key) : start fixed = ofTable ⟨fixed, []⟩ := by
  have hposition : (start fixed).position = fixed.idxOf? := by
    induction fixed using List.reverseRecOn with
    | nil => rfl
    | append_singleton fixed key ih =>
      have hstep : (start (fixed ++ [key])).position = Function.update (start fixed).position key
          (some (((start fixed).position key).getD fixed.length)) := by
        simp [start, List.zipIdx_append]
      rw [hstep, ih, position_append_singleton]
  have hkeys : (⟨fixed, []⟩ : AccountTable).keys = fixed := List.append_nil fixed
  rw [ofTable, hkeys, ← hposition]
  rfl

lemma widen_eq_set {l : List AccountRef} {j : Nat} {a : AccountRef}
    (hj : l.findIdx? (·.key == key) = some j) (ha : l[j]? = some a) :
    AccountTable.widen key role l = l.set j (((AccountRole.ofRef a).merge role).toRef key) := by
  induction l generalizing j with
  | nil => cases hj
  | cons b l ih =>
    rw [List.findIdx?_cons] at hj
    unfold AccountTable.widen
    split
    · next hkey =>
      simp only [hkey, beq_self_eq_true, if_true, Option.some.injEq] at hj
      subst hj
      cases ha
      rfl
    · next hkey =>
      simp only [beq_iff_eq, hkey, if_false, Option.map_eq_some_iff] at hj
      obtain ⟨j, hj, rfl⟩ := hj
      rw [ih hj ha, List.set_cons_succ]

lemma toByte_eq_ok_iff {i : Nat} {b : UInt8} : toByte i = .ok b ↔ b.toNat = i := by
  simp only [toByte, bind_eq_ok_iff, ensure_eq_ok, exists_const, pure_eq_ok_iff]
  constructor
  · rintro ⟨hi, rfl⟩
    exact UInt8.toNat_ofNat_of_lt' (Nat.lt_succ_of_le hi)
  · rintro rfl
    exact ⟨Nat.le_of_lt_succ b.toNat_lt, UInt8.ofNat_toNat⟩

lemma register_of_position {i : Nat} {m : IndexedTable} {b : UInt8}
    (hi : (ofTable t).position key = some i) (hwiden : (ofTable t).widenAt i key role = .ok m)
    (hb : b.toNat = i) : (ofTable t).register key role = .ok (m, b) := by
  simp only [register, hi, bind_eq_ok_iff, pure_eq_ok_iff]
  exact ⟨m, hwiden, b, toByte_eq_ok_iff.2 hb, rfl⟩

/-- Looking a key up in the map gives what searching the table gives. -/
theorem register_ofTable (hfits : t.Fits) : (ofTable t).register key role =
    ((t.register key role).map fun (t', i) => (ofTable t', i)).mapError fun _ => .full := by
  have hposition : (ofTable t).position key = (t.fixed.findIdx? (· == key)).or
      ((t.added.findIdx? (·.key == key)).map (· + t.fixed.length)) := t.idxOf?_keys key
  unfold AccountTable.register
  split
  · next j hj =>
    obtain ⟨hlt, -⟩ := List.findIdx?_eq_some_iff_getElem.1 hj
    have hbyte : (UInt8.ofNat j).toNat = j :=
      UInt8.toNat_ofNat_of_lt' (hlt.trans_le (le_of_add_le_left hfits))
    rw [hj, Option.some_or] at hposition
    exact register_of_position hposition (if_pos hlt) hbyte
  · next hfixed =>
    rw [hfixed, Option.none_or] at hposition
    split
    · next j hj =>
      obtain ⟨hlt, -⟩ := List.findIdx?_eq_some_iff_getElem.1 hj
      have hbyte : (UInt8.ofNat (t.fixed.length + j)).toNat = j + t.fixed.length := by
        rw [Nat.add_comm]
        exact UInt8.toNat_ofNat_of_lt' (lt_of_lt_of_le (by omega) hfits)
      rw [hj, Option.map_some] at hposition
      refine register_of_position hposition ?_ hbyte
      have hout : ¬j + t.fixed.length < t.fixed.length := by omega
      have ha : t.added[j]? = some t.added[j] := List.getElem?_eq_getElem hlt
      have hkeys : ({ t with added := AccountTable.widen key role t.added } : AccountTable).keys =
          t.keys :=
        congrArg (t.fixed ++ ·) AccountTable.keys_widen
      rw [widenAt, ofTable, if_neg hout, ofTable, hkeys, widen_eq_set hj ha]
      simp [ha, orError]
    · next hadded =>
      rw [hadded, Option.map_none] at hposition
      have hkeys : ({ t with added := t.added ++ [role.toRef key] } : AccountTable).keys =
          t.keys ++ [key] := AccountTable.keys_append_singleton
      have hmap : Function.update t.keys.idxOf? key (some (t.fixed.length + t.added.length)) =
          (t.keys ++ [key]).idxOf? := by
        have hnew : t.keys.idxOf? key = none := hposition
        rw [← position_append_singleton, hnew, AccountTable.length_keys, Option.getD_none]
      by_cases hroom : t.fixed.length + t.added.length < AccountTable.maxAccounts
      · have hbyte := toByte_eq_ok_iff.2 (UInt8.toNat_ofNat_of_lt' hroom)
        simp only [register, hposition]
        simp only [ofTable, hbyte, hmap, ensure, hroom, if_true, Bind.bind, Except.bind, Pure.pure,
          Except.pure, Except.map, Except.mapError, hkeys]
      · simp only [register, hposition]
        simp only [ofTable, ensure, hroom, if_false]
        rfl

lemma registerAll_ofTable (hfits : t.Fits) (refs : List AccountRef) :
    (ofTable t).registerAll refs =
      ((t.registerAll refs).map fun (t', is) => (ofTable t', is)).mapError fun _ => .full := by
  induction refs generalizing t with
  | nil => rfl
  | cons a refs ih =>
    rw [registerAll, AccountTable.registerAll, register_ofTable hfits]
    cases hfirst : t.register a.key (.ofRef a) with
    | error e => rfl
    | ok r =>
      obtain ⟨t₁, i⟩ := r
      obtain ⟨hfits₁, -⟩ := AccountTable.register_places hfits hfirst
      have hrest := ih hfits₁
      simp only [Except.map, Except.mapError, Bind.bind, Except.bind, hrest]
      cases t₁.registerAll refs <;> rfl

end IndexedTable

/-! ## Packing calls -/

lemma Message.askedBy_singleton (call : Call) :
    askedBy [call] = ⟨call.program, false, false⟩ :: call.accounts := by
  simp [askedBy]

lemma Message.askedBy_cons (call : Call) (calls : List Call) :
    askedBy (call :: calls) = askedBy [call] ++ askedBy calls := by
  simp [askedBy]

lemma Message.keys_askedBy (calls : List Call) : (askedBy calls).map AccountRef.key =
    calls.flatMap fun call => call.program :: call.accounts.map AccountRef.key := by
  simp [askedBy, List.map_flatMap]

/-- The indexes of a packed call, that of its program first. -/
def PackedCall.indexes (c : PackedCall) : List UInt8 := c.program :: c.accounts

namespace AccountTable

variable {t t' : AccountTable} {call : Call} {calls : List Call} {c : PackedCall}
  {packed : List PackedCall} {refs more : List AccountRef} {indexes : List UInt8}

lemma registerAll_append_eq_ok_iff : t.registerAll (refs ++ more) = .ok (t', indexes) ↔
    ∃ t₁ is js, t.registerAll refs = .ok (t₁, is) ∧ t₁.registerAll more = .ok (t', js) ∧
      indexes = is ++ js := by
  induction refs generalizing t t' indexes with
  | nil =>
    simp only [List.nil_append, registerAll, Except.ok.injEq, Prod.mk.injEq]
    constructor
    · exact fun h => ⟨t, [], indexes, ⟨rfl, rfl⟩, h, rfl⟩
    · rintro ⟨_, _, js, ⟨rfl, rfl⟩, h, rfl⟩
      exact h
  | cons a refs ih =>
    simp only [List.cons_append, registerAll, bind_eq_ok_iff, pure_eq_ok_iff, Prod.exists,
      Prod.mk.injEq, ih]
    constructor
    · rintro ⟨t₁, i, hfirst, _, _, ⟨t₂, is, js, hrefs, hmore, rfl⟩, rfl, rfl⟩
      exact ⟨t₂, i :: is, js, ⟨t₁, i, hfirst, t₂, is, hrefs, rfl, rfl⟩, hmore, rfl⟩
    · rintro ⟨_, _, js, ⟨t₁, i, hfirst, t₂, is, hrefs, rfl, rfl⟩, hmore, rfl⟩
      exact ⟨t₁, i, hfirst, _, is ++ js, ⟨_, is, js, hrefs, hmore, rfl⟩, rfl, rfl⟩

/-- Packing a call is registering what it asks for. -/
lemma packCall_eq_ok_iff : t.packCall call = .ok (t', c) ↔
    (call.accounts.length ≤ 255 ∧ call.data.length ≤ 65535) ∧
      t.registerAll (Message.askedBy [call]) = .ok (t', c.indexes) ∧
      c.roles = call.accounts.map .ofRef ∧ c.data = call.data := by
  simp only [packCall, Message.askedBy_singleton, registerAll, bind_eq_ok_iff, ensure_eq_ok,
    exists_const, pure_eq_ok_iff, Prod.exists, Prod.mk.injEq]
  simp only [PackedCall.maxAccounts, PackedCall.maxData, PackedCall.indexes, List.cons.injEq]
  constructor
  · rintro ⟨haccounts, hdata, t₁, i, hprogram, _, is, his, rfl, rfl⟩
    exact ⟨⟨haccounts, hdata⟩, ⟨t₁, i, hprogram, _, is, his, rfl, rfl, rfl⟩, rfl, rfl⟩
  · rintro ⟨⟨haccounts, hdata⟩, ⟨t₁, i, hprogram, _, is, his, rfl, hi, rfl⟩, hroles, hcdata⟩
    refine ⟨haccounts, hdata, t₁, i, hprogram, _, _, his, rfl, ?_⟩
    rw [hi, ← hroles, ← hcdata]

lemma registerAll_of_packCalls (h : t.packCalls calls = .ok (t', packed)) :
    (∀ call ∈ calls, call.accounts.length ≤ 255 ∧ call.data.length ≤ 65535) ∧
      t.registerAll (Message.askedBy calls) = .ok (t', packed.flatMap PackedCall.indexes) := by
  induction calls generalizing t packed with
  | nil =>
    cases h
    exact ⟨nofun, rfl⟩
  | cons call calls ih =>
    simp only [packCalls, bind_eq_ok_iff, pure_eq_ok_iff, Prod.exists, Prod.mk.injEq] at h
    obtain ⟨t₁, c, hfirst, _, rest, hrest, rfl, rfl⟩ := h
    obtain ⟨hlimits, hcall, -⟩ := packCall_eq_ok_iff.1 hfirst
    obtain ⟨hlimits', hcalls⟩ := ih hrest
    refine ⟨List.forall_mem_cons.2 ⟨hlimits, hlimits'⟩, ?_⟩
    rw [Message.askedBy_cons, registerAll_append_eq_ok_iff]
    exact ⟨t₁, _, _, hcall, hcalls, rfl⟩

lemma exists_packCall
    (hlimits : call.accounts.length ≤ 255 ∧ call.data.length ≤ 65535)
    (h : t.registerAll (Message.askedBy [call]) = .ok (t', indexes)) :
    ∃ c, t.packCall call = .ok (t', c) := by
  obtain ⟨i, is, rfl⟩ : ∃ i is, indexes = i :: is := by
    simp only [Message.askedBy_singleton, registerAll, bind_eq_ok_iff, pure_eq_ok_iff, Prod.exists,
      Prod.mk.injEq] at h
    obtain ⟨_, i, -, _, is, -, -, rfl⟩ := h
    exact ⟨i, is, rfl⟩
  exact ⟨⟨i, is, call.accounts.map .ofRef, call.data⟩, packCall_eq_ok_iff.2 ⟨hlimits, h, rfl, rfl⟩⟩

lemma exists_packCalls
    (hlimits : ∀ call ∈ calls, call.accounts.length ≤ 255 ∧ call.data.length ≤ 65535)
    (h : t.registerAll (Message.askedBy calls) = .ok (t', indexes)) :
    ∃ packed, t.packCalls calls = .ok (t', packed) := by
  induction calls generalizing t indexes with
  | nil =>
    cases h
    exact ⟨[], rfl⟩
  | cons call calls ih =>
    rw [Message.askedBy_cons, registerAll_append_eq_ok_iff] at h
    obtain ⟨t₁, is, js, hcall, hcalls, -⟩ := h
    obtain ⟨hfirst, hrest⟩ := List.forall_mem_cons.1 hlimits
    obtain ⟨c, hc⟩ := exists_packCall hfirst hcall
    obtain ⟨packed, hpacked⟩ := ih hrest hcalls
    simp only [packCalls, bind_eq_ok_iff, pure_eq_ok_iff]
    exact ⟨_, _, hc, _, hpacked, rfl⟩

/-- Every index of a packed call is the position of its key. -/
theorem keys_of_packCalls (hfits : t.Fits) (h : t.packCalls calls = .ok (t', packed)) :
    t.keys <+: t'.keys ∧ List.Forall₂ (fun call c => List.Forall₂ (fun a i =>
      t'.keys.idxOf? a.key = some i.toNat) (Message.askedBy [call]) c.indexes) calls packed := by
  induction calls generalizing t packed with
  | nil =>
    cases h
    exact ⟨List.prefix_rfl, .nil⟩
  | cons call calls ih =>
    simp only [packCalls, bind_eq_ok_iff, pure_eq_ok_iff, Prod.exists, Prod.mk.injEq] at h
    obtain ⟨t₁, c, hfirst, _, rest, hrest, rfl, rfl⟩ := h
    obtain ⟨hfits₁, -⟩ := packCall_packs hfits hfirst
    obtain ⟨-, hcall, -⟩ := packCall_eq_ok_iff.1 hfirst
    obtain ⟨hgrows, hindexes⟩ := keys_of_registerAll hfits hcall
    obtain ⟨hgrows', hpositions⟩ := ih hfits₁ hrest
    exact ⟨hgrows.trans hgrows',
      .cons (hindexes.imp fun _ _ => idxOf?_mono hgrows') hpositions⟩

lemma Packs.fits (h : t.Packs call c)
    (hlimits : call.accounts.length ≤ 255 ∧ call.data.length ≤ 65535) : c.Fits where
  accounts := h.accounts.length_eq ▸ hlimits.1
  roles := by rw [h.roles, List.length_map, h.accounts.length_eq]
  data := h.data ▸ hlimits.2

end AccountTable

namespace Batch

variable {calls : List Call} {fixed : List Key} {b : PackedBatch}

/-- The accounts that are added are as many as the distinct keys that are not fixed. -/
lemma length_collect (calls : List Call) (fixed : List Key) :
    (AccountTable.collect fixed (Message.askedBy calls) []).length =
      ((calls.flatMap fun call => call.program :: call.accounts.map AccountRef.key).toFinset \
        fixed.toFinset).card := by
  have hempty : Message.Unites [] [] := ⟨List.nodup_nil, nofun, nofun⟩
  have hunites := Message.unites_foldl hempty ((Message.askedBy calls).filter (·.key ∉ fixed))
  rw [AccountTable.collect, ← List.length_map AccountRef.key,
    ← List.toFinset_card_of_nodup hunites.nodup]
  congr 1
  ext key
  rw [List.mem_toFinset, Message.keys_foldl_unite, List.mem_eraseDups, Finset.mem_sdiff,
    List.mem_toFinset, List.mem_toFinset, ← Message.keys_askedBy, List.mem_map, List.mem_map]
  constructor
  · rintro ⟨a, ha, rfl⟩
    obtain ⟨hasked, hnew⟩ := List.mem_filter.1 ha
    exact ⟨⟨a, hasked, rfl⟩, by simpa using hnew⟩
  · rintro ⟨⟨a, hasked, rfl⟩, hnew⟩
    exact ⟨a, List.mem_filter.2 ⟨hasked, by simpa using hnew⟩, rfl⟩

theorem exists_pack_iff : (∃ b, pack calls fixed = .ok b) ↔
    calls.length ≤ 255 ∧ fixed.length ≤ 256 ∧
      (∀ call ∈ calls, call.accounts.length ≤ 255 ∧ call.data.length ≤ 65535) ∧
      fixed.length + (AccountTable.collect fixed (Message.askedBy calls) []).length ≤ 256 := by
  have hroom : fixed.length ≤ 256 → ((∃ r, (⟨fixed, []⟩ : AccountTable).registerAll
      (Message.askedBy calls) = .ok r) ↔
        fixed.length + (AccountTable.collect fixed (Message.askedBy calls) []).length ≤ 256) :=
    AccountTable.exists_registerAll_iff (t := ⟨fixed, []⟩)
  simp only [pack, bind_eq_ok_iff, ensure_eq_ok, exists_const, pure_eq_ok_iff, Prod.exists]
  simp only [maxCalls, AccountTable.maxAccounts]
  constructor
  · rintro ⟨b, hmany, hfixed, table, packed, hpacked, -⟩
    obtain ⟨hlimits, hregister⟩ := AccountTable.registerAll_of_packCalls hpacked
    exact ⟨hmany, hfixed, hlimits, (hroom hfixed).1 ⟨_, hregister⟩⟩
  · rintro ⟨hmany, hfixed, hlimits, hkeys⟩
    obtain ⟨⟨table, indexes⟩, hregister⟩ := (hroom hfixed).2 hkeys
    obtain ⟨packed, hpacked⟩ := AccountTable.exists_packCalls hlimits hregister
    obtain ⟨-, hpacks⟩ := AccountTable.packCalls_packs (t := ⟨fixed, []⟩) hfixed hpacked
    have hfits : ∀ c ∈ packed, c.Fits := by
      intro c hc
      obtain ⟨call, hcall, hpack⟩ := exists_of_forall₂ hpacks.flip hc
      exact AccountTable.Packs.fits hpack (hlimits call hcall)
    obtain ⟨bytes, hbytes⟩ := Batch.exists_encode_iff.2 ⟨hpacks.length_eq ▸ hmany, hfits⟩
    exact ⟨_, hmany, hfixed, table, packed, hpacked, bytes, hbytes, rfl⟩

/-- A batch is packed exactly if its lengths fit and there is an index for each of its keys; every
index is the first position of its key, and the steps that packing takes for granted never fail. -/
theorem pack_limits (calls : List Call) (fixed : List Key) :
    ((∃ b, pack calls fixed = .ok b) ↔
      calls.length ≤ 255 ∧ fixed.length ≤ 256 ∧
      (∀ call ∈ calls, call.accounts.length ≤ 255 ∧ call.data.length ≤ 65535) ∧
      fixed.length + ((calls.flatMap fun call =>
        call.program :: call.accounts.map AccountRef.key).toFinset \ fixed.toFinset).card ≤ 256) ∧
    (∀ b, pack calls fixed = .ok b → ∃ packed table, encode packed = .ok b.bytes ∧
      List.Forall₂ (fun call c =>
        (fixed ++ b.remaining.map AccountRef.key).idxOf? call.program = some c.program.toNat ∧
        List.Forall₂ (fun a i =>
            (fixed ++ b.remaining.map AccountRef.key).idxOf? a.key = some i.toNat)
          call.accounts c.accounts) calls packed ∧
      (IndexedTable.start fixed).registerAll (Message.askedBy calls) =
        .ok (table, packed.flatMap PackedCall.indexes) ∧ table.added = b.remaining) ∧
    (fixed.length ≤ 256 → ∀ refs fault,
      (IndexedTable.start fixed).registerAll refs = .error fault → fault = .full) := by
  have hstart (hfixed : fixed.length ≤ 256) (refs : List AccountRef) :
      (IndexedTable.start fixed).registerAll refs =
        (((⟨fixed, []⟩ : AccountTable).registerAll refs).map fun (t, is) =>
          (IndexedTable.ofTable t, is)).mapError fun _ => .full := by
    rw [IndexedTable.start_eq_ofTable]
    exact IndexedTable.registerAll_ofTable (t := ⟨fixed, []⟩) hfixed refs
  refine ⟨?_, fun b h => ?_, fun hfixed refs fault h => ?_⟩
  · rw [exists_pack_iff, length_collect]
  · simp only [pack, bind_eq_ok_iff, ensure_eq_ok, exists_const, pure_eq_ok_iff, Prod.exists] at h
    obtain ⟨-, hfixed, table, packed, hpacked, bytes, hbytes, rfl⟩ := h
    obtain ⟨-, hregister⟩ := AccountTable.registerAll_of_packCalls hpacked
    obtain ⟨-, hpositions⟩ := AccountTable.keys_of_packCalls (t := ⟨fixed, []⟩) hfixed hpacked
    have hkeys : table.keys = fixed ++ table.added.map AccountRef.key := by
      rw [AccountTable.added_of_packCalls hpacked]
      rfl
    refine ⟨packed, .ofTable table, hbytes, hpositions.imp fun call c hc => ?_, ?_, rfl⟩
    · rw [Message.askedBy_singleton, PackedCall.indexes, List.forall₂_cons, hkeys] at hc
      exact hc
    · rw [hstart hfixed, hregister]
      rfl
  · rw [hstart hfixed] at h
    exact failsBy_mapError fault h

end Batch

namespace Sample

/-- All indexes but one. -/
def crowdedKeys : List Key := List.replicate 255 (.replicate 32 1)

/-- Takes the last index, for its program. -/
def lastCall : Call :=
  ⟨.replicate 32 3, [⟨.replicate 32 1, true, false⟩, ⟨.replicate 32 3, false, true⟩], []⟩

def lastBatch : PackedBatch where
  bytes := [1, 255, 2, 0, 255, 2, 1, 0, 0]
  remaining := [⟨.replicate 32 3, false, true⟩]

theorem last_index_packed :
    Batch.pack [lastCall] crowdedKeys = .ok lastBatch ∧
      (∃ packed table, Batch.encode packed = .ok lastBatch.bytes ∧
        (IndexedTable.start crowdedKeys).registerAll (Message.askedBy [lastCall]) =
          .ok (table, packed.flatMap PackedCall.indexes) ∧ table.added = lastBatch.remaining) ∧
      ∀ b, Batch.pack [lastCall, ⟨.replicate 32 4, [], []⟩] crowdedKeys ≠ .ok b := by
  have hpack : Batch.pack [lastCall] crowdedKeys = .ok lastBatch := by decide +kernel
  obtain ⟨packed, table, hencode, -, hregister, hadded⟩ :=
    (Batch.pack_limits [lastCall] crowdedKeys).2.1 lastBatch hpack
  refine ⟨hpack, ⟨packed, table, hencode, hregister, hadded⟩, fun b hb => ?_⟩
  obtain ⟨-, -, -, hkeys⟩ := (Batch.pack_limits _ crowdedKeys).1.1 ⟨b, hb⟩
  exact absurd hkeys (by decide +kernel)

end Sample

end SmartWallet
