import SmartWallet.Program
import SmartWallet.Proofs.RecordCodec

/-!
# Views of a ledger

An instruction sees a ledger as a `View`: the data of every account that has some. A committed delta
changes the view write by write, whatever it does to lamports.
-/

namespace SmartWallet

/-- The data of the accounts that have some. -/
abbrev View := Key → Option (List UInt8)

/-- The records of the accounts that hold one. -/
abbrev Records := Key → Option StoredRecord

/-- Accounts with different records are apart. -/
lemma Records.ne_of_record_ne {records : Records} {key k : Key} {r? r?' : Option StoredRecord}
    (h : records key = r?) (h' : records k = r?') (hne : r? ≠ r?') : key ≠ k := by
  rintro rfl
  exact hne (h.symm.trans h')

namespace View

/-- The record that an account holds. -/
def record? (v : View) (key : Key) : Option StoredRecord := (v key).bind StoredRecord.decode?

variable {v : View} {key : Key} {bs : List UInt8}

lemma record?_eq_some_iff {r : StoredRecord} :
    v.record? key = some r ↔ ∃ bs, v key = some bs ∧ StoredRecord.decode? bs = some r :=
  Option.bind_eq_some_iff

lemma record?_eq_wallet_iff {w : Wallet} :
    v.record? key = some (.wallet w) ↔ ∃ bs, v key = some bs ∧ Wallet.decode bs = .ok w := by
  simp only [record?_eq_some_iff, StoredRecord.decode?_eq_wallet_iff]

lemma record?_eq_authority_iff {m : AuthorityMarker} :
    v.record? key = some (.authority m) ↔
      ∃ bs, v key = some bs ∧ AuthorityMarker.decode? bs = some m := by
  simp only [record?_eq_some_iff, StoredRecord.decode?_eq_authority_iff]

lemma record?_eq_session_iff {s : SessionRecord} :
    v.record? key = some (.session s) ↔
      ∃ bs, v key = some bs ∧ SessionRecord.decode? bs = some s := by
  simp only [record?_eq_some_iff, StoredRecord.decode?_eq_session_iff]

lemma record?_of_vacant (h : v key = none) : v.record? key = none := by
  simp [record?, h]

lemma record?_congr {v' : View} (h : v' key = v key) : v'.record? key = v.record? key := by
  rw [record?, record?, h]

lemma wellFormed_of_record? {w : Wallet} (h : v.record? key = some (.wallet w)) :
    w.WellFormed := by
  obtain ⟨bs, -, hw⟩ := record?_eq_wallet_iff.1 h
  exact Wallet.wellFormed_of_decode hw

/-- The view with other data at a key. -/
def put (v : View) (key : Key) (bs : List UInt8) : View := Function.update v key (some bs)

/-- The view without the data at a key. -/
def drop (v : View) (key : Key) : View := Function.update v key none

lemma record?_put {r : StoredRecord} (h : StoredRecord.decode? bs = some r) :
    (v.put key bs).record? = Function.update v.record? key (some r) := by
  funext k
  by_cases hk : k = key
  · subst hk
    simp [record?, put, h]
  · simp [record?, put, hk]

lemma record?_drop : (v.drop key).record? = Function.update v.record? key none := by
  funext k
  by_cases hk : k = key
  · subst hk
    simp [record?, drop]
  · simp [record?, drop, hk]

/-- Every account that has data holds a record, and these are the records. -/
def Shows (v : View) (records : Records) : Prop :=
  ∀ key, (v key).map StoredRecord.decode? = (records key).map some

namespace Shows

variable {records : Records}

lemma record?_eq (h : v.Shows records) : v.record? = records := by
  funext k
  have hk := h k
  cases hv : v k with
  | none =>
    have hr : records k = none := by simpa [hv] using hk
    rw [record?_of_vacant hv, hr]
  | some bs =>
    rw [hv, Option.map_some] at hk
    obtain ⟨r, hr, hd⟩ := Option.map_eq_some_iff.1 hk.symm
    rw [hr, record?, hv, hd]
    rfl

lemma vacant_iff (h : v.Shows records) : v key = none ↔ records key = none := by
  have hk := h key
  constructor
  · intro hv
    simpa [hv] using hk
  · intro hr
    simpa [hr] using hk

lemma ne_nil (h : v.Shows records) (hv : v key = some bs) : bs ≠ [] := by
  rintro rfl
  have hk := h key
  cases hr : records key <;> simp [hv, hr, StoredRecord.decode?] at hk

lemma put {r : StoredRecord} (h : v.Shows records) (hr : StoredRecord.decode? bs = some r) :
    (v.put key bs).Shows (Function.update records key (some r)) := by
  intro k
  by_cases hk : k = key
  · subst hk
    simp [View.put, hr]
  · simpa [View.put, hk] using h k

lemma drop (h : v.Shows records) : (v.drop key).Shows (Function.update records key none) := by
  intro k
  by_cases hk : k = key
  · subst hk
    simp [View.drop]
  · simpa [View.drop, hk] using h k

end Shows

end View

/-- What a write does to a view. Data that is empty cannot be seen. -/
def Write.shown (v : View) : Write → View
  | .store key [] => v.drop key
  | .store key data => v.put key data
  | .close key _ => v.drop key

@[simp] lemma Write.shown_close {v : View} {key refundTo : Key} :
    Write.shown v (.close key refundTo) = v.drop key := rfl

lemma Write.shown_store {v : View} {key : Key} {bs : List UInt8} (h : bs ≠ []) :
    Write.shown v (.store key bs) = v.put key bs := by
  cases bs with
  | nil => exact absurd rfl h
  | cons b bs => rfl

/-- What a delta does to a view. -/
def Delta.shown (delta : Delta) (v : View) : View := delta.foldl Write.shown v

@[simp] lemma Delta.shown_nil {v : View} : Delta.shown [] v = v := rfl

@[simp] lemma Delta.shown_cons {v : View} {w : Write} {rest : Delta} :
    Delta.shown (w :: rest) v = Delta.shown rest (w.shown v) := rfl

lemma Delta.shown_append {v : View} {delta rest : Delta} :
    Delta.shown (delta ++ rest) v = Delta.shown rest (Delta.shown delta v) :=
  List.foldl_append

@[simp] lemma Write.shown_wallet {v : View} {key : Key} {w : Wallet} :
    Write.shown v (.store key w.encode) = v.put key w.encode :=
  shown_store w.encode_ne_nil

@[simp] lemma Write.shown_authority {v : View} {key : Key} {m : AuthorityMarker} :
    Write.shown v (.store key m.encode) = v.put key m.encode :=
  shown_store m.encode_ne_nil

@[simp] lemma Write.shown_session {v : View} {key : Key} {s : SessionRecord} :
    Write.shown v (.store key s.encode) = v.put key s.encode :=
  shown_store s.encode_ne_nil

/-- The account that a write changes the data of. -/
def Write.key : Write → Key
  | .store key _ => key
  | .close key _ => key

lemma Write.shown_of_ne {v : View} {w : Write} {key : Key} (h : w.key ≠ key) :
    w.shown v key = v key := by
  cases w with
  | store k bs =>
    have hk : key ≠ k := h.symm
    cases bs with
    | nil => exact Function.update_of_ne hk ..
    | cons => exact Function.update_of_ne hk ..
  | close k refundTo => exact Function.update_of_ne (Ne.symm h) ..

/-- A delta leaves alone what none of its writes is about. -/
lemma Delta.shown_of_ne {v : View} {delta : Delta} {key : Key}
    (h : ∀ w ∈ delta, w.key ≠ key) : delta.shown v key = v key := by
  induction delta generalizing v with
  | nil => rfl
  | cons w rest ih =>
    rw [shown_cons, ih fun w hw => h w (List.mem_cons_of_mem _ hw),
      Write.shown_of_ne (h w List.mem_cons_self)]

/-- A transfer's writes. Where the old marker gives way to the new one at the same key, nothing is
closed, and the view is the same as if it had been. -/
lemma Delta.shown_transfer {v : View} {key old new payer : Key} {w : Wallet}
    {m : AuthorityMarker} :
    Delta.shown (.store key w.encode :: (if new = old then [] else [.close old payer]) ++
      [.store new m.encode]) v = ((v.put key w.encode).drop old).put new m.encode := by
  by_cases h : new = old
  · subst h
    simp [View.put, View.drop]
  · simp [h]

namespace View

variable {v : View} {key marker target refund old payer : Key} {w : Wallet} {m : AuthorityMarker}

/-- The records after a wallet and a marker have been stored. -/
lemma record?_enrolment (hwf : w.WellFormed) :
    View.record? (Delta.shown [.store key w.encode, .store marker m.encode] v) =
      Function.update (Function.update v.record? key (some (.wallet w))) marker
        (some (.authority m)) := by
  simp only [Delta.shown_cons, Delta.shown_nil, Write.shown_wallet, Write.shown_authority]
  rw [record?_put (StoredRecord.decode?_encode_authority _),
    record?_put (StoredRecord.decode?_encode_wallet hwf)]

/-- The records after a wallet has been stored and a marker closed. -/
lemma record?_removal (hwf : w.WellFormed) :
    View.record? (Delta.shown [.store key w.encode, .close target refund] v) =
      Function.update (Function.update v.record? key (some (.wallet w))) target none := by
  simp only [Delta.shown_cons, Delta.shown_nil, Write.shown_wallet, Write.shown_close]
  rw [record?_drop, record?_put (StoredRecord.decode?_encode_wallet hwf)]

/-- The records after a transfer. -/
lemma record?_transfer (hwf : w.WellFormed) :
    View.record? (Delta.shown (.store key w.encode ::
      (if marker = old then [] else [.close old payer]) ++ [.store marker m.encode]) v) =
      Function.update (Function.update (Function.update v.record? key (some (.wallet w))) old none)
        marker (some (.authority m)) := by
  rw [Delta.shown_transfer, record?_put (StoredRecord.decode?_encode_authority _), record?_drop,
    record?_put (StoredRecord.decode?_encode_wallet hwf)]

end View

namespace AccountMap

variable {m m' : AccountMap} {key k : Key} {a : Account}

lemma lookup_cons_eq_ite (e : Key × Account) (entries : List (Key × Account)) :
    (e :: entries).lookup k = if k = e.1 then some e.2 else entries.lookup k := by
  rw [List.lookup_cons]
  by_cases hk : k = e.1
  · simp [hk]
  · have hb : (k == e.1) = false := beq_eq_false_iff_ne.2 hk
    simp [hk, hb]

lemma lookup_setEntry {entries : List (Key × Account)} :
    (setEntry key a entries).lookup k = if k = key then some a else entries.lookup k := by
  induction entries with
  | nil => simp [setEntry, lookup_cons_eq_ite]
  | cons e rest ih =>
    by_cases he : e.1 = key
    · by_cases hk : k = key
      · simp [setEntry, he, hk]
      · simp [setEntry, lookup_cons_eq_ite, he, hk]
    · by_cases hk : k = e.1
      · simp [setEntry, lookup_cons_eq_ite, he, hk]
      · simp [setEntry, lookup_cons_eq_ite, he, hk, ih]

lemma find?_set : (m.set key a).find? k = if k = key then some a else m.find? k :=
  lookup_setEntry

lemma find?_erase : (m.erase key).find? k = if k = key then none else m.find? k := by
  simp only [find?, erase]
  induction m.entries with
  | nil => simp
  | cons e rest ih =>
    by_cases he : e.1 = key
    · by_cases hk : k = key
      · simpa [he, hk] using ih
      · simpa [he, hk, lookup_cons_eq_ite] using ih
    · by_cases hk : k = e.1
      · simp [he, hk, lookup_cons_eq_ite]
      · simpa [he, hk, lookup_cons_eq_ite] using ih

/-- The view of the accounts. -/
def view (m : AccountMap) : View := fun key =>
  ((m.find? key).map Account.data).filter (· ≠ [])

lemma view_set : (m.set key a).view = Write.shown m.view (.store key a.data) := by
  funext k
  cases hd : a.data with
  | nil =>
    by_cases hk : k = key
    · simp [view, find?_set, Write.shown, View.drop, hk, hd]
    · simp [view, find?_set, Write.shown, View.drop, hk]
  | cons b bs =>
    by_cases hk : k = key
    · simp [view, find?_set, Write.shown, View.put, hk, hd]
    · simp [view, find?_set, Write.shown, View.put, hk]

lemma view_erase : (m.erase key).view = m.view.drop key := by
  funext k
  by_cases hk : k = key
  · simp [view, find?_erase, View.drop, hk]
  · simp [view, find?_erase, View.drop, hk]

/-- New lamports on an account leave every view as it was. -/
lemma view_set_lamports (lamports : UInt64) :
    (m.set key { m.getD key with lamports := lamports }).view = m.view := by
  funext k
  by_cases hk : k = key
  · subst hk
    cases h : m.find? k <;> simp [view, find?_set, getD, h, Account.empty]
  · simp [view, find?_set, hk]

lemma view_write {w : Write} (h : m.write w = .ok m') : m'.view = Write.shown m.view w := by
  cases w with
  | store key data =>
    cases h
    exact view_set
  | close key refundTo =>
    simp only [write, bind_eq_ok_iff, ensure_eq_ok, exists_const, pure_eq_ok_iff] at h
    obtain ⟨closed, -, -, rfl⟩ := h
    rw [view_set_lamports, view_erase]
    rfl

lemma view_writeAll {delta : Delta} (h : m.writeAll delta = .ok m') :
    m'.view = delta.shown m.view := by
  induction delta generalizing m with
  | nil =>
    cases h
    rfl
  | cons w rest ih =>
    rw [writeAll, bind_eq_ok_iff] at h
    obtain ⟨m₁, hw, hrest⟩ := h
    rw [ih hrest, view_write hw]
    rfl

end AccountMap

namespace Ledger

variable {l l' : Ledger}

/-- What instructions see of a ledger. -/
def view (l : Ledger) : View := l.data?

@[simp] lemma view_setLamports (key : Key) (lamports : UInt64) :
    (l.setLamports key lamports).view = l.view :=
  AccountMap.view_set_lamports lamports

lemma view_apply {delta : Delta} (h : l.apply delta = .ok l') :
    l'.view = delta.shown l.view := by
  simp only [apply, bind_eq_ok_iff, pure_eq_ok_iff] at h
  obtain ⟨accounts, hw, rfl⟩ := h
  exact AccountMap.view_writeAll hw

end Ledger

end SmartWallet
