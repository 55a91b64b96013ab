import SmartWallet.Client.Transaction
import SmartWallet.Proofs.Checks

/-!
# Signing a transaction

A signature belongs into the slot of its key: the first place where the message lists the key, which
has to lie in the part of the list that signs. Signing fills the slots of the signers in their
order, up to the first one that has no slot or refuses. A slot that is filled twice keeps the later
signature, so that only the order among signers of one key matters.
-/

namespace SmartWallet

/-- The first place of a key among the accounts of a message. -/
def Message.slotOf (m : Message) (key : Key) : Nat := m.accountKeys.idxOf key

namespace Message

variable {m : Message} {key key' : Key}

lemma mem_accountKeys (h : key ∈ m.signerKeys) : key ∈ m.accountKeys := List.mem_of_mem_take h

lemma slotOf_eq_idxOf (h : key ∈ m.signerKeys) : m.slotOf key = m.signerKeys.idxOf key := by
  have hsplit : m.accountKeys = m.signerKeys ++ m.accountKeys.drop _ :=
    (List.take_append_drop _ _).symm
  rw [slotOf, hsplit, List.idxOf_append_of_mem h]

lemma slotOf_lt (h : key ∈ m.signerKeys) : m.slotOf key < m.header.requiredSignatures.toNat := by
  rw [slotOf_eq_idxOf h]
  calc m.signerKeys.idxOf key < m.signerKeys.length := List.idxOf_lt_length_iff.2 h
    _ ≤ m.header.requiredSignatures.toNat := List.length_take_le ..

lemma slotOf_ne (h : key ∈ m.signerKeys) (hne : key ≠ key') : m.slotOf key ≠ m.slotOf key' :=
  fun heq => hne ((List.idxOf_inj (mem_accountKeys h)).1 heq)

lemma findIdx?_signerKeys {slot : Nat} :
    m.signerKeys.findIdx? (· == key) = some slot ↔ key ∈ m.signerKeys ∧ slot = m.slotOf key := by
  rw [List.findIdx?_eq_some_iff_findIdx_eq]
  constructor
  · rintro ⟨hlt, rfl⟩
    have hmem : key ∈ m.signerKeys := List.idxOf_lt_length_iff.1 hlt
    exact ⟨hmem, (slotOf_eq_idxOf hmem).symm⟩
  · rintro ⟨hmem, rfl⟩
    rw [slotOf_eq_idxOf hmem]
    exact ⟨List.idxOf_lt_length_iff.2 hmem, rfl⟩

end Message

namespace Signer

/-- The signer has a slot in the message and signs it. -/
def Serves (s : Signer) (m : Message) : Prop :=
  s.key ∈ m.signerKeys ∧ ∃ signature, s.sign m.encode = .ok signature

/-- What the signer signs a message with, zeros if it refuses. -/
def signatureOf (s : Signer) (m : Message) : Signature := (s.sign m.encode).toOption.getD default

lemma signatureOf_eq {s : Signer} {m : Message} {signature : Signature}
    (h : s.sign m.encode = .ok signature) : s.signatureOf m = signature := by
  rw [signatureOf, h]
  rfl

end Signer

namespace Message

variable {m : Message} {signatures : List Signature} {s : Signer} {signers signers' : List Signer}
  {i : Nat}

/-- The signatures of a message after some signers have filled their slots in turn. -/
def fill (m : Message) (signatures : List Signature) (signers : List Signer) : List Signature :=
  signers.foldl (fun filled s => filled.set (m.slotOf s.key) (s.signatureOf m)) signatures

lemma fill_cons : m.fill signatures (s :: signers) =
    m.fill (signatures.set (m.slotOf s.key) (s.signatureOf m)) signers := rfl

lemma fill_append : m.fill signatures (signers ++ signers') =
    m.fill (m.fill signatures signers) signers' :=
  List.foldl_append

@[simp] lemma length_fill : (m.fill signatures signers).length = signatures.length := by
  induction signers generalizing signatures with
  | nil => rfl
  | cons s signers ih => rw [fill_cons, ih, List.length_set]

/-- The slots of other keys are kept. -/
lemma getElem?_fill_of_ne (h : ∀ s ∈ signers, m.slotOf s.key ≠ i) :
    (m.fill signatures signers)[i]? = signatures[i]? := by
  induction signers generalizing signatures with
  | nil => rfl
  | cons s signers ih =>
    obtain ⟨hs, hsigners⟩ := List.forall_mem_cons.1 h
    rw [fill_cons, ih hsigners, List.getElem?_set_ne hs]

/-- The last signer of a slot decides on it. -/
lemma getElem?_fill_of_last {before after : List Signer}
    (h : ∀ t ∈ after, m.slotOf t.key ≠ m.slotOf s.key) (hlt : m.slotOf s.key < signatures.length) :
    (m.fill signatures (before ++ s :: after))[m.slotOf s.key]? = some (s.signatureOf m) := by
  rw [fill_append, fill_cons, getElem?_fill_of_ne h, List.getElem?_set_self]
  rwa [length_fill]

/-- Slots can be filled in any order as long as no key comes twice. -/
lemma fill_perm (hperm : signers'.Perm signers) (hserved : ∀ s ∈ signers, s.key ∈ m.signerKeys)
    (hkeys : (signers.map Signer.key).Nodup) :
    m.fill signatures signers' = m.fill signatures signers := by
  refine hperm.foldl_eq' (fun s hs t ht filled => ?_) _
  by_cases heq : s = t
  · rw [heq]
  · have hne : s.key ≠ t.key := fun hkey =>
      heq (List.inj_on_of_nodup_map hkeys (hperm.mem_iff.1 hs) (hperm.mem_iff.1 ht) hkey)
    exact List.set_comm _ _ (slotOf_ne (hserved s (hperm.mem_iff.1 hs)) hne)

end Message

namespace Transaction

variable {tx signed : Transaction} {s : Signer} {signers more : List Signer} {i : Nat}

lemma signOne_eq_ok_iff : tx.signOne s = .ok signed ↔ s.Serves tx.message ∧
    signed = { tx with signatures := tx.message.fill tx.signatures [s] } := by
  simp only [signOne, bind_eq_ok_iff, orError_eq_ok_iff, Message.findIdx?_signerKeys,
    mapError_eq_ok_iff, pure_eq_ok_iff]
  constructor
  · rintro ⟨_, ⟨hkey, rfl⟩, signature, hsign, rfl⟩
    refine ⟨⟨hkey, signature, hsign⟩, ?_⟩
    rw [Message.fill_cons, Signer.signatureOf_eq hsign]
    rfl
  · rintro ⟨⟨hkey, signature, hsign⟩, rfl⟩
    refine ⟨_, ⟨hkey, rfl⟩, signature, hsign, ?_⟩
    rw [Message.fill_cons, Signer.signatureOf_eq hsign]
    rfl

/-- Signing fills the slots of the signers up to the first one that does not serve. -/
theorem signAll_stops (tx : Transaction) (signers : List Signer) : ∃ done rest,
    signers = done ++ rest ∧ (∀ s ∈ done, s.Serves tx.message) ∧
      (∀ s ∈ rest.head?, ¬s.Serves tx.message) ∧
        (tx.signAll signers).1 = { tx with signatures := tx.message.fill tx.signatures done } ∧
          ((tx.signAll signers).2 = .ok () ↔ rest = []) := by
  induction signers generalizing tx with
  | nil => exact ⟨[], [], rfl, nofun, nofun, rfl, by simp [signAll]⟩
  | cons s signers ih =>
    rw [signAll]
    split
    · next signed hs =>
      obtain ⟨hserves, rfl⟩ := signOne_eq_ok_iff.1 hs
      obtain ⟨done, rest, hsplit, hdone, hrest, hfill, hok⟩ :=
        ih { tx with signatures := tx.message.fill tx.signatures [s] }
      exact ⟨s :: done, rest, by rw [hsplit, List.cons_append],
        List.forall_mem_cons.2 ⟨hserves, hdone⟩, hrest, hfill, hok⟩
    · next e he =>
      refine ⟨[], s :: signers, rfl, nofun, ?_, rfl, by simp⟩
      rintro _ ⟨⟩ hserves
      rw [signOne_eq_ok_iff.2 ⟨hserves, rfl⟩] at he
      cases he

lemma signAll_of_serves (h : ∀ s ∈ signers, s.Serves tx.message) : tx.signAll signers =
    ({ tx with signatures := tx.message.fill tx.signatures signers }, .ok ()) := by
  obtain ⟨done, rest, rfl, -, hrest, hfill, hok⟩ := tx.signAll_stops signers
  cases rest with
  | nil =>
    rw [List.append_nil] at hfill hok ⊢
    exact Prod.ext hfill (hok.2 rfl)
  | cons s rest => exact absurd (h s (by simp)) (hrest s rfl)

lemma signAll_eq_ok_iff :
    (tx.signAll signers).2 = .ok () ↔ ∀ s ∈ signers, s.Serves tx.message := by
  constructor
  · intro h
    obtain ⟨done, rest, rfl, hdone, -, -, hok⟩ := tx.signAll_stops signers
    obtain rfl := hok.1 h
    rwa [List.append_nil]
  · intro h
    rw [signAll_of_serves h]

lemma signAll_append (h : (tx.signAll signers).2 = .ok ()) :
    tx.signAll (signers ++ more) = (tx.signAll signers).1.signAll more := by
  induction signers generalizing tx with
  | nil => rfl
  | cons s signers ih =>
    rw [List.cons_append]
    simp only [signAll] at h ⊢
    split at h
    · exact ih h
    · cases h

/-! ## One slot per required signer -/

lemma length_fit (tx : Transaction) :
    tx.fit.signatures.length = tx.message.header.requiredSignatures.toNat := by
  simp only [fit, resize, List.length_append, List.length_take, List.length_replicate]
  omega

lemma fit_eq_self (h : tx.signatures.length = tx.message.header.requiredSignatures.toNat) :
    tx.fit = tx := by
  simp [fit, resize, ← h]

lemma getElem?_fit (h : i < tx.message.header.requiredSignatures.toNat) :
    tx.fit.signatures[i]? = some (tx.signatures[i]?.getD default) := by
  by_cases hi : i < tx.signatures.length
  · rw [fit, resize, List.getElem?_append_left (by simp [h, hi]), List.getElem?_take_of_lt h,
      List.getElem?_eq_getElem hi, Option.getD_some]
  · have hle := Nat.not_lt.1 hi
    rw [fit, resize, List.take_of_length_le (by omega), List.getElem?_append_right hle,
      List.getElem?_replicate_of_lt (by omega), List.getElem?_eq_none hle, Option.getD_none]

/-- Signing succeeds if each signer has a slot and signs. It keeps the message, leaves one signature
for each required signer and fills the slot of a key with what the last signer of that key signs,
and no other slot. So signers can be split over two calls, and be reordered if their keys differ. -/
theorem sign_exact (tx : Transaction) (signers : List Signer) :
    ((tx.sign signers).2 = .ok () ↔ ∀ s ∈ signers, s.key ∈ tx.message.signerKeys ∧
      ∃ signature, s.sign tx.message.encode = .ok signature) ∧
    (tx.sign signers).1.message = tx.message ∧
    (tx.sign signers).1.signatures.length = tx.message.header.requiredSignatures.toNat ∧
    ((tx.sign signers).2 = .ok () → ∀ before s after, signers = before ++ s :: after →
      (∀ t ∈ after, t.key ≠ s.key) → ∃ signature, s.sign tx.message.encode = .ok signature ∧
        (tx.sign signers).1.signatures[tx.message.slotOf s.key]? = some signature) ∧
    (∀ i < tx.message.header.requiredSignatures.toNat,
      (∀ s ∈ signers, tx.message.slotOf s.key ≠ i) →
        (tx.sign signers).1.signatures[i]? = some (tx.signatures[i]?.getD default)) ∧
    (∀ more, (tx.sign signers).2 = .ok () →
      (tx.sign signers).1.sign more = tx.sign (signers ++ more)) ∧
    (∀ signers', signers'.Perm signers → (signers.map Signer.key).Nodup →
      ((tx.sign signers').2 = .ok () ↔ (tx.sign signers).2 = .ok ()) ∧
        ((tx.sign signers).2 = .ok () → tx.sign signers' = tx.sign signers)) := by
  have hok : ∀ signers, (tx.sign signers).2 = .ok () ↔ ∀ s ∈ signers, s.Serves tx.message :=
    fun _ => signAll_eq_ok_iff
  have hsigned : ∀ signers, (tx.sign signers).2 = .ok () → tx.sign signers =
      (⟨tx.message.fill tx.fit.signatures signers, tx.message⟩, .ok ()) :=
    fun _ h => signAll_of_serves (signAll_eq_ok_iff.1 h)
  obtain ⟨done, rest, hsplit, -, -, hfill, -⟩ := tx.fit.signAll_stops signers
  have hfirst : (tx.sign signers).1 = ⟨tx.message.fill tx.fit.signatures done, tx.message⟩ := hfill
  refine ⟨hok signers, by rw [hfirst], by rw [hfirst, Message.length_fill, length_fit], ?_, ?_, ?_,
    ?_⟩
  · rintro h before s after rfl hlast
    obtain ⟨hkey, signature, hsign⟩ := (hok _).1 h s (by simp)
    refine ⟨signature, hsign, ?_⟩
    rw [hsigned _ h, Message.getElem?_fill_of_last, Signer.signatureOf_eq hsign]
    · exact fun t ht => (Message.slotOf_ne hkey (hlast t ht).symm).symm
    · rw [length_fit]
      exact Message.slotOf_lt hkey
  · intro i hi hothers
    rw [hfirst, Message.getElem?_fill_of_ne, getElem?_fit hi]
    exact fun s hs => hothers s (hsplit ▸ List.mem_append_left _ hs)
  · intro more h
    have hlength : (tx.sign signers).1.fit = (tx.sign signers).1 := by
      refine fit_eq_self ?_
      rw [hfirst, Message.length_fill, length_fit]
    rw [sign, hlength, sign, sign, signAll_append h]
  · intro signers' hperm hkeys
    have hiff : (tx.sign signers').2 = .ok () ↔ (tx.sign signers).2 = .ok () := by
      simp only [hok, hperm.mem_iff]
    refine ⟨hiff, fun h => ?_⟩
    rw [hsigned _ h, hsigned _ (hiff.2 h),
      Message.fill_perm hperm (fun s hs => ((hok _).1 h s hs).1) hkeys]

end Transaction

namespace Sample

/-- Two accounts sign and a third one does not; one signature is missing. -/
def halfSigned : Transaction where
  signatures := [.replicate 64 0xee]
  message := ⟨⟨2, 0, 0⟩, [.replicate 32 1, .replicate 32 2, .replicate 32 3], .replicate 32 9, []⟩

/-- A key that signs everything alike. -/
def stamp (key signature : UInt8) : Signer :=
  ⟨.replicate 32 key, fun _ => .ok (.replicate 64 signature)⟩

theorem later_stamp_kept :
    (halfSigned.sign [stamp 2 5, stamp 2 6]).2 = .ok () ∧
      (halfSigned.sign [stamp 2 5, stamp 2 6]).1.signatures[1]? = some (.replicate 64 6) ∧
      (halfSigned.sign [stamp 2 5, stamp 2 6]).1.signatures[0]? = some (.replicate 64 0xee) ∧
      (halfSigned.sign [stamp 1 4, stamp 2 5]).2 = .ok () ∧
      halfSigned.sign [stamp 2 5, stamp 1 4] = halfSigned.sign [stamp 1 4, stamp 2 5] ∧
      (halfSigned.sign [stamp 3 7]).2 ≠ .ok () := by
  obtain ⟨hok, -, -, hlast, hothers, -⟩ :=
    Transaction.sign_exact halfSigned [stamp 2 5, stamp 2 6]
  obtain ⟨hokBoth, -, -, -, -, -, hperm⟩ := Transaction.sign_exact halfSigned [stamp 1 4, stamp 2 5]
  obtain ⟨hokThird, -⟩ := Transaction.sign_exact halfSigned [stamp 3 7]
  have htwice := hok.2 (by simp [halfSigned, stamp, Message.signerKeys])
  have hboth := hokBoth.2 (by simp [halfSigned, stamp, Message.signerKeys])
  refine ⟨htwice, ?_, hothers 0 (by decide) (by decide), hboth,
    (hperm _ (List.Perm.swap ..) (by decide)).2 hboth, fun h => ?_⟩
  · obtain ⟨_, ⟨⟩, hslot⟩ := hlast htwice [stamp 2 5] (stamp 2 6) [] rfl nofun
    exact hslot
  · exact absurd (hokThird.1 h _ (List.mem_cons_self ..)).1 (by decide)

end Sample

end SmartWallet
