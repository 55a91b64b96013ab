import SmartWallet.Proofs.RecordCodec

/-!
# The grammar of wallet records

The bytes that are read as a given wallet are those of its record, whatever stands in the bytes that
nothing reads. The entries carry no length of their own, and their count is one byte; still a wallet
has the length that its record says, and the count tells the number of entries, where zero stands
for all 256 of them.
-/

namespace SmartWallet

lemma Authority.wellFormed_iff {a : Authority} : a.WellFormed ↔
    (∀ key, a.credential.ed25519Master? = some key → a.seed = key) ∧
      ∀ key, a.credential.secp256r1Master? = some key →
        key.toList.head? = some 2 ∨ key.toList.head? = some 3 := by
  simp only [WellFormed, Credential.isWellFormed, Credential.matchesSeed, Option.all_eq_true,
    Credential.isCompressed, Bool.or_eq_true, beq_iff_eq, eq_comm (a := a.seed)]
  exact and_comm

lemma AgreeOutside.set {reserved : Nat → Prop} {i : Nat} (h : reserved i) (bs : List UInt8)
    (b : UInt8) : AgreeOutside reserved (bs.set i b) bs := by
  refine ⟨List.length_set, fun j hj => List.getElem?_set_ne ?_⟩
  rintro rfl
  exact hj h

namespace Wallet

variable {w : Wallet} {bs : List UInt8}

lemma length_encode (w : Wallet) : w.encode.length = w.size := by
  have hentries : ∀ l : List Authority,
      (l.flatMap Authority.encode).length = l.foldr (·.size + ·) 0 := by
    intro l
    induction l with
    | nil => rfl
    | cons a l ih => simp [ih, Authority.length_encode]
  simp [encode, size, headerLength, Bytes.length_toList, hentries]
  omega

lemma WellFormed.length_pos (h : w.WellFormed) : 0 < w.authorities.length :=
  calc
    0 < w.authorities.countP (·.role == .owner) := by rw [h.oneOwner]; exact Nat.one_pos
    _ ≤ w.authorities.length := List.countP_le_length

/-- There are no more ids than bytes. -/
lemma length_le_of_ascending {l : List Authority} (h : l.Pairwise fun a b => a.id < b.id) :
    l.length ≤ 256 := by
  have hnodup : (l.map fun a => a.id.toFin).Nodup := by
    rw [List.Nodup, List.pairwise_map]
    refine h.imp fun hlt heq => ?_
    exact UInt8.lt_irrefl _ ((UInt8.toFin_inj.1 heq) ▸ hlt)
  have hcard := hnodup.length_le_card
  rwa [List.length_map, Fintype.card_fin] at hcard

lemma WellFormed.length_le (h : w.WellFormed) : w.authorities.length ≤ 256 :=
  length_le_of_ascending h.ascending

/-- The count in front of the entries of a wallet record. -/
lemma count_of_decode (h : decode bs = .ok w) :
    bs[4]? = some (UInt8.ofNat w.authorities.length) := by
  obtain ⟨-, hbs⟩ := decode_eq_ok_iff.1 h
  obtain ⟨x, y, z, records, rfl, -⟩ := agreeOutside_encode_iff.1 hbs
  rfl

/-- A record is read as the wallet whose bytes it has, wherever a byte is read at all; it is as long
as the wallet says, and its count byte stands for one number of entries. -/
theorem record_grammar (bs : List UInt8) (w : Wallet) :
    (decode bs = .ok w ↔
      (w.authorities.Pairwise fun a b => a.id < b.id) ∧
      w.authorities.countP (·.role == .owner) = 1 ∧
      (∀ a ∈ w.authorities,
        (∀ key, a.credential.ed25519Master? = some key → a.seed = key) ∧
        ∀ key, a.credential.secp256r1Master? = some key →
          key.toList.head? = some 2 ∨ key.toList.head? = some 3) ∧
      AgreeOutside w.Reserved bs w.encode) ∧
    (w.WellFormed → decode w.encode = .ok w) ∧
    (decode bs = .ok w → bs.length = w.size ∧ ∃ count, bs[4]? = some count ∧
      w.authorities.length = if count = 0 then 256 else count.toNat) := by
  refine ⟨?_, decode_encode, fun h => ?_⟩
  · rw [decode_eq_ok_iff]
    simp only [← Authority.wellFormed_iff]
    constructor
    · rintro ⟨hwf, hbs⟩
      exact ⟨hwf.ascending, hwf.oneOwner, hwf.entries, hbs⟩
    · rintro ⟨hasc, howner, hentries, hbs⟩
      exact ⟨⟨hasc, howner, hentries⟩, hbs⟩
  · obtain ⟨hwf, hbs⟩ := decode_eq_ok_iff.1 h
    refine ⟨hbs.length.trans w.length_encode, _, count_of_decode h, ?_⟩
    -- the byte tells the number up to 256, and there are between 1 and 256 entries
    have hpos := hwf.length_pos
    have hle := hwf.length_le
    have hcount : (UInt8.ofNat w.authorities.length).toNat = w.authorities.length % 256 :=
      UInt8.toNat_ofNat'
    split
    · next h0 =>
      rw [h0] at hcount
      simp at hcount
      omega
    · next h0 =>
      have hne : (UInt8.ofNat w.authorities.length).toNat ≠ 0 := fun h => h0 (UInt8.toNat_inj.1 h)
      omega

end Wallet

namespace Sample

/-- Every id is taken: an owner under the first, and a spender under each of the others. -/
def fullWallet : Wallet where
  bump := 255
  vaultBump := 254
  walletId := .replicate 32 1
  authorities := (List.range 256).map fun i =>
    let seed := ⟨UInt8.ofNat i :: List.replicate 31 7, by simp⟩
    ⟨UInt8.ofNat i, if i = 0 then .owner else .spender, seed, 0, .ed25519 seed⟩

theorem full_wallet_read_back :
    Wallet.decode (fullWallet.encode.set 5 1) = .ok fullWallet ∧
      (fullWallet.encode.set 5 1).length = 40 + 256 * 72 ∧
      (fullWallet.encode.set 5 1)[4]? = some 0 ∧ fullWallet.authorities.length = 256 := by
  have hread : Wallet.decode (fullWallet.encode.set 5 1) = .ok fullWallet := by
    refine (Wallet.record_grammar _ _).1.2 ⟨by decide +kernel, by decide +kernel, ?_,
      .set (.inl rfl) _ _⟩
    intro a ha
    obtain ⟨i, -, rfl⟩ := List.mem_map.1 ha
    exact ⟨fun key hkey => Option.some.inj hkey, nofun⟩
  obtain ⟨hlength, -⟩ := (Wallet.record_grammar _ _).2.2 hread
  exact ⟨hread, hlength.trans (by decide +kernel), by decide +kernel, by decide +kernel⟩

end Sample

end SmartWallet
