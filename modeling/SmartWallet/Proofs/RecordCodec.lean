import SmartWallet.Proofs.Checks
import SmartWallet.Wallet

/-!
# Reading back what was written

Every record that is well formed is read back from the bytes written for it. A wallet is read from
no other bytes, apart from those that nothing reads: `Wallet.decode_eq_ok_iff`. A `StoredRecord` is
a record of any of the three kinds; the first byte tells which one, so that no bytes are read as two
kinds of record.
-/

namespace SmartWallet

lemma ofLittleEndian_littleEndian (k n : Nat) :
    ofLittleEndian (littleEndian k n) = n % 256 ^ k := by
  induction k generalizing n with
  | zero => simp [littleEndian, ofLittleEndian, Nat.mod_one]
  | succ k ih =>
    rw [littleEndian, ofLittleEndian, ih, Nat.pow_succ', Nat.mod_mul]
    simp

lemma ofLittleEndian_lt (bs : List UInt8) : ofLittleEndian bs < 256 ^ bs.length := by
  induction bs with
  | nil => simp [ofLittleEndian]
  | cons b bs ih =>
    have hb : b.toNat < 256 := b.toNat_lt
    rw [ofLittleEndian, List.length_cons, Nat.pow_succ]
    omega

namespace Bytes

def ofUInt32 (n : UInt32) : Bytes 4 := ⟨bytesOfUInt32 n, length_littleEndian 4 _⟩

def ofUInt64 (n : UInt64) : Bytes 8 := ⟨bytesOfUInt64 n, length_littleEndian 8 _⟩

/-- Byte strings of one length end where they end. -/
lemma append_inj {n : Nat} {a b : Bytes n} {r s : List UInt8}
    (h : a.toList ++ r = b.toList ++ s) : a = b ∧ r = s := by
  have hsplit := congrArg (split? n) h
  rwa [split?_append, split?_append, Option.some.injEq, Prod.mk.injEq] at hsplit

@[simp] lemma toUInt32_ofUInt32 (n : UInt32) : (ofUInt32 n).toUInt32 = n := by
  have hn : n.toNat < 2 ^ 32 := n.toNat_lt
  simp only [ofUInt32, toUInt32, bytesOfUInt32, ofLittleEndian_littleEndian]
  apply UInt32.toNat_inj.1
  rw [UInt32.toNat_ofNat']
  omega

@[simp] lemma toUInt64_ofUInt64 (n : UInt64) : (ofUInt64 n).toUInt64 = n := by
  have hn : n.toNat < 2 ^ 64 := n.toNat_lt
  simp only [ofUInt64, toUInt64, bytesOfUInt64, ofLittleEndian_littleEndian]
  apply UInt64.toNat_inj.1
  rw [UInt64.toNat_ofNat']
  omega

lemma ofUInt32_injective : Function.Injective ofUInt32 :=
  Function.LeftInverse.injective toUInt32_ofUInt32

lemma ofUInt64_injective : Function.Injective ofUInt64 :=
  Function.LeftInverse.injective toUInt64_ofUInt64

lemma bytesOfUInt32_toUInt32 (b : Bytes 4) : bytesOfUInt32 b.toUInt32 = b.toList := by
  have hb := ofLittleEndian_lt b.toList
  rw [b.length_toList] at hb
  have hn : b.toUInt32.toNat = ofLittleEndian b.toList := by
    rw [toUInt32, UInt32.toNat_ofNat']
    omega
  have hw := littleEndian_ofLittleEndian b.toList
  rw [b.length_toList] at hw
  rw [bytesOfUInt32, hn, hw]

lemma bytesOfUInt64_toUInt64 (b : Bytes 8) : bytesOfUInt64 b.toUInt64 = b.toList := by
  have hb := ofLittleEndian_lt b.toList
  rw [b.length_toList] at hb
  have hn : b.toUInt64.toNat = ofLittleEndian b.toList := by
    rw [toUInt64, UInt64.toNat_ofNat']
    omega
  have hw := littleEndian_ofLittleEndian b.toList
  rw [b.length_toList] at hw
  rw [bytesOfUInt64, hn, hw]

@[simp] lemma split?_bytesOfUInt32 (n : UInt32) (rest : List UInt8) :
    split? 4 (bytesOfUInt32 n ++ rest) = some (ofUInt32 n, rest) :=
  split?_append (ofUInt32 n) rest

@[simp] lemma split?_bytesOfUInt64 (n : UInt64) (rest : List UInt8) :
    split? 8 (bytesOfUInt64 n ++ rest) = some (ofUInt64 n, rest) :=
  split?_append (ofUInt64 n) rest

lemma ofList?_bytesOfUInt64 (n : UInt64) :
    ofList? 8 (bytesOfUInt64 n) = some (ofUInt64 n) :=
  ofList?_toList (ofUInt64 n)

lemma ofList?_eq_some_iff {n : Nat} {bs : List UInt8} {b : Bytes n} :
    ofList? n bs = some b ↔ bs = b.toList := by
  constructor
  · intro h
    unfold ofList? at h
    split at h
    · cases h
      rfl
    · cases h
  · rintro rfl
    exact ofList?_toList b

end Bytes

/-! ## Bytes that nothing reads -/

/-- Byte strings of one length that agree at every position that is not reserved. -/
structure AgreeOutside (reserved : Nat → Prop) (bs cs : List UInt8) : Prop where
  length : bs.length = cs.length
  agree : ∀ i, ¬reserved i → bs[i]? = cs[i]?

namespace AgreeOutside

variable {reserved : Nat → Prop} {bs cs ds : List UInt8} {c : UInt8}

lemma refl (bs : List UInt8) : AgreeOutside reserved bs bs := ⟨rfl, fun _ _ => rfl⟩

lemma symm (h : AgreeOutside reserved bs cs) : AgreeOutside reserved cs bs :=
  ⟨h.length.symm, fun i hi => (h.agree i hi).symm⟩

lemma eq_iff (h : ∀ i < cs.length, ¬reserved i) : AgreeOutside reserved bs cs ↔ bs = cs := by
  constructor
  · intro hbs
    refine List.ext_getElem? fun i => ?_
    by_cases hi : i < cs.length
    · exact hbs.agree i (h i hi)
    · rw [List.getElem?_eq_none (not_lt.1 hi),
        List.getElem?_eq_none (hbs.length.trans_le (not_lt.1 hi))]
  · rintro rfl
    exact refl bs

lemma congr {reserved' : Nat → Prop} (h : ∀ i < cs.length, (reserved i ↔ reserved' i)) :
    AgreeOutside reserved bs cs ↔ AgreeOutside reserved' bs cs := by
  have himp : ∀ {r r' : Nat → Prop}, (∀ i < cs.length, (r i ↔ r' i)) → AgreeOutside r bs cs →
      AgreeOutside r' bs cs := by
    intro r r' hr hbs
    refine ⟨hbs.length, fun i hi => ?_⟩
    by_cases hlt : i < cs.length
    · exact hbs.agree i fun hri => hi ((hr i hlt).1 hri)
    · rw [List.getElem?_eq_none (not_lt.1 hlt),
        List.getElem?_eq_none (hbs.length.trans_le (not_lt.1 hlt))]
  exact ⟨himp h, himp fun i hi => (h i hi).symm⟩

lemma cons_iff : AgreeOutside reserved bs (c :: cs) ↔
    ∃ b r, bs = b :: r ∧ (¬reserved 0 → b = c) ∧ AgreeOutside (fun i => reserved (i + 1)) r cs := by
  constructor
  · rintro ⟨hlength, hagree⟩
    cases bs with
    | nil => cases hlength
    | cons b r =>
      refine ⟨b, r, rfl, fun h0 => by simpa using hagree 0 h0, by simpa using hlength, ?_⟩
      intro i hi
      simpa using hagree (i + 1) hi
  · rintro ⟨b, r, rfl, hb, hlength, hagree⟩
    refine ⟨by simp [hlength], fun i hi => ?_⟩
    cases i with
    | zero => simp [hb hi]
    | succ i => simpa using hagree i hi

/-- Strings that are put together agree if their parts do. -/
lemma append_iff : AgreeOutside reserved bs (cs ++ ds) ↔ ∃ p r, bs = p ++ r ∧
    AgreeOutside reserved p cs ∧ AgreeOutside (fun i => reserved (i + cs.length)) r ds := by
  induction cs generalizing bs reserved with
  | nil =>
    have hnil : ∀ p, AgreeOutside reserved p [] ↔ p = [] := fun p => eq_iff nofun
    simp [hnil]
  | cons c cs ih =>
    simp only [List.cons_append, cons_iff, ih, List.length_cons, ← Nat.add_assoc]
    constructor
    · rintro ⟨b, _, rfl, hb, p, r, rfl, hp, hr⟩
      exact ⟨b :: p, r, rfl, ⟨b, p, rfl, hb, hp⟩, by simpa [Nat.add_right_comm] using hr⟩
    · rintro ⟨_, r, rfl, ⟨b, p, rfl, hb, hp⟩, hr⟩
      exact ⟨b, p ++ r, rfl, hb, p, r, rfl, hp, by simpa [Nat.add_right_comm] using hr⟩

/-- Strings that agree around a window hold any bytes of its length there. -/
lemma window_iff {k n : Nat} (hcs : cs.length = k) (hds : ds.length = n) {es : List UInt8} :
    AgreeOutside (fun i => k ≤ i ∧ i < k + n) bs (cs ++ (ds ++ es)) ↔
      ∃ fill, fill.length = n ∧ bs = cs ++ (fill ++ es) := by
  subst hcs hds
  have hbefore : ∀ p, AgreeOutside (fun i => cs.length ≤ i ∧ i < cs.length + ds.length) p cs ↔
      p = cs := fun p => eq_iff fun i hi h => by omega
  have hwithin : ∀ p, AgreeOutside
      (fun i => cs.length ≤ i + cs.length ∧ i + cs.length < cs.length + ds.length) p ds ↔
        p.length = ds.length := by
    refine fun p => ⟨length, fun hlength => ⟨hlength, fun i hi => ?_⟩⟩
    have hout : ds.length ≤ i := by omega
    rw [List.getElem?_eq_none hout, List.getElem?_eq_none (hlength.trans_le hout)]
  have hafter : ∀ p, AgreeOutside (fun i => cs.length ≤ i + ds.length + cs.length ∧
      i + ds.length + cs.length < cs.length + ds.length) p es ↔ p = es :=
    fun p => eq_iff fun i _ h => by omega
  simp only [append_iff, hbefore, hwithin, hafter]
  constructor
  · rintro ⟨_, _, rfl, rfl, fill, _, rfl, hfill, rfl⟩
    exact ⟨fill, hfill, rfl⟩
  · rintro ⟨fill, hfill, rfl⟩
    exact ⟨cs, _, rfl, rfl, fill, es, rfl, hfill, rfl⟩

end AgreeOutside

/-! ## Authorities -/

lemma AuthorityKind.ofTag_tag (kind : AuthorityKind) : ofTag kind.tag = .ok kind := by
  cases kind <;> rfl

lemma AuthorityKind.ofTag_eq_ok_iff {b : UInt8} {kind : AuthorityKind} :
    ofTag b = .ok kind ↔ b = kind.tag := by
  constructor
  · intro h
    unfold ofTag at h
    split_ifs at h
    all_goals
      cases h
      assumption
  · rintro rfl
    exact ofTag_tag kind

lemma AuthorityKind.tag_injective : Function.Injective tag := fun a b h => by
  have hread := congrArg ofTag h
  rwa [ofTag_tag, ofTag_tag, Except.ok.injEq] at hread

lemma Role.ofTag_tag (role : Role) : ofTag role.tag = .ok role := by
  cases role <;> rfl

lemma Role.ofTag_eq_ok_iff {b : UInt8} {role : Role} : ofTag b = .ok role ↔ b = role.tag := by
  constructor
  · intro h
    unfold ofTag at h
    split_ifs at h
    all_goals
      cases h
      assumption
  · rintro rfl
    exact ofTag_tag role

lemma Role.tag_injective : Function.Injective tag := fun a b h => by
  have hread := congrArg ofTag h
  rwa [ofTag_tag, ofTag_tag, Except.ok.injEq] at hread

namespace Credential

lemma split?_encode (c : Credential) (rest : List UInt8) :
    split? c.kind (c.encode ++ rest) = some (c, rest) := by
  cases c <;> simp [split?, encode, kind, Bytes.split?_append]

lemma split?_eq_some_iff {kind : AuthorityKind} {bs rest : List UInt8} {c : Credential} :
    split? kind bs = some (c, rest) ↔ c.kind = kind ∧ bs = c.encode ++ rest := by
  constructor
  · intro h
    cases kind
    all_goals
      simp only [split?, Option.bind_eq_bind, Option.bind_eq_some_iff, Prod.exists,
        Bytes.split?_eq_some_iff, Option.pure_def, Option.some.injEq, Prod.mk.injEq] at h
    case ed25519 =>
      obtain ⟨key, _, rfl, rfl, rfl⟩ := h
      exact ⟨rfl, rfl⟩
    case secp256r1 =>
      obtain ⟨key, _, rfl, rfl, rfl⟩ := h
      exact ⟨rfl, rfl⟩
    case ed25519Session =>
      obtain ⟨master, _, rfl, sessionKey, _, rfl, expiry, _, rfl, rfl, rfl⟩ := h
      exact ⟨rfl, by simp [encode, Bytes.bytesOfUInt64_toUInt64]⟩
    case secp256r1Session =>
      obtain ⟨master, _, rfl, sessionKey, _, rfl, expiry, _, rfl, rfl, rfl⟩ := h
      exact ⟨rfl, by simp [encode, Bytes.bytesOfUInt64_toUInt64]⟩
  · rintro ⟨rfl, rfl⟩
    exact c.split?_encode rest

lemma decode_eq_ok_iff {kind : AuthorityKind} {bs : List UInt8} {c : Credential} :
    decode kind bs = .ok c ↔ c.kind = kind ∧ c.isWellFormed = true ∧ bs = c.encode := by
  constructor
  · intro h
    unfold decode at h
    split at h
    · next c' hc =>
      split at h
      · next hwf =>
        cases h
        obtain ⟨hkind, rfl⟩ := split?_eq_some_iff.1 hc
        exact ⟨hkind, hwf, List.append_nil _⟩
      · cases h
    · cases h
  · rintro ⟨rfl, hwf, rfl⟩
    have hc := c.split?_encode []
    rw [List.append_nil] at hc
    simp [decode, hc, hwf]

lemma length_encode (c : Credential) : c.encode.length = c.kind.dataLength := by
  cases c <;>
    simp [encode, kind, AuthorityKind.dataLength, Bytes.length_toList, bytesOfUInt64]

end Credential

/-- The entry may be stored: its P-256 key is compressed, and its Ed25519 key is its seed. -/
def Authority.WellFormed (a : Authority) : Prop :=
  a.credential.isWellFormed = true ∧ a.credential.matchesSeed a.seed = true

namespace Authority

variable {a : Authority} {l : List Authority} {bs rest : List UInt8}

/-- Reading accepts exactly what writing produces for well-formed entries, whatever the byte after
the role is, and leaves the rest. -/
lemma read_eq_ok_iff : read bs = .ok (a, rest) ↔
    a.WellFormed ∧ ∃ p, AgreeOutside (· = 3) p a.encode ∧ bs = p ++ rest := by
  have hencode : ∀ p, AgreeOutside (· = 3) p a.encode ↔ ∃ b, p =
      a.id :: a.kind.tag :: a.role.tag :: b ::
        (bytesOfUInt32 a.counter ++ (a.seed.toList ++ a.credential.encode)) := by
    intro p
    simp [encode, AgreeOutside.cons_iff, AgreeOutside.eq_iff]
  simp only [hencode]
  constructor
  · intro h
    unfold read at h
    split at h
    · next id kindTag roleTag b bs =>
      simp only [bind_eq_ok_iff, orError_eq_ok_iff, mapError_eq_ok_iff, ensure_eq_ok, exists_const,
        pure_eq_ok_iff, Prod.exists, Prod.mk.injEq, Bytes.split?_eq_some_iff,
        AuthorityKind.ofTag_eq_ok_iff, Role.ofTag_eq_ok_iff, Credential.split?_eq_some_iff,
        Bool.and_eq_true] at h
      obtain ⟨counter, _, rfl, seed, _, rfl, kind, rfl, role, rfl, c, _, ⟨rfl, rfl⟩, hwf, rfl,
        rfl⟩ := h
      exact ⟨hwf, _, ⟨b, rfl⟩, by simp [Authority.kind, Bytes.bytesOfUInt32_toUInt32]⟩
    · cases h
  · rintro ⟨hwf, _, ⟨b, rfl⟩, rfl⟩
    simp only [read, List.cons_append, List.append_assoc, bind_eq_ok_iff, orError_eq_ok_iff,
      mapError_eq_ok_iff, ensure_eq_ok, exists_const, pure_eq_ok_iff, Prod.exists, Prod.mk.injEq,
      AuthorityKind.ofTag_eq_ok_iff, Role.ofTag_eq_ok_iff, Bool.and_eq_true]
    exact ⟨_, _, Bytes.split?_bytesOfUInt32 _ _, _, _, Bytes.split?_append _ _, a.kind, rfl, a.role,
      rfl, _, _, Credential.split?_encode _ _, hwf, by simp, rfl⟩

/-- The position, counted from the first of some entries, holds the byte after a role. -/
def ReservedAmong (l : List Authority) (i : Nat) : Prop :=
  ∃ before a after, l = before ++ a :: after ∧ i = (before.map size).sum + 3

lemma length_encode (a : Authority) : a.encode.length = a.size := by
  simp only [encode, size, headerLength, kind, List.length_append, List.length_cons,
    List.length_nil, bytesOfUInt32, length_littleEndian, Bytes.length_toList,
    Credential.length_encode]

lemma reservedAmong_cons {i : Nat} :
    ReservedAmong (a :: l) i ↔ i = 3 ∨ ∃ j, i = j + a.size ∧ ReservedAmong l j := by
  constructor
  · rintro ⟨before, b, after, hsplit, rfl⟩
    cases before with
    | nil => exact .inl rfl
    | cons c before =>
      cases hsplit
      exact .inr ⟨_, by simp only [List.map_cons, List.sum_cons]; omega, before, b, after, rfl, rfl⟩
  · rintro (rfl | ⟨_, rfl, before, b, after, rfl, rfl⟩)
    · exact ⟨[], a, l, rfl, rfl⟩
    · exact ⟨a :: before, b, after, rfl, by simp only [List.map_cons, List.sum_cons]; omega⟩

lemma agreeOutside_flatMap_cons_iff :
    AgreeOutside (ReservedAmong (a :: l)) bs ((a :: l).flatMap encode) ↔
      ∃ p r, bs = p ++ r ∧ AgreeOutside (· = 3) p a.encode ∧
        AgreeOutside (ReservedAmong l) r (l.flatMap encode) := by
  have hsize : 40 ≤ a.size := Nat.le_add_right _ _
  have hfirst : ∀ p, AgreeOutside (ReservedAmong (a :: l)) p a.encode ↔
      AgreeOutside (· = 3) p a.encode := by
    refine fun p => AgreeOutside.congr fun i hi => ?_
    rw [length_encode] at hi
    rw [reservedAmong_cons]
    exact or_iff_left fun ⟨j, hj, _⟩ => by omega
  have hrest : ∀ r, AgreeOutside (fun i => ReservedAmong (a :: l) (i + a.encode.length)) r
      (l.flatMap encode) ↔ AgreeOutside (ReservedAmong l) r (l.flatMap encode) := by
    refine fun r => AgreeOutside.congr fun i _ => ?_
    rw [length_encode, reservedAmong_cons]
    constructor
    · rintro (h | ⟨j, hj, hl⟩)
      · omega
      · rwa [Nat.add_right_cancel hj]
    · exact fun h => .inr ⟨i, rfl, h⟩
  simp only [List.flatMap_cons, AgreeOutside.append_iff, hfirst, hrest]

end Authority

/-! ## Wallets -/

/-- What a wallet record must satisfy to be read. -/
structure Wallet.WellFormed (w : Wallet) : Prop where
  ascending : w.authorities.Pairwise fun a b => a.id < b.id
  oneOwner : w.authorities.countP (·.role == .owner) = 1
  entries : ∀ a ∈ w.authorities, a.WellFormed

namespace Wallet

/-- The position holds a byte of the record that nothing reads: one of three in the header, or the
byte after the role of an entry. -/
def Reserved (w : Wallet) (i : Nat) : Prop :=
  i = 5 ∨ i = 6 ∨ i = 7 ∨ ∃ j, i = j + headerLength ∧ Authority.ReservedAmong w.authorities j

lemma readAuthorities_nil_iff {l : List Authority} {last? : Option UInt8} {fuel : Nat} :
    readAuthorities fuel last? [] = .ok l ↔ (l.Pairwise fun a b => a.id < b.id) ∧
      (∀ i ∈ last?, ∀ a ∈ l, i < a.id) ∧ (∀ a ∈ l, a.WellFormed) ∧
      AgreeOutside (Authority.ReservedAmong l) [] (l.flatMap Authority.encode) := by
  have hread : readAuthorities fuel last? [] = .ok [] := by cases fuel <;> rfl
  rw [hread]
  constructor
  · rintro ⟨⟩
    simpa using AgreeOutside.refl []
  · rintro ⟨-, -, -, hbs⟩
    cases l with
    | nil => rfl
    | cons a l => cases hbs.length

lemma rest_le_fuel {a : Authority} {p rest : List UInt8} {fuel : Nat}
    (hp : AgreeOutside (· = 3) p a.encode) (h : (p ++ rest).length ≤ fuel + 1) :
    rest.length ≤ fuel := by
  have hlength := hp.length
  rw [a.length_encode, Authority.size, Authority.headerLength] at hlength
  rw [List.length_append] at h
  omega

lemma all_lt_iff {last? : Option UInt8} {id : UInt8} :
    last?.all (· < id) = true ↔ ∀ i ∈ last?, i < id := by
  cases last? <;> simp

lemma readAuthorities_eq_ok_iff {l : List Authority} {last? : Option UInt8} {fuel : Nat}
    {bs : List UInt8} (hfuel : bs.length ≤ fuel) :
    readAuthorities fuel last? bs = .ok l ↔ (l.Pairwise fun a b => a.id < b.id) ∧
      (∀ i ∈ last?, ∀ a ∈ l, i < a.id) ∧ (∀ a ∈ l, a.WellFormed) ∧
      AgreeOutside (Authority.ReservedAmong l) bs (l.flatMap Authority.encode) := by
  -- the fuel bounds the bytes that are left, behind the entry whose id is `last?`
  induction fuel generalizing l last? bs with
  | zero =>
    obtain rfl : bs = [] := List.length_eq_zero_iff.1 (Nat.le_zero.1 hfuel)
    exact readAuthorities_nil_iff
  | succ fuel ih =>
    cases bs with
    | nil => exact readAuthorities_nil_iff
    | cons b bs =>
      simp only [readAuthorities, bind_eq_ok_iff, ensure_eq_ok, exists_const, pure_eq_ok_iff,
        Prod.exists, Authority.read_eq_ok_iff]
      constructor
      · rintro ⟨a, rest, ⟨hwf, p, hp, hbs⟩, hlast, more, hmore, rfl⟩
        rw [hbs] at hfuel
        obtain ⟨hasc, habove, hwfs, hrest⟩ := (ih (rest_le_fuel hp hfuel)).1 hmore
        have ha := all_lt_iff.1 hlast
        refine ⟨List.pairwise_cons.2 ⟨by simpa using habove, hasc⟩, ?_, ?_, ?_⟩
        · intro i hi c hc
          rcases List.mem_cons.1 hc with rfl | hc
          · exact ha i hi
          · exact UInt8.lt_trans (ha i hi) (habove a.id rfl c hc)
        · simpa using ⟨hwf, hwfs⟩
        · exact Authority.agreeOutside_flatMap_cons_iff.2 ⟨p, rest, hbs, hp, hrest⟩
      · rintro ⟨hasc, habove, hwfs, hbs⟩
        cases l with
        | nil => cases hbs.length
        | cons a more =>
          obtain ⟨p, rest, hsplit, hp, hrest⟩ := Authority.agreeOutside_flatMap_cons_iff.1 hbs
          obtain ⟨hmin, hasc⟩ := List.pairwise_cons.1 hasc
          obtain ⟨hwf, hwfs⟩ := List.forall_mem_cons.1 hwfs
          rw [hsplit] at hfuel
          have hmore : readAuthorities fuel (some a.id) rest = .ok more :=
            (ih (rest_le_fuel hp hfuel)).2 ⟨hasc, by simpa using hmin, hwfs, hrest⟩
          have hlast : ∀ i ∈ last?, i < a.id := fun i hi => habove i hi a (List.mem_cons_self ..)
          exact ⟨a, rest, ⟨hwf, p, hp, hsplit⟩, all_lt_iff.2 hlast, more, hmore, rfl⟩

variable {bs : List UInt8} {w : Wallet}

lemma agreeOutside_encode_iff : AgreeOutside w.Reserved bs w.encode ↔ ∃ x y z records,
    bs = RecordKind.wallet.tag :: recordVersion :: w.bump :: w.vaultBump ::
      UInt8.ofNat w.authorities.length :: x :: y :: z :: (w.walletId.toList ++ records) ∧
    AgreeOutside (Authority.ReservedAmong w.authorities) records
      (w.authorities.flatMap Authority.encode) := by
  have hreserved : ∀ i < 40, (w.Reserved i ↔ i = 5 ∨ i = 6 ∨ i = 7) := by
    intro i hi
    simp only [Reserved, headerLength]
    constructor
    · rintro (h | h | h | ⟨j, hj, -⟩) <;> omega
    · rintro (h | h | h) <;> simp [h]
  have hwalletId : ∀ p, AgreeOutside (fun i => w.Reserved (i + 8)) p w.walletId.toList ↔
      p = w.walletId.toList := by
    refine fun p => AgreeOutside.eq_iff fun i hi => ?_
    rw [Bytes.length_toList] at hi
    rw [hreserved _ (by omega)]
    omega
  have hrecords : ∀ p, AgreeOutside (fun i => w.Reserved (i + 40)) p
      (w.authorities.flatMap Authority.encode) ↔
        AgreeOutside (Authority.ReservedAmong w.authorities) p
          (w.authorities.flatMap Authority.encode) := by
    refine fun p => AgreeOutside.congr fun i _ => ?_
    simp only [Reserved, headerLength]
    constructor
    · rintro (h | h | h | ⟨j, hj, hl⟩)
      · omega
      · omega
      · omega
      · rwa [show i = j by omega]
    · exact fun h => .inr (.inr (.inr ⟨i, rfl, h⟩))
  simp [encode, AgreeOutside.cons_iff, AgreeOutside.append_iff, Nat.add_assoc,
    Bytes.length_toList, hreserved, hwalletId, hrecords]

/-- Bytes are read as a wallet exactly if the wallet is well formed and they are its record, apart
from the bytes that nothing reads. -/
theorem decode_eq_ok_iff :
    decode bs = .ok w ↔ w.WellFormed ∧ AgreeOutside w.Reserved bs w.encode := by
  rw [agreeOutside_encode_iff]
  constructor
  · intro h
    unfold decode at h
    split at h
    · next tag version bump vaultBump count x y z bs =>
      simp only [bind_eq_ok_iff, ensure_eq_ok, exists_const, orError_eq_ok_iff, pure_eq_ok_iff,
        Prod.exists, Bytes.split?_eq_some_iff, readAuthorities_eq_ok_iff (Nat.le_refl _)] at h
      obtain ⟨⟨rfl, rfl⟩, walletId, records, rfl, l, ⟨hasc, -, hwf, hrecords⟩, rfl, howner,
        rfl⟩ := h
      exact ⟨⟨hasc, howner, hwf⟩, x, y, z, records, rfl, hrecords⟩
    · cases h
  · rintro ⟨hwf, x, y, z, records, rfl, hrecords⟩
    simp only [decode, bind_eq_ok_iff, ensure_eq_ok, exists_const, orError_eq_ok_iff,
      pure_eq_ok_iff, Prod.exists, readAuthorities_eq_ok_iff (Nat.le_refl _), and_self, true_and]
    exact ⟨_, _, Bytes.split?_append _ _, _,
      ⟨hwf.ascending, by simp, hwf.entries, hrecords⟩, rfl, hwf.oneOwner, rfl⟩

lemma decode_encode (h : w.WellFormed) : decode w.encode = .ok w :=
  decode_eq_ok_iff.2 ⟨h, .refl _⟩

lemma wellFormed_of_decode (h : decode bs = .ok w) : w.WellFormed :=
  (decode_eq_ok_iff.1 h).1

lemma head?_of_decode {bs : List UInt8} {w : Wallet} (h : decode bs = .ok w) :
    bs.head? = some RecordKind.wallet.tag := by
  unfold decode at h
  split at h
  · simp only [bind_eq_ok_iff, ensure_eq_ok, exists_const] at h
    simp [h.1.1]
  · cases h

end Wallet

/-! ## Records of any kind -/

lemma Wallet.encode_ne_nil (w : Wallet) : w.encode ≠ [] := by
  simp [encode]

lemma AuthorityMarker.encode_ne_nil (m : AuthorityMarker) : m.encode ≠ [] := by
  simp [encode]

lemma SessionRecord.encode_ne_nil (s : SessionRecord) : s.encode ≠ [] := by
  simp [encode]

namespace AuthorityMarker

@[simp] lemma decode?_encode (m : AuthorityMarker) : decode? m.encode = some m := by
  simp [decode?, encode, guard, Bytes.split?_append, Bytes.ofList?_toList]

lemma head?_of_decode? {bs : List UInt8} {m : AuthorityMarker} (h : decode? bs = some m) :
    bs.head? = some RecordKind.authority.tag := by
  unfold decode? at h
  split at h
  · rw [Option.bind_eq_bind, Option.bind_eq_some_iff] at h
    obtain ⟨_, hguard, -⟩ := h
    have htag := ((Option.guard_eq_some' _).1 hguard).1
    simp [htag]
  · cases h

end AuthorityMarker

namespace SessionRecord

@[simp] lemma decode?_encode (s : SessionRecord) : decode? s.encode = some s := by
  simp [decode?, encode, guard, Bytes.split?_append, Bytes.ofList?_bytesOfUInt64]

lemma head?_of_decode? {bs : List UInt8} {s : SessionRecord} (h : decode? bs = some s) :
    bs.head? = some RecordKind.session.tag := by
  unfold decode? at h
  split at h
  · rw [Option.bind_eq_bind, Option.bind_eq_some_iff] at h
    obtain ⟨_, hguard, -⟩ := h
    have htag := ((Option.guard_eq_some' _).1 hguard).1
    simp [htag]
  · cases h

end SessionRecord

/-- A record of any kind. -/
inductive StoredRecord
  | wallet (w : Wallet)
  | authority (m : AuthorityMarker)
  | session (s : SessionRecord)
deriving DecidableEq

namespace StoredRecord

/-- The record that some bytes hold, of the kind that their first byte tells. -/
def decode? (bs : List UInt8) : Option StoredRecord :=
  match bs.head?.map RecordKind.ofTag with
  | some (.ok .wallet) => (Wallet.decode bs).toOption.map wallet
  | some (.ok .authority) => (AuthorityMarker.decode? bs).map authority
  | some (.ok .session) => (SessionRecord.decode? bs).map session
  | _ => none

lemma decode?_eq_wallet_iff {bs : List UInt8} {w : Wallet} :
    decode? bs = some (wallet w) ↔ Wallet.decode bs = .ok w := by
  constructor
  · intro h
    unfold decode? at h
    split at h
    · cases hd : Wallet.decode bs <;> simp_all [Except.toOption]
    all_goals simp at h
  · intro h
    have hk : bs.head?.map RecordKind.ofTag = some (.ok .wallet) := by
      rw [Wallet.head?_of_decode h]
      rfl
    rw [decode?, hk]
    simp [h, Except.toOption]

lemma decode?_eq_authority_iff {bs : List UInt8} {m : AuthorityMarker} :
    decode? bs = some (authority m) ↔ AuthorityMarker.decode? bs = some m := by
  constructor
  · intro h
    unfold decode? at h
    split at h
    all_goals simp_all
  · intro h
    have hk : bs.head?.map RecordKind.ofTag = some (.ok .authority) := by
      rw [AuthorityMarker.head?_of_decode? h]
      rfl
    rw [decode?, hk]
    simp [h]

lemma decode?_eq_session_iff {bs : List UInt8} {s : SessionRecord} :
    decode? bs = some (session s) ↔ SessionRecord.decode? bs = some s := by
  constructor
  · intro h
    unfold decode? at h
    split at h
    all_goals simp_all
  · intro h
    have hk : bs.head?.map RecordKind.ofTag = some (.ok .session) := by
      rw [SessionRecord.head?_of_decode? h]
      rfl
    rw [decode?, hk]
    simp [h]

lemma not_wallet {bs : List UInt8} {r : StoredRecord} (h : decode? bs = some r)
    (hr : ∀ w, r ≠ .wallet w) (w : Wallet) : Wallet.decode bs ≠ .ok w := by
  intro hw
  rw [decode?_eq_wallet_iff.2 hw] at h
  cases h
  exact hr w rfl

lemma not_authority {bs : List UInt8} {r : StoredRecord} (h : decode? bs = some r)
    (hr : ∀ m, r ≠ .authority m) : AuthorityMarker.decode? bs = none := by
  cases hm : AuthorityMarker.decode? bs with
  | none => rfl
  | some m =>
    rw [decode?_eq_authority_iff.2 hm] at h
    cases h
    exact absurd rfl (hr m)

lemma not_session {bs : List UInt8} {r : StoredRecord} (h : decode? bs = some r)
    (hr : ∀ s, r ≠ .session s) : SessionRecord.decode? bs = none := by
  cases hs : SessionRecord.decode? bs with
  | none => rfl
  | some s =>
    rw [decode?_eq_session_iff.2 hs] at h
    cases h
    exact absurd rfl (hr s)

lemma decode?_encode_wallet {w : Wallet} (h : w.WellFormed) :
    decode? w.encode = some (wallet w) :=
  decode?_eq_wallet_iff.2 (Wallet.decode_encode h)

@[simp] lemma decode?_encode_authority (m : AuthorityMarker) :
    decode? m.encode = some (authority m) :=
  decode?_eq_authority_iff.2 m.decode?_encode

@[simp] lemma decode?_encode_session (s : SessionRecord) :
    decode? s.encode = some (session s) :=
  decode?_eq_session_iff.2 s.decode?_encode

end StoredRecord

end SmartWallet
