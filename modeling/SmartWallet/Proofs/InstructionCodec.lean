import SmartWallet.Instruction
import SmartWallet.Proofs.RecordCodec

/-!
# Reading instructions

A packed call, a batch and an enrolled credential end where their own bytes say so. Reading one
accepts exactly what writing it produces and leaves the rest, so that nothing after it can be taken
for a part of it.
-/

namespace SmartWallet

/-! ## Batches -/

lemma AccountRole.ofByte_eq_ok_iff {b : UInt8} {role : AccountRole} :
    ofByte b = .ok role ↔ b = role.toByte := by
  constructor
  · intro h
    unfold ofByte at h
    split_ifs at h with h0 h1 h2 h3
    all_goals
      cases h
      assumption
  · rintro rfl
    cases role <;> rfl

lemma AccountRole.mapM_ofByte_eq_ok_iff {bs : List UInt8} {roles : List AccountRole} :
    bs.mapM ofByte = .ok roles ↔ bs = roles.map toByte := by
  simp only [mapM_eq_ok_iff, ofByte_eq_ok_iff]
  rw [← List.forall₂_map_right_iff (R := Eq), List.forall₂_eq_eq_eq]

namespace Bytes

lemma toNat_toUInt16_eq_iff {b : Bytes 2} {n : Nat} :
    b.toUInt16.toNat = n ↔ n < 2 ^ 16 ∧ b.toList = littleEndian 2 n := by
  have hlt := ofLittleEndian_lt b.toList
  rw [b.length_toList] at hlt
  have hb : b.toUInt16.toNat = ofLittleEndian b.toList := by
    rw [toUInt16, UInt16.toNat_ofNat']
    omega
  have hread := littleEndian_ofLittleEndian b.toList
  rw [b.length_toList] at hread
  rw [hb]
  constructor
  · rintro rfl
    exact ⟨hlt, hread.symm⟩
  · rintro ⟨hn, hwrite⟩
    rw [hwrite, ofLittleEndian_littleEndian]
    omega

end Bytes

namespace PackedCall

variable {c : PackedCall} {bs rest : List UInt8}

lemma encode_eq_ok_iff : c.encode = .ok bs ↔
    c.accounts.length ≤ maxAccounts ∧ c.roles.length = c.accounts.length ∧
      c.data.length ≤ maxData ∧
      bs = c.program :: UInt8.ofNat c.accounts.length :: (c.accounts ++
        (c.roles.map AccountRole.toByte ++ (littleEndian 2 c.data.length ++ c.data))) := by
  simp only [encode, bind_eq_ok_iff, ensure_eq_ok, exists_const, pure_eq_ok_iff]
  simp [eq_comm]

/-- Reading accepts exactly what writing produces, and leaves the rest. -/
lemma read_eq_ok_iff :
    read bs = .ok (c, rest) ↔ ∃ p, c.encode = .ok p ∧ bs = p ++ rest := by
  constructor
  · intro h
    unfold read at h
    split at h
    · next program count bs =>
      simp only [bind_eq_ok_iff, orError_eq_ok_iff, pure_eq_ok_iff, Prod.exists, Prod.mk.injEq,
        splitBytes?_eq_some_iff, Bytes.split?_eq_some_iff,
        AccountRole.mapM_ofByte_eq_ok_iff] at h
      obtain ⟨accounts, _, ⟨rfl, hcount⟩, _, _, ⟨rfl, hroles⟩, length, _, rfl, roles, rfl, data, _,
        ⟨rfl, hdata⟩, rfl, rfl⟩ := h
      obtain ⟨hlt, hlength⟩ := Bytes.toNat_toUInt16_eq_iff.1 hdata.symm
      have hbyte : count.toNat < 256 := count.toNat_lt
      have hn : UInt8.ofNat accounts.length = count := by rw [hcount, UInt8.ofNat_toNat]
      refine ⟨_, encode_eq_ok_iff.2 ⟨?_, ?_, ?_, rfl⟩, ?_⟩
      · show accounts.length ≤ 255
        omega
      · show roles.length = accounts.length
        rw [hcount, ← hroles, List.length_map]
      · show data.length ≤ 65535
        omega
      · simp [hn, hlength]
    · cases h
  · rintro ⟨p, hp, rfl⟩
    obtain ⟨haccounts, hroles, hdata, rfl⟩ := encode_eq_ok_iff.1 hp
    have hcount : (UInt8.ofNat c.accounts.length).toNat = c.accounts.length := by
      rw [UInt8.toNat_ofNat']
      simp only [maxAccounts] at haccounts
      omega
    have hlength : (⟨littleEndian 2 c.data.length, length_littleEndian 2 _⟩ :
        Bytes 2).toUInt16.toNat = c.data.length :=
      Bytes.toNat_toUInt16_eq_iff.2 ⟨Nat.lt_succ_of_le hdata, rfl⟩
    simp only [List.cons_append, List.append_assoc, read, bind_eq_ok_iff, orError_eq_ok_iff,
      pure_eq_ok_iff, Prod.exists, Prod.mk.injEq, splitBytes?_eq_some_iff,
      Bytes.split?_eq_some_iff, AccountRole.mapM_ofByte_eq_ok_iff]
    exact ⟨_, _, ⟨rfl, hcount.symm⟩, _, _, ⟨rfl, by rw [List.length_map, hroles, hcount]⟩, _, _,
      rfl, _, rfl, _, _, ⟨rfl, hlength.symm⟩, rfl, rfl⟩

end PackedCall

namespace Batch

variable {calls : List PackedCall} {bs rest : List UInt8}

lemma encode_eq_ok_iff : encode calls = .ok bs ↔ calls.length ≤ maxCalls ∧
    ∃ parts, List.Forall₂ (fun c p => c.encode = .ok p) calls parts ∧
      bs = UInt8.ofNat calls.length :: parts.flatten := by
  simp only [encode, bind_eq_ok_iff, ensure_eq_ok, exists_const, mapM_eq_ok_iff, pure_eq_ok_iff]
  simp [eq_comm]

lemma length_roles_of_encode (h : encode calls = .ok bs) :
    ∀ c ∈ calls, c.roles.length = c.accounts.length := by
  obtain ⟨-, parts, hparts, -⟩ := encode_eq_ok_iff.1 h
  have hboth := hparts.imp fun c p hc => And.intro (PackedCall.encode_eq_ok_iff.1 hc).2.1 hc
  exact ((List.forall₂_and_left ..).1 hboth).1

lemma readCalls_eq_ok_iff {count : Nat} : readCalls count bs = .ok (calls, rest) ↔
    calls.length = count ∧ ∃ parts, List.Forall₂ (fun c p => c.encode = .ok p) calls parts ∧
      bs = parts.flatten ++ rest := by
  induction count generalizing calls bs with
  | zero =>
    simp only [readCalls, Except.ok.injEq, Prod.mk.injEq, List.length_eq_zero_iff]
    constructor
    · rintro ⟨rfl, rfl⟩
      exact ⟨rfl, [], .nil, rfl⟩
    · rintro ⟨rfl, parts, hparts, rfl⟩
      cases hparts
      exact ⟨rfl, rfl⟩
  | succ count ih =>
    simp only [readCalls, bind_eq_ok_iff, pure_eq_ok_iff, Prod.exists, Prod.mk.injEq,
      PackedCall.read_eq_ok_iff]
    constructor
    · rintro ⟨c, _, ⟨p, hp, rfl⟩, more, _, hmore, rfl, rfl⟩
      obtain ⟨hcount, parts, hparts, rfl⟩ := ih.1 hmore
      exact ⟨by simp [hcount], p :: parts, .cons hp hparts, by simp⟩
    · rintro ⟨hcount, parts, hparts, rfl⟩
      cases hparts with
      | nil => cases hcount
      | @cons c p more parts hp hparts =>
        have hmore : readCalls count (parts.flatten ++ rest) = .ok (more, rest) :=
          ih.2 ⟨Nat.succ_injective hcount, parts, hparts, rfl⟩
        exact ⟨c, _, ⟨p, hp, by simp⟩, more, rest, hmore, rfl, rfl⟩

/-- Reading accepts exactly what writing produces, and leaves the rest. -/
lemma read_eq_ok_iff :
    read bs = .ok (calls, rest) ↔ ∃ p, encode calls = .ok p ∧ bs = p ++ rest := by
  simp only [encode_eq_ok_iff]
  constructor
  · intro h
    cases bs with
    | nil => cases h
    | cons count bs =>
      obtain ⟨hcount, parts, hparts, rfl⟩ := readCalls_eq_ok_iff.1 h
      have hbyte : count.toNat < 256 := count.toNat_lt
      refine ⟨_, ⟨?_, parts, hparts, rfl⟩, ?_⟩
      · simp only [maxCalls]
        omega
      · rw [hcount, UInt8.ofNat_toNat, List.cons_append]
  · rintro ⟨_, ⟨hmax, parts, hparts, rfl⟩, rfl⟩
    refine readCalls_eq_ok_iff.2 ⟨?_, parts, hparts, rfl⟩
    rw [UInt8.toNat_ofNat']
    simp only [maxCalls] at hmax
    omega

/-- A batch ends where it ends. -/
lemma append_inj {calls' : List PackedCall} {p p' rest' : List UInt8} (hp : encode calls = .ok p)
    (hp' : encode calls' = .ok p') (h : p ++ rest = p' ++ rest') :
    calls = calls' ∧ rest = rest' := by
  have hread : read (p ++ rest) = .ok (calls, rest) := read_eq_ok_iff.2 ⟨p, hp, rfl⟩
  have hread' : read (p' ++ rest') = .ok (calls', rest') := read_eq_ok_iff.2 ⟨p', hp', rfl⟩
  rwa [h, hread', Except.ok.injEq, Prod.mk.injEq, eq_comm, @eq_comm _ rest'] at hread

end Batch

/-! ## Enrolled credentials -/

lemma Credential.ed25519Master?_eq_none {c : Credential} (h : c.kind.usesSecp256r1 = true) :
    c.ed25519Master? = none := by
  cases c <;> first | rfl | cases h

lemma Credential.ed25519Master?_eq_some {c : Credential} (h : c.kind.usesSecp256r1 = false) :
    ∃ key, c.ed25519Master? = some key := by
  cases c <;> first | exact ⟨_, rfl⟩ | cases h

namespace AuthorityPayload

variable {p : AuthorityPayload} {kind : AuthorityKind} {bs rest : List UInt8}

/-- The payload may be enrolled: its P-256 key is compressed, and its Ed25519 key is its seed. -/
structure WellFormed (p : AuthorityPayload) : Prop where
  compressed : p.credential.isWellFormed = true
  seed : p.credential.matchesSeed p.seed = true

lemma length_encode (p : AuthorityPayload) : p.encode.length = wireLength p.kind := by
  unfold encode wireLength
  split <;> simp [Credential.length_encode, Bytes.length_toList, kind]

lemma encode_of_usesSecp256r1 {seed : Key} {c : Credential}
    (h : c.kind.usesSecp256r1 = true) : encode ⟨seed, c⟩ = seed.toList ++ c.encode := by
  simp [encode, AuthorityPayload.kind, h]

lemma encode_of_ed25519 {seed : Key} {c : Credential} (h : c.kind.usesSecp256r1 = false) :
    encode ⟨seed, c⟩ = c.encode := by
  simp [encode, AuthorityPayload.kind, h]

/-- Reading accepts exactly what writing produces for well-formed payloads, and leaves the rest. -/
lemma read_eq_ok_iff :
    read kind bs = .ok (p, rest) ↔ p.kind = kind ∧ p.WellFormed ∧ bs = p.encode ++ rest := by
  have hlength := p.length_encode
  obtain ⟨seed, c⟩ := p
  cases hsecp : kind.usesSecp256r1 with
  | true =>
    simp only [read, hsecp, if_true, bind_eq_ok_iff, orError_eq_ok_iff, ofRecord_eq_ok_iff,
      pure_eq_ok_iff, Prod.exists, Prod.mk.injEq, AuthorityPayload.mk.injEq,
      splitBytes?_eq_some_iff, Bytes.split?_eq_some_iff, Credential.decode_eq_ok_iff]
    constructor
    · rintro ⟨_, _, ⟨rfl, -⟩, _, _, rfl, _, ⟨rfl, hwf, rfl⟩, ⟨rfl, rfl⟩, rfl⟩
      have hmaster := Credential.ed25519Master?_eq_none hsecp
      exact ⟨rfl, ⟨hwf, by simp [Credential.matchesSeed, hmaster]⟩,
        by rw [encode_of_usesSecp256r1 hsecp]⟩
    · rintro ⟨rfl, ⟨hwf, -⟩, rfl⟩
      exact ⟨_, _, ⟨rfl, hlength⟩, seed, c.encode, encode_of_usesSecp256r1 hsecp, c,
        ⟨rfl, hwf, rfl⟩, ⟨rfl, rfl⟩, rfl⟩
  | false =>
    simp only [read, hsecp, bind_eq_ok_iff, orError_eq_ok_iff, ofRecord_eq_ok_iff,
      pure_eq_ok_iff, Prod.exists, Prod.mk.injEq, AuthorityPayload.mk.injEq,
      splitBytes?_eq_some_iff, Credential.decode_eq_ok_iff, Bool.false_eq_true, if_false]
    constructor
    · rintro ⟨_, _, ⟨rfl, -⟩, _, ⟨rfl, hwf, rfl⟩, _, hmaster, ⟨rfl, rfl⟩, rfl⟩
      exact ⟨rfl, ⟨hwf, by simp [Credential.matchesSeed, hmaster]⟩,
        by rw [encode_of_ed25519 hsecp]⟩
    · rintro ⟨rfl, ⟨hwf, hseed⟩, rfl⟩
      obtain ⟨key, hkey⟩ := Credential.ed25519Master?_eq_some hsecp
      exact ⟨_, _, ⟨rfl, hlength⟩, c, ⟨rfl, hwf, encode_of_ed25519 hsecp⟩, key, hkey,
        ⟨by simpa [Credential.matchesSeed, hkey] using hseed, rfl⟩, rfl⟩

/-- A well-formed payload of a known kind ends where it ends. -/
lemma append_inj {p' : AuthorityPayload} {rest' : List UInt8} (hp : p.WellFormed)
    (hp' : p'.WellFormed) (hkind : p.kind = p'.kind)
    (h : p.encode ++ rest = p'.encode ++ rest') : p = p' ∧ rest = rest' := by
  have hread : read p'.kind (p.encode ++ rest) = .ok (p, rest) :=
    read_eq_ok_iff.2 ⟨hkind, hp, rfl⟩
  have hread' : read p'.kind (p'.encode ++ rest') = .ok (p', rest') :=
    read_eq_ok_iff.2 ⟨rfl, hp', rfl⟩
  rwa [h, hread', Except.ok.injEq, Prod.mk.injEq, eq_comm, @eq_comm _ rest'] at hread

end AuthorityPayload

/-! ## Instructions -/

namespace InstructionKind

lemma length_discriminator (kind : InstructionKind) (profile : DiscriminatorProfile) :
    (kind.discriminator profile).length = discriminatorLength profile := by
  cases profile with
  | compact => rfl
  | hashed => simp [discriminator, discriminatorLength, Bytes.length_toList]

lemma discriminator_injective (profile : DiscriminatorProfile) :
    Function.Injective fun kind : InstructionKind => kind.discriminator profile := by
  have hnodup : (Named.all.map fun kind : InstructionKind => kind.discriminator profile).Nodup := by
    cases profile <;> decide +kernel
  exact fun a b h => List.inj_on_of_nodup_map hnodup (Named.mem_all a) (Named.mem_all b) h

/-- A discriminator is read as its own kind, whatever follows it. -/
lemma split_discriminator (kind : InstructionKind) (profile : DiscriminatorProfile)
    (rest : List UInt8) :
    split profile (kind.discriminator profile ++ rest) = .ok (kind, rest) := by
  have hsome : (Named.all.find? fun k : InstructionKind =>
      k.discriminator profile == kind.discriminator profile).isSome :=
    List.find?_isSome.2 ⟨kind, Named.mem_all kind, by simp⟩
  obtain ⟨k, hk⟩ := Option.isSome_iff_exists.1 hsome
  have hkind : k = kind := discriminator_injective profile (by simpa using List.find?_some hk)
  simp only [split, bind_eq_ok_iff, orError_eq_ok_iff, pure_eq_ok_iff, Prod.exists,
    splitBytes?_eq_some_iff]
  exact ⟨_, rest, ⟨rfl, length_discriminator kind profile⟩, kind, by rw [hk, hkind], rfl⟩

/-- The position, counted after the discriminator, is one of the six that fill a header. -/
def Padding : InstructionKind → Nat → Prop
  | createWallet, i => 34 ≤ i ∧ i < 34 + 6
  | addAuthority, i => 2 ≤ i ∧ i < 2 + 6
  | _, _ => False

end InstructionKind

namespace Instruction

/-- The key material that an instruction enrols. -/
def enrolled? : Instruction → Option AuthorityPayload
  | .createWallet _ _ owner => some owner
  | .addAuthority _ authority _ => some authority
  | .transferOwnership newOwner _ => some newOwner
  | _ => none

/-- What an instruction satisfies when it has been read. -/
structure WellFormed (ix : Instruction) : Prop where
  enrolled : ∀ p, ix.enrolled? = some p → p.WellFormed
  signed : ∃ body, ix.signedBody = .ok body

lemma signed_of_body {ix : Instruction} {bs : List UInt8} (h : ix.body = .ok bs) :
    ∃ body, ix.signedBody = .ok body := by
  cases ix with
  | execute calls proof =>
    obtain ⟨batch, hbatch, -⟩ := bind_eq_ok_iff.1 h
    exact ⟨batch, hbatch⟩
  | _ => exact ⟨_, rfl⟩

section Proof

variable {ix : Instruction} {proof : List UInt8}

@[simp] lemma kind_withProof : (ix.withProof proof).kind = ix.kind := by
  cases ix <;> rfl

@[simp] lemma signedBody_withProof : (ix.withProof proof).signedBody = ix.signedBody := by
  cases ix <;> rfl

@[simp] lemma enrolled?_withProof : (ix.withProof proof).enrolled? = ix.enrolled? := by
  cases ix <;> rfl

lemma proof_withProof (h : ix.kind ≠ .createWallet) : (ix.withProof proof).proof = proof := by
  cases ix with
  | createWallet => exact absurd rfl h
  | _ => rfl

/-- Only a batch may lack wire bytes. -/
lemma exists_encode {body : List UInt8} (h : ix.signedBody = .ok body)
    (profile : DiscriminatorProfile) : ∃ data, ix.encode profile = .ok data := by
  simp only [encode, bind_eq_ok_iff, pure_eq_ok_iff]
  cases ix with
  | execute calls proof =>
    refine ⟨_, body ++ proof, ?_, rfl⟩
    simp only [Instruction.body, bind_eq_ok_iff, pure_eq_ok_iff]
    exact ⟨body, h, rfl⟩
  | _ => exact ⟨_, _, rfl, rfl⟩

end Proof

lemma readHeader_eq_ok_iff {bs rest : List UInt8} {tag second : UInt8} :
    readHeader bs = .ok (tag, second, rest) ↔
      ∃ fill, fill.length = 6 ∧ bs = [tag, second] ++ (fill ++ rest) := by
  constructor
  · intro h
    unfold readHeader at h
    split at h
    · next a b c d e f _ =>
      cases h
      exact ⟨[a, b, c, d, e, f], rfl, rfl⟩
    · cases h
  · rintro ⟨fill, hfill, rfl⟩
    match fill, hfill with
    | [a, b, c, d, e, f], _ => rfl

lemma readKind_eq_ok_iff {tag : UInt8} {kind : AuthorityKind} :
    readKind tag = .ok kind ↔ tag = kind.tag := by
  rw [readKind, ofRecord_eq_ok_iff, AuthorityKind.ofTag_eq_ok_iff]

/-- The bytes that are read are those of the instruction, apart from the padding. -/
lemma body_of_decodeBody {kind : InstructionKind} {bs : List UInt8} {ix : Instruction}
    (h : decodeBody kind bs = .ok ix) : ix.kind = kind ∧
      (∀ p, ix.enrolled? = some p → p.WellFormed) ∧
      ∃ body, ix.body = .ok body ∧ AgreeOutside kind.Padding bs body := by
  cases kind with
  | createWallet =>
    simp only [decodeBody, bind_eq_ok_iff, orError_eq_ok_iff, ensure_eq_ok, exists_const,
      pure_eq_ok_iff, Prod.exists, Bytes.split?_eq_some_iff, readHeader_eq_ok_iff,
      readKind_eq_ok_iff, AuthorityPayload.read_eq_ok_iff] at h
    obtain ⟨walletId, _, rfl, _, ownerBump, _, ⟨fill, hfill, rfl⟩, _, rfl, owner, _,
      ⟨rfl, hwf, rfl⟩, rfl, rfl⟩ := h
    refine ⟨rfl, by rintro p ⟨⟩; exact hwf, _, rfl, ?_⟩
    have hhead : (walletId.toList ++ [owner.kind.tag, ownerBump]).length = 34 := by
      simp [Bytes.length_toList]
    simp only [List.append_nil, List.append_assoc]
    rw [← List.append_assoc, ← List.append_assoc walletId.toList]
    exact (AgreeOutside.window_iff hhead List.length_replicate).2 ⟨fill, hfill, rfl⟩
  | addAuthority =>
    simp only [decodeBody, bind_eq_ok_iff, pure_eq_ok_iff, Prod.exists, readHeader_eq_ok_iff,
      readKind_eq_ok_iff, ofRecord_eq_ok_iff, Role.ofTag_eq_ok_iff,
      AuthorityPayload.read_eq_ok_iff] at h
    obtain ⟨_, _, _, ⟨fill, hfill, rfl⟩, _, rfl, role, rfl, authority, proof, ⟨rfl, hwf, rfl⟩,
      rfl⟩ := h
    refine ⟨rfl, by rintro p ⟨⟩; exact hwf, _, rfl, ?_⟩
    have hhead : [authority.kind.tag, role.tag].length = 2 := rfl
    simp only [List.append_assoc]
    exact (AgreeOutside.window_iff hhead List.length_replicate).2 ⟨fill, hfill, rfl⟩
  | removeAuthority =>
    cases h
    exact ⟨rfl, by rintro p ⟨⟩, bs, rfl, .refl bs⟩
  | transferOwnership =>
    simp only [decodeBody] at h
    split at h
    · cases h
    · simp only [bind_eq_ok_iff, pure_eq_ok_iff, Prod.exists, readKind_eq_ok_iff,
        AuthorityPayload.read_eq_ok_iff] at h
      obtain ⟨_, rfl, newOwner, proof, ⟨rfl, hwf, rfl⟩, rfl⟩ := h
      exact ⟨rfl, by rintro p ⟨⟩; exact hwf, _, rfl, .refl _⟩
  | execute =>
    simp only [decodeBody, bind_eq_ok_iff, pure_eq_ok_iff, Prod.exists, Batch.read_eq_ok_iff] at h
    obtain ⟨calls, proof, ⟨batch, hbatch, rfl⟩, rfl⟩ := h
    refine ⟨rfl, by rintro p ⟨⟩, _, ?_, .refl _⟩
    rw [body, hbatch]
    rfl
  | createSession =>
    simp only [decodeBody, bind_eq_ok_iff, orError_eq_ok_iff, pure_eq_ok_iff, Prod.exists,
      Bytes.split?_eq_some_iff] at h
    obtain ⟨sessionKey, _, rfl, expiry, proof, rfl, rfl⟩ := h
    refine ⟨rfl, by rintro p ⟨⟩, _, rfl, ?_⟩
    rw [Bytes.bytesOfUInt64_toUInt64, List.append_assoc]
    exact .refl _

/-- Only well-formed instructions are read. -/
lemma wellFormed_of_decode {profile : DiscriminatorProfile} {bs : List UInt8} {ix : Instruction}
    (h : decode profile bs = .ok ix) : ix.WellFormed := by
  simp only [decode, bind_eq_ok_iff] at h
  obtain ⟨⟨kind, rest⟩, -, hdecode⟩ := h
  obtain ⟨-, hwf, body, hbody, -⟩ := body_of_decodeBody hdecode
  exact ⟨hwf, signed_of_body hbody⟩

variable {ix : Instruction} {bs : List UInt8}

lemma readKind_tag (kind : AuthorityKind) : readKind kind.tag = .ok kind :=
  ofRecord_eq_ok_iff.2 (AuthorityKind.ofTag_tag kind)

lemma readHeader_padding (tag second : UInt8) (rest : List UInt8) :
    readHeader ([tag, second] ++ (padding ++ rest)) = .ok (tag, second, rest) := rfl

/-- What is written after the discriminator is read back, whatever the padding is, if the key
material that it enrols may be enrolled. -/
lemma decodeBody_of_agree {body : List UInt8} (hwf : ∀ p, ix.enrolled? = some p → p.WellFormed)
    (hbody : ix.body = .ok body) (hbs : AgreeOutside ix.kind.Padding bs body) :
    decodeBody ix.kind bs = .ok ix := by
  have hexact : (∀ i, ¬ix.kind.Padding i) → bs = body := fun hnone =>
    (AgreeOutside.eq_iff fun i _ => hnone i).1 hbs
  cases ix with
  | createWallet walletId ownerBump owner =>
    cases hbody
    have hhead : (walletId.toList ++ [owner.kind.tag, ownerBump]).length = 34 := by
      simp [Bytes.length_toList]
    rw [List.append_assoc _ padding] at hbs
    obtain ⟨fill, hfill, rfl⟩ := (AgreeOutside.window_iff hhead List.length_replicate).1 hbs
    simp only [decodeBody, kind, List.append_assoc, bind_eq_ok_iff, orError_eq_ok_iff, ensure_eq_ok,
      exists_const, pure_eq_ok_iff, Prod.exists, Bytes.split?_eq_some_iff, readHeader_eq_ok_iff,
      readKind_eq_ok_iff, AuthorityPayload.read_eq_ok_iff]
    exact ⟨walletId, _, rfl, _, ownerBump, _, ⟨fill, hfill, rfl⟩, _, rfl, owner, [],
      ⟨rfl, hwf owner rfl, (List.append_nil _).symm⟩, rfl, rfl⟩
  | addAuthority role authority proof =>
    cases hbody
    have hhead : [authority.kind.tag, role.tag].length = 2 := rfl
    rw [List.append_assoc, List.append_assoc] at hbs
    obtain ⟨fill, hfill, rfl⟩ := (AgreeOutside.window_iff hhead List.length_replicate).1 hbs
    simp only [decodeBody, kind, bind_eq_ok_iff, pure_eq_ok_iff, Prod.exists, readHeader_eq_ok_iff,
      readKind_eq_ok_iff, ofRecord_eq_ok_iff, Role.ofTag_eq_ok_iff, AuthorityPayload.read_eq_ok_iff]
    exact ⟨_, _, _, ⟨fill, hfill, rfl⟩, _, rfl, role, rfl, authority, proof,
      ⟨rfl, hwf authority rfl, rfl⟩, rfl⟩
  | removeAuthority proof =>
    cases hbody
    rw [hexact fun _ => id]
    rfl
  | transferOwnership newOwner proof =>
    cases hbody
    rw [hexact fun _ => id]
    simp only [decodeBody, kind, List.cons_append, bind_eq_ok_iff, pure_eq_ok_iff, Prod.exists,
      readKind_eq_ok_iff, AuthorityPayload.read_eq_ok_iff]
    exact ⟨_, rfl, newOwner, proof, ⟨rfl, hwf newOwner rfl, rfl⟩, rfl⟩
  | execute calls proof =>
    rw [hexact fun _ => id]
    simp only [Instruction.body, bind_eq_ok_iff, pure_eq_ok_iff] at hbody
    obtain ⟨batch, hbatch, rfl⟩ := hbody
    simp only [decodeBody, kind, bind_eq_ok_iff, pure_eq_ok_iff]
    exact ⟨_, Batch.read_eq_ok_iff.2 ⟨batch, hbatch, rfl⟩, rfl⟩
  | createSession sessionKey expiresAt proof =>
    cases hbody
    rw [hexact fun _ => id]
    simp only [decodeBody, kind, List.append_assoc, bind_eq_ok_iff, pure_eq_ok_iff,
      orError_eq_ok_iff]
    exact ⟨_, Bytes.split?_append sessionKey _, _, Bytes.split?_bytesOfUInt64 expiresAt proof,
      by simp⟩

/-- Bytes are read as an instruction exactly if its key material may be enrolled and they are its
body, apart from the padding. -/
theorem decodeBody_eq_ok_iff {kind : InstructionKind} : decodeBody kind bs = .ok ix ↔
    ix.kind = kind ∧ (∀ p, ix.enrolled? = some p → p.WellFormed) ∧
      ∃ body, ix.body = .ok body ∧ AgreeOutside kind.Padding bs body := by
  constructor
  · exact body_of_decodeBody
  · rintro ⟨rfl, hwf, body, hbody, hbs⟩
    exact decodeBody_of_agree hwf hbody hbs

lemma decodeBody_of_body (hwf : ∀ p, ix.enrolled? = some p → p.WellFormed)
    (h : ix.body = .ok bs) : decodeBody ix.kind bs = .ok ix :=
  decodeBody_of_agree hwf h (.refl bs)

/-- What is written is read back, if the key material that it enrols may be enrolled. -/
theorem decode_of_encode {profile : DiscriminatorProfile}
    (hwf : ∀ p, ix.enrolled? = some p → p.WellFormed) (h : ix.encode profile = .ok bs) :
    decode profile bs = .ok ix := by
  simp only [encode, bind_eq_ok_iff, pure_eq_ok_iff] at h
  obtain ⟨body, hbody, rfl⟩ := h
  simp only [decode, bind_eq_ok_iff]
  exact ⟨_, InstructionKind.split_discriminator _ _ _, decodeBody_of_body hwf hbody⟩

/-- A signature covers the same of whatever is read from the written bytes. -/
theorem signedBody_of_decode {profile : DiscriminatorProfile} {ix' : Instruction}
    (h : ix.encode profile = .ok bs) (h' : decode profile bs = .ok ix') :
    ix'.kind = ix.kind ∧ ix'.signedBody = ix.signedBody := by
  simp only [encode, bind_eq_ok_iff, pure_eq_ok_iff] at h
  obtain ⟨body, hbody, rfl⟩ := h
  simp only [decode, InstructionKind.split_discriminator, bind_eq_ok_iff, Except.ok.injEq,
    exists_eq_left'] at h'
  cases ix with
  | createWallet walletId ownerBump owner =>
    cases hbody
    simp only [decodeBody, kind, bind_eq_ok_iff, ensure_eq_ok, exists_const,
      pure_eq_ok_iff] at h'
    obtain ⟨_, _, _, _, _, _, _, _, _, rfl⟩ := h'
    exact ⟨rfl, rfl⟩
  | addAuthority role authority proof =>
    cases hbody
    simp only [decodeBody, kind, List.append_assoc, readHeader_padding, readKind_tag,
      bind_eq_ok_iff, Except.ok.injEq, exists_eq_left', pure_eq_ok_iff, ofRecord_eq_ok_iff,
      Role.ofTag_tag] at h'
    obtain ⟨⟨authority', proof'⟩, hread, rfl⟩ := h'
    obtain ⟨hkind, -, hbytes⟩ := AuthorityPayload.read_eq_ok_iff.1 hread
    have hencode : authority.encode = authority'.encode := by
      refine (List.append_inj hbytes ?_).1
      rw [AuthorityPayload.length_encode, AuthorityPayload.length_encode, hkind]
    exact ⟨rfl, by simp only [signedBody, hkind, hencode]⟩
  | removeAuthority proof =>
    cases hbody
    cases h'
    exact ⟨rfl, rfl⟩
  | transferOwnership newOwner proof =>
    cases hbody
    simp only [decodeBody, kind, List.cons_append, readKind_tag, bind_eq_ok_iff, Except.ok.injEq,
      exists_eq_left', pure_eq_ok_iff] at h'
    obtain ⟨⟨newOwner', proof'⟩, hread, rfl⟩ := h'
    obtain ⟨hkind, -, hbytes⟩ := AuthorityPayload.read_eq_ok_iff.1 hread
    have hencode : newOwner.encode = newOwner'.encode := by
      refine (List.append_inj hbytes ?_).1
      rw [AuthorityPayload.length_encode, AuthorityPayload.length_encode, hkind]
    exact ⟨rfl, by simp only [signedBody, hkind, hencode]⟩
  | execute calls proof =>
    have hread : decodeBody .execute _ = .ok (.execute calls proof) :=
      decodeBody_of_body (by rintro p ⟨⟩) hbody
    rw [kind, hread, Except.ok.injEq] at h'
    subst h'
    exact ⟨rfl, rfl⟩
  | createSession sessionKey expiresAt proof =>
    have hread : decodeBody .createSession _ = .ok (.createSession sessionKey expiresAt proof) :=
      decodeBody_of_body (by rintro p ⟨⟩) hbody
    rw [kind, hread, Except.ok.injEq] at h'
    subst h'
    exact ⟨rfl, rfl⟩

end Instruction

end SmartWallet
