import SmartWallet.Proofs.InstructionCodec

/-!
# The grammar of instructions

The bytes that are read as a given instruction are those written for it, whatever stands in the
padding of its header. Nothing but a batch of calls can fail to be written, and `Batch.Refused` says
of which batches that is true and with which error.
-/

namespace SmartWallet

/-! ## What has no bytes -/

/-- Why a packed call has no bytes: one of its lengths does not fit its field, or its roles are not
those of its accounts. -/
inductive PackedCall.Refused (c : PackedCall) : ProgramError → Prop
  | accounts (h : 255 < c.accounts.length) : c.Refused .tooManyAccounts
  | roles (hfit : c.accounts.length ≤ 255) (h : c.roles.length ≠ c.accounts.length) :
    c.Refused .malformedInstruction
  | data (hfit : c.accounts.length ≤ 255) (h : 65535 < c.data.length) :
    c.Refused .malformedInstruction

lemma PackedCall.encode_eq_error_iff {c : PackedCall} {e : ProgramError} :
    c.encode = .error e ↔ c.Refused e := by
  simp only [encode, bind_eq_error_iff, ensure_eq_error_iff, ensure_eq_ok, exists_const]
  simp only [not_le, maxAccounts, maxData]
  constructor
  · rintro (⟨h, rfl⟩ | ⟨hfit, ⟨h, rfl⟩ | ⟨-, ⟨h, rfl⟩ | ⟨-, ⟨⟩⟩⟩⟩)
    · exact .accounts h
    · exact .roles hfit h
    · exact .data hfit h
  · rintro (h | ⟨hfit, h⟩ | ⟨hfit, h⟩)
    · exact .inl ⟨h, rfl⟩
    · exact .inr ⟨hfit, .inl ⟨h, rfl⟩⟩
    · by_cases hroles : c.roles.length = c.accounts.length
      · exact .inr ⟨hfit, .inr ⟨hroles, .inl ⟨h, rfl⟩⟩⟩
      · exact .inr ⟨hfit, .inl ⟨hroles, rfl⟩⟩

lemma PackedCall.exists_encode_iff {c : PackedCall} :
    (∃ bs, c.encode = .ok bs) ↔ ∀ e, ¬c.Refused e := by
  simp only [← encode_eq_error_iff]
  cases c.encode <;> simp

/-- Why a batch has no bytes: it has too many calls, or the first of them that has no bytes has
none for this reason. -/
inductive Batch.Refused (calls : List PackedCall) : ProgramError → Prop
  | count (h : 255 < calls.length) : Refused calls .tooManyInstructions
  | call (hfit : calls.length ≤ 255) {before after : List PackedCall} {c : PackedCall}
    {e : ProgramError} (hsplit : calls = before ++ c :: after)
    (hbefore : ∀ b ∈ before, ∀ e, ¬b.Refused e) (h : c.Refused e) : Refused calls e

lemma Batch.encode_eq_error_iff {calls : List PackedCall} {e : ProgramError} :
    encode calls = .error e ↔ Refused calls e := by
  simp only [encode, bind_eq_error_iff, ensure_eq_error_iff, ensure_eq_ok, exists_const,
    mapM_eq_error_iff, PackedCall.encode_eq_error_iff, PackedCall.exists_encode_iff]
  simp only [not_le, maxCalls]
  constructor
  · rintro (⟨h, rfl⟩ | ⟨hfit, ⟨before, c, after, hsplit, hbefore, h⟩ | ⟨_, _, ⟨⟩⟩⟩)
    · exact .count h
    · exact .call hfit hsplit hbefore h
  · rintro (h | ⟨hfit, hsplit, hbefore, h⟩)
    · exact .inl ⟨h, rfl⟩
    · exact .inr ⟨hfit, .inl ⟨_, _, _, hsplit, hbefore, h⟩⟩

/-- The lengths of a packed call fit their fields. -/
structure PackedCall.Fits (c : PackedCall) : Prop where
  accounts : c.accounts.length ≤ 255
  roles : c.roles.length = c.accounts.length
  data : c.data.length ≤ 65535

lemma PackedCall.fits_iff {c : PackedCall} : c.Fits ↔ ∀ e, ¬c.Refused e := by
  constructor
  · rintro ⟨haccounts, hroles, hdata⟩ e (h | ⟨-, h⟩ | ⟨-, h⟩)
    · omega
    · exact h hroles
    · omega
  · intro h
    have haccounts : c.accounts.length ≤ 255 := not_lt.1 fun hlong => h _ (.accounts hlong)
    exact ⟨haccounts, not_not.1 fun hroles => h _ (.roles haccounts hroles),
      not_lt.1 fun hlong => h _ (.data haccounts hlong)⟩

lemma Batch.exists_encode_iff {calls : List PackedCall} :
    (∃ bs, encode calls = .ok bs) ↔ calls.length ≤ 255 ∧ ∀ c ∈ calls, c.Fits := by
  constructor
  · rintro ⟨bs, h⟩
    obtain ⟨hmany, parts, hparts, -⟩ := encode_eq_ok_iff.1 h
    refine ⟨hmany, fun c hc => PackedCall.fits_iff.2 (PackedCall.exists_encode_iff.1 ?_)⟩
    obtain ⟨p, -, hp⟩ := exists_of_forall₂ hparts hc
    exact ⟨p, hp⟩
  · rintro ⟨hmany, hfits⟩
    cases h : encode calls with
    | ok bs => exact ⟨bs, rfl⟩
    | error e =>
      rcases encode_eq_error_iff.1 h with hlong | ⟨-, rfl, -, hrefused⟩
      · omega
      · exact absurd hrefused (PackedCall.fits_iff.1 (hfits _ (by simp)) e)

/-! ## What nothing reads -/

namespace InstructionKind

variable {kind : InstructionKind} {profile : DiscriminatorProfile} {bs rest : List UInt8}

lemma split_eq_ok_iff :
    split profile bs = .ok (kind, rest) ↔ bs = kind.discriminator profile ++ rest := by
  constructor
  · intro h
    simp only [split, bind_eq_ok_iff, orError_eq_ok_iff, pure_eq_ok_iff, Prod.exists,
      Prod.mk.injEq, splitBytes?_eq_some_iff] at h
    obtain ⟨tag, _, ⟨rfl, -⟩, _, hfind, rfl, rfl⟩ := h
    have htag := List.find?_some hfind
    rw [beq_iff_eq.1 htag]
  · rintro rfl
    exact split_discriminator kind profile rest

/-- The position is one of the padding of the instruction's header. -/
def Reserved (kind : InstructionKind) (profile : DiscriminatorProfile) (i : Nat) : Prop :=
  ∃ j, kind.Padding j ∧ i = j + discriminatorLength profile

lemma agreeOutside_append_iff {body : List UInt8} :
    AgreeOutside (kind.Reserved profile) bs (kind.discriminator profile ++ body) ↔
      ∃ rest, bs = kind.discriminator profile ++ rest ∧ AgreeOutside kind.Padding rest body := by
  have hlength := kind.length_discriminator profile
  have hhead : ∀ p, AgreeOutside (kind.Reserved profile) p (kind.discriminator profile) ↔
      p = kind.discriminator profile := by
    refine fun p => AgreeOutside.eq_iff ?_
    rintro i hi ⟨j, -, rfl⟩
    omega
  have htail : ∀ r, AgreeOutside
      (fun i => kind.Reserved profile (i + (kind.discriminator profile).length)) r body ↔
        AgreeOutside kind.Padding r body := by
    refine fun r => AgreeOutside.congr fun i _ => ?_
    rw [hlength]
    constructor
    · rintro ⟨j, hj, heq⟩
      rwa [Nat.add_right_cancel heq]
    · exact fun hi => ⟨i, hi, rfl⟩
  simp only [AgreeOutside.append_iff, hhead, htail]
  constructor
  · rintro ⟨_, rest, rfl, rfl, hrest⟩
    exact ⟨rest, rfl, hrest⟩
  · rintro ⟨rest, rfl, hrest⟩
    exact ⟨_, rest, rfl, rfl, hrest⟩

end InstructionKind

namespace Instruction

variable {ix : Instruction} {profile : DiscriminatorProfile} {bs : List UInt8}

lemma encode_eq_ok_iff : ix.encode profile = .ok bs ↔
    ∃ body, ix.body = .ok body ∧ bs = ix.kind.discriminator profile ++ body := by
  simp only [encode, bind_eq_ok_iff, pure_eq_ok_iff, eq_comm (b := bs)]

lemma decode_eq_ok_iff : decode profile bs = .ok ix ↔
    (∀ p, ix.enrolled? = some p → p.WellFormed) ∧ ∃ encoded, ix.encode profile = .ok encoded ∧
      AgreeOutside (ix.kind.Reserved profile) bs encoded := by
  simp only [decode, bind_eq_ok_iff, Prod.exists, InstructionKind.split_eq_ok_iff,
    decodeBody_eq_ok_iff, encode_eq_ok_iff]
  constructor
  · rintro ⟨_, rest, rfl, rfl, hwf, body, hbody, hrest⟩
    exact ⟨hwf, _, ⟨body, hbody, rfl⟩,
      InstructionKind.agreeOutside_append_iff.2 ⟨rest, rfl, hrest⟩⟩
  · rintro ⟨hwf, _, ⟨body, hbody, rfl⟩, hbs⟩
    obtain ⟨rest, rfl, hrest⟩ := InstructionKind.agreeOutside_append_iff.1 hbs
    exact ⟨ix.kind, rest, rfl, rfl, hwf, body, hbody, hrest⟩

lemma encode_eq_error_iff {e : ProgramError} : ix.encode profile = .error e ↔
    ∃ calls proof, ix = .execute calls proof ∧ Batch.Refused calls e := by
  simp only [encode, bind_eq_error_iff]
  cases ix with
  | execute calls proof =>
    simp [body, bind_eq_error_iff, Batch.encode_eq_error_iff, Pure.pure, Except.pure]
  | _ => simp [body, Pure.pure, Except.pure]

lemma padding_of_body {body : List UInt8} {i : Nat} (h : ix.body = .ok body)
    (hi : ix.kind.Padding i) : body[i]? = some 0 := by
  have hfill : ∀ {k} {cs es : List UInt8}, cs.length = k → k ≤ i ∧ i < k + 6 →
      (cs ++ (padding ++ es))[i]? = some 0 := by
    rintro _ cs es rfl ⟨hge, hlt⟩
    have hin : i - cs.length < padding.length := by
      rw [padding, List.length_replicate]
      omega
    rw [List.getElem?_append_right hge, List.getElem?_append_left hin, padding,
      List.getElem?_replicate_of_lt (by omega)]
  cases ix with
  | createWallet walletId ownerBump owner =>
    cases h
    rw [List.append_assoc _ padding]
    exact hfill (by simp [Bytes.length_toList]) hi
  | addAuthority role authority proof =>
    cases h
    rw [List.append_assoc, List.append_assoc]
    exact hfill rfl hi
  | _ => exact hi.elim

lemma padding_of_encode {i : Nat} (h : ix.encode profile = .ok bs)
    (hi : ix.kind.Reserved profile i) : bs[i]? = some 0 := by
  obtain ⟨body, hbody, rfl⟩ := encode_eq_ok_iff.1 h
  obtain ⟨j, hj, rfl⟩ := hi
  rw [← ix.kind.length_discriminator profile, List.getElem?_append_right (Nat.le_add_left ..),
    Nat.add_sub_cancel, padding_of_body hbody hj]

/-- Writing fails for batches of calls only, as `Batch.Refused` says, and what is written is read
back; what is read is written, with zeros for the padding, and has bytes to be signed. -/
theorem codec_exact (profile : DiscriminatorProfile) :
    (∀ ix : Instruction, (∀ p, ix.enrolled? = some p → p.WellFormed) →
      (∀ e, ix.encode profile = .error e ↔
        ∃ calls proof, ix = .execute calls proof ∧ Batch.Refused calls e) ∧
      ∀ bs, ix.encode profile = .ok bs → decode profile bs = .ok ix) ∧
    ∀ bs ix, decode profile bs = .ok ix →
      ∃ encoded body, ix.encode profile = .ok encoded ∧ ix.signedBody = .ok body ∧
        AgreeOutside (ix.kind.Reserved profile) encoded bs ∧
        ∀ i, ix.kind.Reserved profile i → encoded[i]? = some 0 := by
  constructor
  · exact fun ix hwf => ⟨fun e => encode_eq_error_iff, fun bs => decode_of_encode hwf⟩
  · intro bs ix h
    obtain ⟨-, encoded, hencoded, hbs⟩ := decode_eq_ok_iff.1 h
    obtain ⟨body, hbody⟩ := (wellFormed_of_decode h).signed
    exact ⟨encoded, body, hencoded, hbody, hbs.symm, fun i => padding_of_encode hencoded⟩

end Instruction

namespace Sample

/-- Adds a spender, with a proof of one byte. -/
def spending : Instruction := .addAuthority .spender (.ofKey (.replicate 32 2)) [7]

/-- The same with nines for the padding. -/
def paddedSpending : List UInt8 :=
  [1, 0, 2] ++ List.replicate 6 9 ++ List.replicate 32 2 ++ [7]

/-- A call more than a batch holds. -/
def overfull : Instruction := .execute (List.replicate 256 ⟨0, [], [], []⟩) []

theorem spending_rewritten :
    overfull.encode .hashed = .error .tooManyInstructions ∧
      Instruction.decode .compact paddedSpending = .ok spending ∧
      ∃ encoded, spending.encode .compact = .ok encoded ∧ encoded.length = 42 ∧
        encoded[3]? = some 0 ∧ encoded[9]? = some 2 ∧
        Instruction.decode .compact encoded = .ok spending := by
  have hover := ((Instruction.codec_exact .hashed).1 overfull nofun).1 .tooManyInstructions
  have hwf : ∀ p, spending.enrolled? = some p → p.WellFormed := by
    rintro p ⟨⟩
    exact ⟨rfl, rfl⟩
  have hread : Instruction.decode .compact paddedSpending = .ok spending := by decide +kernel
  obtain ⟨encoded, _, hencoded, -, hagree, hzero⟩ :=
    (Instruction.codec_exact .compact).2 paddedSpending spending hread
  have hback := ((Instruction.codec_exact .compact).1 spending hwf).2 encoded hencoded
  have hmany : 255 < (List.replicate 256 (⟨0, [], [], []⟩ : PackedCall)).length := by
    rw [List.length_replicate]
    decide
  refine ⟨hover.2 ⟨_, _, rfl, .count hmany⟩, hread, encoded, hencoded, hagree.length,
    hzero 3 ⟨2, ⟨Nat.le_refl 2, by decide⟩, rfl⟩, ?_, hback⟩
  refine (hagree.agree 9 ?_).trans rfl
  rintro ⟨j, ⟨-, hj⟩, heq⟩
  simp only [InstructionKind.discriminatorLength] at heq
  omega

end Sample

end SmartWallet
