import SmartWallet.Proofs.InstructionGrammar

/-!
# Bytes that are cut short, and bytes that go on

Whatever is read has its length in its own first bytes, and this is checked before anything else. So
a batch or an instruction that is cut short is malformed wherever the cut is, and what follows a
whole one is left to the reader of the rest: it becomes the proof of the instruction, unless this is
the creation of a wallet, which has none.
-/

namespace SmartWallet

/-- The first string is the second one, cut short. -/
structure Cut (q p : List UInt8) : Prop where
  starts : q <+: p
  ne : q ≠ p

namespace Cut

variable {p q s : List UInt8}

lemma length_lt (h : Cut q p) : q.length < p.length :=
  lt_of_le_of_ne h.starts.length_le fun hlength => h.ne (h.starts.eq_of_length hlength)

lemma not_nil : ¬Cut q [] := fun h => absurd h.length_lt (Nat.not_lt_zero _)

lemma exists_append (h : Cut q p) : ∃ s, s ≠ [] ∧ q ++ s = p := by
  obtain ⟨s, rfl⟩ := h.starts
  exact ⟨s, fun hs => h.ne (by rw [hs, List.append_nil]), rfl⟩

/-- Two strings in a row are cut in the first or in the second. -/
lemma of_append (h : Cut q (p ++ s)) : Cut q p ∨ ∃ r, q = p ++ r ∧ Cut r s := by
  rcases List.prefix_or_prefix_of_prefix h.starts (List.prefix_append p s) with hq | ⟨r, rfl⟩
  · by_cases heq : q = p
    · subst heq
      refine .inr ⟨[], (List.append_nil q).symm, List.nil_prefix, fun hs => h.ne ?_⟩
      rw [← hs, List.append_nil]
    · exact .inl ⟨hq, heq⟩
  · exact .inr ⟨r, rfl, (List.prefix_append_right_inj p).1 h.starts, fun hs => h.ne (by rw [hs])⟩

end Cut

lemma Bytes.split?_of_cut {n : Nat} {b : Bytes n} {q : List UInt8} (h : Cut q b.toList) :
    split? n q = none :=
  split?_eq_none_iff.2 (h.length_lt.trans_eq b.length_toList)

lemma splitBytes?_of_length_lt {n : Nat} {bs : List UInt8} (h : bs.length < n) :
    splitBytes? n bs = none := by
  have hne : (bs.take n).length ≠ n := by
    rw [List.length_take]
    omega
  rw [splitBytes?, if_neg hne]

/-! ## Batches -/

namespace Batch

variable {calls : List PackedCall} {bs p q : List UInt8}

lemma failsBy_ofByte (b : UInt8) : FailsBy .malformedInstruction (AccountRole.ofByte b) := by
  unfold AccountRole.ofByte
  split_ifs
  case neg => exact failsBy_error
  all_goals exact failsBy_ok

lemma failsBy_readCall : FailsBy .malformedInstruction (PackedCall.read bs) := by
  unfold PackedCall.read
  split
  · refine failsBy_orError.bind fun _ => ?_
    refine failsBy_orError.bind fun _ => ?_
    refine failsBy_orError.bind fun _ => ?_
    refine (failsBy_mapM failsBy_ofByte).bind fun _ => ?_
    exact failsBy_orError.bind fun _ => failsBy_ok
  · exact failsBy_error

lemma failsBy_readCalls {count : Nat} : FailsBy .malformedInstruction (readCalls count bs) := by
  induction count generalizing bs with
  | zero => exact failsBy_ok
  | succ count ih => exact failsBy_readCall.bind fun _ => ih.bind fun _ => failsBy_ok

lemma failsBy_read : FailsBy .malformedInstruction (read bs) := by
  cases bs with
  | nil => exact failsBy_error
  | cons count bs => exact failsBy_readCalls

/-- What a batch is cut to does not hold another one: that one would end before the cut. -/
lemma read_of_cut (hp : encode calls = .ok p) (h : Cut q p) :
    read q = .error .malformedInstruction := by
  refine failsBy_read.eq_error fun r hr => ?_
  obtain ⟨calls', rest⟩ := r
  obtain ⟨p', hp', rfl⟩ := read_eq_ok_iff.1 hr
  obtain ⟨s, hs, happend⟩ := h.exists_append
  have hwhole : p ++ [] = p' ++ (rest ++ s) := by
    rw [← happend, List.append_nil, List.append_assoc]
  obtain ⟨-, hrest⟩ := append_inj hp hp' hwhole
  exact hs (List.append_eq_nil_iff.1 hrest.symm).2

/-- A batch is read from its own bytes and from no others, whatever follows them, and from nothing
that they are cut to. -/
theorem form_canonical :
    (∀ bs calls rest, read bs = .ok (calls, rest) → ∃ p, encode calls = .ok p ∧ bs = p ++ rest) ∧
    (∀ calls p rest, encode calls = .ok p → read (p ++ rest) = .ok (calls, rest)) ∧
    ∀ calls p q, encode calls = .ok p → q <+: p → q ≠ p →
      read q = .error .malformedInstruction := by
  refine ⟨fun bs calls rest => read_eq_ok_iff.1, fun calls p rest hp => ?_, ?_⟩
  · exact read_eq_ok_iff.2 ⟨p, hp, rfl⟩
  · exact fun calls p q hp hstarts hne => read_of_cut hp ⟨hstarts, hne⟩

end Batch

namespace Sample

/-- Two calls, the second one without accounts and without data. -/
def twoCalls : List PackedCall := [⟨5, [6], [.writableSigner], [9]⟩, ⟨7, [], [], []⟩]

def twoCallBytes : List UInt8 := [2, 5, 1, 6, 3, 1, 0, 9, 7, 0, 0, 0]

theorem two_calls_read :
    Batch.encode twoCalls = .ok twoCallBytes ∧
      Batch.read (twoCallBytes ++ [8]) = .ok (twoCalls, [8]) ∧
      (∃ p, Batch.encode twoCalls = .ok p ∧ twoCallBytes ++ [8] = p ++ [8]) ∧
      Batch.read (twoCallBytes.take 8) = .error .malformedInstruction := by
  have hencode : Batch.encode twoCalls = .ok twoCallBytes := by decide +kernel
  obtain ⟨hwritten, hread, hcut⟩ := Batch.form_canonical
  have hback := hread twoCalls twoCallBytes [8] hencode
  exact ⟨hencode, hback, hwritten _ _ _ hback,
    hcut twoCalls twoCallBytes _ hencode (List.take_prefix 8 _) (by decide)⟩

end Sample

/-! ## Instructions -/

section Enrolment

variable {p : AuthorityPayload} {q r : List UInt8} {tag second : UInt8}

lemma AuthorityPayload.read_of_cut (h : Cut q p.encode) :
    read p.kind q = .error .malformedInstruction := by
  have hshort : q.length < wireLength p.kind := h.length_lt.trans_eq p.length_encode
  rw [read, splitBytes?_of_length_lt hshort]
  rfl

namespace Instruction

/-- A header with what it announces is cut in the header or after it. -/
lemma readHeader_of_cut (h : Cut r ([tag, second] ++ (padding ++ q))) :
    readHeader r = .error .malformedInstruction ∨
      ∃ s, readHeader r = .ok (tag, second, s) ∧ Cut s q := by
  rw [← List.append_assoc] at h
  rcases h.of_append with hhead | ⟨s, rfl, hs⟩
  · have hshort : r.length < 8 := hhead.length_lt
    refine .inl ?_
    unfold readHeader
    split
    · simp only [List.length_cons] at hshort
      omega
    · rfl
  · rw [List.append_assoc]
    exact .inr ⟨s, readHeader_padding tag second s, hs⟩

end Instruction

end Enrolment

namespace Instruction

variable {ix : Instruction} {profile : DiscriminatorProfile} {body bs q t : List UInt8}

lemma body_execute_nil (calls : List PackedCall) :
    (execute calls []).body = Batch.encode calls := by
  rw [Instruction.body]
  cases Batch.encode calls with
  | error e => rfl
  | ok batch => exact congrArg Except.ok (List.append_nil batch)

/-- The length of each part is checked before anything in it, so that a cut in it is found first. -/
lemma decodeBody_of_cut (hproof : ix.proof = []) (hbody : ix.body = .ok body) (h : Cut q body) :
    decodeBody ix.kind q = .error .malformedInstruction := by
  cases ix with
  | createWallet walletId ownerBump owner =>
    cases hbody
    simp only [List.append_assoc] at h
    rcases h.of_append with hid | ⟨r, rfl, hr⟩
    · exact bind_of_error (orError_eq_error_iff.2 ⟨Bytes.split?_of_cut hid, rfl⟩)
    · refine bind_of_ok (orError_eq_ok_iff.2 (Bytes.split?_append _ r)) ?_
      rcases readHeader_of_cut hr with hheader | ⟨s, hheader, hs⟩
      · exact bind_of_error hheader
      · refine bind_of_ok hheader ?_
        refine bind_of_ok (readKind_tag _) ?_
        exact bind_of_error (AuthorityPayload.read_of_cut hs)
  | addAuthority role authority proof =>
    obtain rfl : proof = [] := hproof
    cases hbody
    simp only [List.append_assoc, List.append_nil] at h
    rcases readHeader_of_cut h with hheader | ⟨s, hheader, hs⟩
    · exact bind_of_error hheader
    · refine bind_of_ok hheader ?_
      refine bind_of_ok (readKind_tag _) ?_
      refine bind_of_ok (ofRecord_eq_ok_iff.2 (Role.ofTag_tag role)) ?_
      exact bind_of_error (AuthorityPayload.read_of_cut hs)
  | removeAuthority proof =>
    obtain rfl : proof = [] := hproof
    cases hbody
    exact (Cut.not_nil h).elim
  | transferOwnership newOwner proof =>
    obtain rfl : proof = [] := hproof
    cases hbody
    rw [List.append_nil, ← List.singleton_append] at h
    rcases h.of_append with htag | ⟨s, rfl, hs⟩
    · have hnil : q = [] := List.length_eq_zero_iff.1 (Nat.lt_one_iff.1 htag.length_lt)
      rw [hnil]
      rfl
    · refine bind_of_ok (readKind_tag _) ?_
      exact bind_of_error (AuthorityPayload.read_of_cut hs)
  | execute calls proof =>
    obtain rfl : proof = [] := hproof
    rw [body_execute_nil] at hbody
    exact bind_of_error (Batch.read_of_cut hbody h)
  | createSession sessionKey expiresAt proof =>
    obtain rfl : proof = [] := hproof
    cases hbody
    rw [List.append_nil] at h
    rcases h.of_append with hkey | ⟨s, rfl, hs⟩
    · exact bind_of_error (orError_eq_error_iff.2 ⟨Bytes.split?_of_cut hkey, rfl⟩)
    · have hexpiry : Bytes.split? 8 s = none := Bytes.split?_eq_none_iff.2
        (hs.length_lt.trans_eq (length_littleEndian 8 _))
      refine bind_of_ok (orError_eq_ok_iff.2 (Bytes.split?_append _ s)) ?_
      exact bind_of_error (orError_eq_error_iff.2 ⟨hexpiry, rfl⟩)

theorem decode_of_cut (hproof : ix.proof = []) (hbs : ix.encode profile = .ok bs) (h : Cut q bs) :
    decode profile q = .error .malformedInstruction := by
  obtain ⟨body, hbody, rfl⟩ := encode_eq_ok_iff.1 hbs
  rcases h.of_append with htag | ⟨s, rfl, hs⟩
  · have hshort : q.length < InstructionKind.discriminatorLength profile :=
      htag.length_lt.trans_eq (ix.kind.length_discriminator profile)
    rw [decode, InstructionKind.split, splitBytes?_of_length_lt hshort]
    rfl
  · refine bind_of_ok (InstructionKind.split_discriminator _ _ s) ?_
    exact decodeBody_of_cut hproof hbody hs

/-! ### What goes on -/

lemma body_withProof (hproof : ix.proof = []) (hkind : ix.kind ≠ .createWallet)
    (hbody : ix.body = .ok body) : (ix.withProof t).body = .ok (body ++ t) := by
  cases ix with
  | createWallet => exact absurd rfl hkind
  | execute calls proof =>
    obtain rfl : proof = [] := hproof
    rw [body_execute_nil] at hbody
    exact bind_eq_ok_iff.2 ⟨body, hbody, rfl⟩
  | _ =>
    obtain rfl := hproof
    cases hbody
    simp [withProof, Instruction.body]

lemma encode_withProof (hproof : ix.proof = []) (hkind : ix.kind ≠ .createWallet)
    (hbs : ix.encode profile = .ok bs) : (ix.withProof t).encode profile = .ok (bs ++ t) := by
  obtain ⟨body, hbody, rfl⟩ := encode_eq_ok_iff.1 hbs
  refine encode_eq_ok_iff.2 ⟨_, body_withProof hproof hkind hbody, ?_⟩
  rw [kind_withProof, List.append_assoc]

/-- The owner of a new wallet is read to its end, and nothing may stand after it. -/
lemma decode_createWallet_append (hwf : ∀ p, ix.enrolled? = some p → p.WellFormed)
    (hkind : ix.kind = .createWallet) (hbs : ix.encode profile = .ok bs) (ht : t ≠ []) :
    decode profile (bs ++ t) = .error .invalidAuthorityData := by
  obtain ⟨body, hbody, rfl⟩ := encode_eq_ok_iff.1 hbs
  cases ix with
  | createWallet walletId ownerBump owner =>
    cases hbody
    simp only [List.append_assoc]
    have howner : AuthorityPayload.read owner.kind (owner.encode ++ t) = .ok (owner, t) :=
      AuthorityPayload.read_eq_ok_iff.2 ⟨rfl, hwf owner rfl, rfl⟩
    refine bind_of_ok (InstructionKind.split_discriminator _ _ _) ?_
    refine bind_of_ok (orError_eq_ok_iff.2 (Bytes.split?_append _ _)) ?_
    refine bind_of_ok (readHeader_padding _ _ _) ?_
    refine bind_of_ok (readKind_tag _) ?_
    refine bind_of_ok howner ?_
    exact bind_of_error (ensure_eq_error_iff.2 ⟨ht, rfl⟩)
  | _ => cases hkind

/-- An instruction without a proof is read from its own bytes. What they are cut to is malformed,
and what follows them is the proof; the creation of a wallet has none, and nothing may follow it. -/
theorem tail_is_proof (profile : DiscriminatorProfile) (ix : Instruction)
    (hpayload : ∀ p, ix.enrolled? = some p →
      ∃ kind bs rest, AuthorityPayload.read kind bs = .ok (p, rest))
    (hbatch : ∀ calls proof, ix = .execute calls proof →
      calls.length ≤ 255 ∧ ∀ c ∈ calls, c.Fits)
    (hproof : ix.proof = []) :
    ∃ encoded, ix.encode profile = .ok encoded ∧ decode profile encoded = .ok ix ∧
      (∀ q, q <+: encoded → q ≠ encoded → decode profile q = .error .malformedInstruction) ∧
      ∀ t, t ≠ [] → decode profile (encoded ++ t) =
        if ix.kind = .createWallet then .error .invalidAuthorityData else .ok (ix.withProof t) := by
  have hwf : ∀ p, ix.enrolled? = some p → p.WellFormed := by
    intro p hp
    obtain ⟨_, _, _, hread⟩ := hpayload p hp
    exact (AuthorityPayload.read_eq_ok_iff.1 hread).2.1
  have hsigned : ∃ body, ix.signedBody = .ok body := by
    cases ix with
    | execute calls proof => exact Batch.exists_encode_iff.2 (hbatch calls proof rfl)
    | _ => exact ⟨_, rfl⟩
  obtain ⟨body, hbody⟩ := hsigned
  obtain ⟨encoded, hencoded⟩ := exists_encode hbody profile
  refine ⟨encoded, hencoded, decode_of_encode hwf hencoded, ?_, ?_⟩
  · exact fun q hstarts hne => decode_of_cut hproof hencoded ⟨hstarts, hne⟩
  · intro t ht
    split_ifs with hkind
    · exact decode_createWallet_append hwf hkind hencoded ht
    · refine decode_of_encode ?_ (encode_withProof hproof hkind hencoded)
      rwa [enrolled?_withProof]

end Instruction

namespace Sample

/-- The addition of a spender, before it is signed. -/
def unsignedSpending : Instruction := .addAuthority .spender (.ofKey (.replicate 32 2)) []

/-- The creation of a wallet with an Ed25519 owner. -/
def keyFounding : Instruction := .createWallet (.replicate 32 1) 254 (.ofKey (.replicate 32 2))

theorem spending_cut_and_signed :
    (∃ encoded, unsignedSpending.encode .compact = .ok encoded ∧
      Instruction.decode .compact (encoded.take 30) = .error .malformedInstruction ∧
      Instruction.decode .compact (encoded ++ [7]) = .ok spending) ∧
    ∃ encoded, keyFounding.encode .hashed = .ok encoded ∧
      Instruction.decode .hashed (encoded.take 7) = .error .malformedInstruction ∧
      Instruction.decode .hashed (encoded ++ [7]) = .error .invalidAuthorityData := by
  have hread : AuthorityPayload.read .ed25519 (List.replicate 32 2) =
      .ok (.ofKey (.replicate 32 2), []) := by decide
  constructor
  · obtain ⟨encoded, hencoded, -, hcut, htail⟩ := Instruction.tail_is_proof .compact
      unsignedSpending (by rintro p ⟨⟩; exact ⟨_, _, _, hread⟩) nofun rfl
    refine ⟨encoded, hencoded, hcut _ (List.take_prefix 30 encoded) ?_, htail [7] (by decide)⟩
    cases hencoded
    decide
  · obtain ⟨encoded, hencoded, -, hcut, htail⟩ := Instruction.tail_is_proof .hashed keyFounding
      (by rintro p ⟨⟩; exact ⟨_, _, _, hread⟩) nofun rfl
    have hlong : 7 < encoded.length := by
      obtain ⟨body, -, rfl⟩ := Instruction.encode_eq_ok_iff.1 hencoded
      rw [List.length_append, InstructionKind.length_discriminator]
      exact Nat.lt_of_lt_of_le (by decide : 7 < 8) (Nat.le_add_right ..)
    refine ⟨encoded, hencoded, hcut _ (List.take_prefix 7 encoded) ?_, htail [7] (by decide)⟩
    intro heq
    have hlength := congrArg List.length heq
    rw [List.length_take] at hlength
    omega

end Sample

end SmartWallet
