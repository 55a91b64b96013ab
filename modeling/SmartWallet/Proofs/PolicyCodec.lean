import SmartWallet.Policy
import SmartWallet.Proofs.Truncation

/-!
# Policy instructions on the wire

A mark of eight bytes tells the two instructions of the default policy apart. A check carries its
data behind the length of it and is read from no other bytes than its own. An initialisation is its
mark alone, and it is read from any bytes that start with the mark. Either one is refused when it is
cut short.
-/

namespace SmartWallet

lemma Bytes.toList_ofNat {n : Nat} (h : n < 2 ^ 32) :
    (ofUInt32 (.ofNat n)).toList = littleEndian 4 n := by
  have hn : (UInt32.ofNat n).toNat = n := UInt32.toNat_ofNat_of_lt' h
  exact congrArg (littleEndian 4) hn

namespace PolicyInstruction

variable {bs data tail tail' : List UInt8} {i j : PolicyInstruction}

/-- The length of a check's data is a number of four bytes. -/
def Fits (i : PolicyInstruction) : Prop := ∀ data, i = checkPolicy data → data.length < 2 ^ 32

lemma fits_initPolicy : initPolicy.Fits := by rintro _ ⟨⟩

lemma length_discriminator (i : PolicyInstruction) : i.discriminator.length = 8 := by
  simp [discriminator, Policy.instructionMark, Policy.mark, Bytes.length_toList]

lemma discriminator_initPolicy_ne :
    initPolicy.discriminator ≠ (checkPolicy data).discriminator := by
  have hmarks : Policy.instructionMark "init_policy" ≠ Policy.instructionMark "check_policy" := by
    decide +kernel
  exact hmarks

/-- What follows the mark. -/
def body : PolicyInstruction → List UInt8
  | initPolicy => []
  | checkPolicy data => littleEndian 4 data.length ++ data

lemma encode_eq (i : PolicyInstruction) : i.encode = i.discriminator ++ i.body := by
  cases i <;> rfl

/-- An instruction is read from its own bytes, and an initialisation also from any that go on after
them. -/
theorem decode_eq_ok_iff : decode bs = .ok i ↔
    i.Fits ∧ ∃ tail, bs = i.encode ++ tail ∧ (tail = [] ∨ i = initPolicy) := by
  simp only [decode, bind_eq_ok_iff, orError_eq_ok_iff, Prod.exists, splitBytes?_eq_some_iff]
  constructor
  · rintro ⟨tag, rest, ⟨rfl, -⟩, h⟩
    split at h
    · next htag =>
      obtain rfl := pure_eq_ok_iff.1 h
      exact ⟨fits_initPolicy, rest, by rw [htag, encode_eq, body, List.append_nil], .inr rfl⟩
    · simp only [bind_eq_ok_iff, ensure_eq_ok, exists_const, orError_eq_ok_iff, Prod.exists,
        Bytes.split?_eq_some_iff, pure_eq_ok_iff] at h
      obtain ⟨rfl, length, data, rfl, hlength, rfl⟩ := h
      have hcount : littleEndian 4 data.length = length.toList := by
        rw [hlength]
        exact Bytes.bytesOfUInt32_toUInt32 length
      refine ⟨?_, [], ?_, .inl rfl⟩
      · rintro _ ⟨⟩
        exact hlength ▸ length.toUInt32.toNat_lt
      · rw [encode_eq, body, hcount, List.append_nil]
        rfl
  · rintro ⟨hfits, tail, rfl, htail⟩
    cases i with
    | initPolicy =>
      rw [encode_eq, body, List.append_nil]
      exact ⟨_, tail, ⟨rfl, length_discriminator _⟩, if_pos rfl⟩
    | checkPolicy data =>
      obtain rfl | ⟨⟨⟩⟩ := htail
      have hdata := hfits data rfl
      rw [encode_eq, List.append_nil]
      refine ⟨_, _, ⟨rfl, length_discriminator _⟩, ?_⟩
      have hcount : (Bytes.ofUInt32 (.ofNat data.length)).toUInt32.toNat = data.length := by
        rw [Bytes.toUInt32_ofUInt32, UInt32.toNat_ofNat_of_lt' hdata]
      rw [body, if_neg discriminator_initPolicy_ne.symm, ← Bytes.toList_ofNat hdata]
      simp only [bind_eq_ok_iff, ensure_eq_ok, exists_const, orError_eq_ok_iff, Prod.exists,
        Bytes.split?_append, pure_eq_ok_iff]
      exact ⟨rfl, _, _, rfl, hcount.symm, rfl⟩

lemma failsBy_decode : FailsBy .invalidInstruction (decode bs) := by
  refine failsBy_orError.bind fun _ => ?_
  dsimp only
  split
  · exact failsBy_ok
  · exact failsBy_ensure.bind fun _ => failsBy_orError.bind fun _ =>
      failsBy_ensure.bind fun _ => failsBy_ok

lemma discriminator_eq_of_encode (h : i.encode = j.encode ++ tail) :
    i.discriminator = j.discriminator := by
  rw [encode_eq, encode_eq, List.append_assoc] at h
  exact (List.append_inj h ((length_discriminator i).trans (length_discriminator j).symm)).1

/-- The bytes of an instruction do not go on after those of another one. -/
lemma tail_eq_nil (hi : i.Fits) (hj : j.Fits) (h : i.encode = j.encode ++ tail) : tail = [] := by
  have hmark := discriminator_eq_of_encode h
  cases i with
  | initPolicy =>
    cases j with
    | initPolicy => exact List.append_right_eq_self.1 h.symm
    | checkPolicy data => exact absurd hmark discriminator_initPolicy_ne
  | checkPolicy data =>
    cases j with
    | initPolicy => exact absurd hmark.symm discriminator_initPolicy_ne
    | checkPolicy data' =>
      rw [encode_eq, encode_eq, List.append_assoc, hmark] at h
      have hbody := List.append_cancel_left h
      rw [body, body, List.append_assoc] at hbody
      obtain ⟨hcount, rfl⟩ := List.append_inj hbody (by simp)
      have hlength := congrArg ofLittleEndian hcount
      rw [ofLittleEndian_littleEndian, ofLittleEndian_littleEndian,
        Nat.mod_eq_of_lt (b := 256 ^ 4) (hi _ rfl), Nat.mod_eq_of_lt (b := 256 ^ 4) (hj _ rfl),
        List.length_append] at hlength
      exact List.length_eq_zero_iff.1 (by omega)

theorem decode_of_cut (h : i.Fits) (hcut : Cut bs i.encode) :
    decode bs = .error .invalidInstruction := by
  refine failsBy_decode.eq_error fun j hj => ?_
  obtain ⟨hfits, tail, rfl, -⟩ := decode_eq_ok_iff.1 hj
  obtain ⟨s, hs, hall⟩ := hcut.exists_append
  rw [List.append_assoc] at hall
  have hnil := tail_eq_nil h hfits hall.symm
  exact hs (List.append_eq_nil_iff.1 hnil).2

/-- Reading accepts what writing produces and nothing else, except that an initialisation is read
from every string that starts with its bytes. Nothing is read from bytes that are cut short. -/
theorem exact_up_to_init_tail (bs : List UInt8) (i : PolicyInstruction) :
    (decode bs = .ok i ↔ i.Fits ∧ (bs = i.encode ∨ i = initPolicy ∧ i.encode <+: bs)) ∧
    (i.Fits → ∀ q, q <+: i.encode → q ≠ i.encode → decode q = .error .invalidInstruction) := by
  refine ⟨decode_eq_ok_iff.trans (and_congr_right fun _ => ?_),
    fun hfits q hstarts hne => decode_of_cut hfits ⟨hstarts, hne⟩⟩
  constructor
  · rintro ⟨tail, rfl, rfl | rfl⟩
    · exact .inl (List.append_nil _)
    · exact .inr ⟨rfl, List.prefix_append _ _⟩
  · rintro (rfl | ⟨rfl, tail, rfl⟩)
    · exact ⟨[], (List.append_nil _).symm, .inl rfl⟩
    · exact ⟨tail, rfl, .inr rfl⟩

end PolicyInstruction

namespace Sample

theorem short_check_read :
    PolicyInstruction.decode (PolicyInstruction.encode (.checkPolicy [7, 8, 9])) =
        .ok (.checkPolicy [7, 8, 9]) ∧
      PolicyInstruction.decode (PolicyInstruction.encode (.checkPolicy [7, 8, 9]) ++ [0]) ≠
        .ok (.checkPolicy [7, 8, 9]) ∧
      PolicyInstruction.decode (PolicyInstruction.encode (.checkPolicy [7, 8, 9])).dropLast =
        .error .invalidInstruction := by
  have hfits : (PolicyInstruction.checkPolicy [7, 8, 9]).Fits := by
    rintro _ ⟨⟩
    decide
  obtain ⟨hread, hcut⟩ := PolicyInstruction.exact_up_to_init_tail
    (PolicyInstruction.encode (.checkPolicy [7, 8, 9])) (.checkPolicy [7, 8, 9])
  obtain ⟨hmore, -⟩ := PolicyInstruction.exact_up_to_init_tail
    (PolicyInstruction.encode (.checkPolicy [7, 8, 9]) ++ [0]) (.checkPolicy [7, 8, 9])
  refine ⟨hread.2 ⟨hfits, .inl rfl⟩, fun h => ?_, hcut hfits _ (List.dropLast_prefix _) ?_⟩
  · rcases (hmore.1 h).2 with heq | ⟨⟨⟩, -⟩
    exact List.cons_ne_nil _ _ (List.append_right_eq_self.1 heq)
  · intro heq
    have hlength := congrArg List.length heq
    rw [List.length_dropLast] at hlength
    exact absurd hlength (by decide +kernel)

/-- A byte follows the mark of an initialisation, which is read all the same. -/
theorem longer_initialisation_read :
    ¬∀ (bs : List UInt8) (i : PolicyInstruction), i.Fits →
      (PolicyInstruction.decode bs = .ok i ↔ bs = i.encode) := by
  intro h
  have hread := h [0x2d, 0xea, 0x6e, 0x64, 0xd1, 0x92, 0xbf, 0x56, 0xff] .initPolicy
    PolicyInstruction.fits_initPolicy
  exact absurd (hread.1 (by decide +kernel)) (by decide +kernel)

end Sample

end SmartWallet
