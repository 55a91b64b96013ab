import SmartWallet.Proofs.Derivation
import SmartWallet.Proofs.RecordCodec

/-!
# Recipes keep apart

The seeds of an address are hashed without separators, after a tag of one length or another and, for
a wallet, with an id of any length. What is hashed still names one recipe only: no tag is the
beginning of another, and bump, program and marker have fixed lengths at the end.
-/

namespace SmartWallet

/-- What an address is derived for. Wallets have a tag for each seed scheme. -/
inductive RecipeKind
  | wallet (scheme : SeedScheme)
  | vault
  | authority
  | session
  | policy
deriving DecidableEq

namespace RecipeKind

def tag : RecipeKind → List UInt8
  | wallet scheme => scheme.tag
  | vault => Recipe.vaultTag
  | authority => bytesOfText "authority"
  | session => bytesOfText "session"
  | policy => bytesOfText "policy"

variable {k k' : RecipeKind}

lemma length_tag_le : k.tag.length ≤ Address.maxSeedLength := by
  cases k with
  | wallet scheme => cases scheme <;> decide
  | _ => decide

/-- No tag is the beginning of another. -/
lemma eq_of_prefix_tag (h : k.tag <+: k'.tag) : k = k' := by
  revert h
  cases k with
  | wallet scheme => cases scheme <;> cases k' with
    | wallet scheme => cases scheme <;> decide
    | _ => decide
  | _ => cases k' with
    | wallet scheme => cases scheme <;> decide
    | _ => decide

/-- Whatever follows them, tags end where they end. -/
lemma tag_append_inj {rest rest' : List UInt8} (h : k.tag ++ rest = k'.tag ++ rest') :
    k = k' ∧ rest = rest' := by
  have hk : k.tag <+: k'.tag ++ rest' := h ▸ List.prefix_append ..
  have hkind : k = k' := by
    rcases List.prefix_or_prefix_of_prefix hk (List.prefix_append ..) with hk | hk
    · exact eq_of_prefix_tag hk
    · exact (eq_of_prefix_tag hk).symm
  subst hkind
  exact ⟨rfl, List.append_cancel_left h⟩

end RecipeKind

namespace Recipe

variable {d d' : Deployment} {r r' : Recipe} {bump bump' : UInt8} {scheme scheme' : SeedScheme}
  {onCurve : Key → Bool} {key : Key}

def kind (scheme : SeedScheme) : Recipe → RecipeKind
  | wallet _ => .wallet scheme
  | vault _ => .vault
  | authority .. => .authority
  | session .. => .session
  | policy _ => .policy

/-- The seeds after the tag. -/
def inputs : Recipe → List (List UInt8)
  | wallet walletId => [walletId]
  | vault w => [w.toList]
  | authority w seed => [w.toList, seed.toList]
  | session w sessionKey => [w.toList, sessionKey.toList]
  | policy w => [w.toList]

lemma length_inputs_le : r.inputs.length ≤ 2 := by
  cases r <;> simp [inputs]

lemma seeds_eq : r.seeds scheme = (r.kind scheme).tag :: r.inputs := by
  cases r <;> rfl

/-- Within one kind, the inputs are told apart although they are hashed as one. -/
lemma eq_of_kind_eq (hkind : r.kind scheme = r'.kind scheme')
    (h : r.inputs.flatten = r'.inputs.flatten) : r = r' := by
  cases r <;> cases r' <;> cases hkind
  case wallet.wallet => simpa [inputs] using h
  case vault.vault => simpa [inputs, Bytes.ext_iff] using h
  case authority.authority =>
    obtain ⟨rfl, hseed⟩ := Bytes.append_inj h
    obtain ⟨rfl, -⟩ := Bytes.append_inj hseed
    rfl
  case session.session =>
    obtain ⟨rfl, hsessionKey⟩ := Bytes.append_inj h
    obtain ⟨rfl, -⟩ := Bytes.append_inj hsessionKey
    rfl
  case policy.policy => simpa [inputs, Bytes.ext_iff] using h

/-- What is hashed at a bump. -/
def preimage (d : Deployment) (r : Recipe) (bump : UInt8) : List UInt8 :=
  Address.preimage (r.seeds d.seedScheme ++ [[bump]]) (r.program d)

lemma preimage_eq : r.preimage d bump =
    (r.kind d.seedScheme).tag ++ (r.inputs.flatten ++ ([bump] ++ ((r.program d).toList ++
      Address.marker))) := by
  simp [preimage, Address.preimage, seeds_eq]

lemma parts_of_preimage_eq (h : r.preimage d bump = r'.preimage d' bump') :
    r.kind d.seedScheme = r'.kind d'.seedScheme ∧ r = r' ∧ bump = bump' ∧
      r.program d = r'.program d' := by
  simp only [preimage_eq] at h
  obtain ⟨hkind, hrest⟩ := RecipeKind.tag_append_inj h
  -- the inputs have any length, but all that follows them is as long on both sides
  obtain ⟨hinputs, hend⟩ := List.append_inj' hrest (by simp [Bytes.length_toList])
  obtain ⟨hbump, hprogram⟩ := List.append_inj hend rfl
  exact ⟨hkind, eq_of_kind_eq hkind hinputs, List.singleton_inj.1 hbump,
    (Bytes.append_inj hprogram).1⟩

lemma preimage_congr (hkind : r.kind d.seedScheme = r.kind d'.seedScheme)
    (hprogram : r.program d = r.program d') : r.preimage d bump = r.preimage d' bump := by
  rw [preimage_eq, preimage_eq, hkind, hprogram]

lemma checkSeeds_seeds {u : Unit} : Address.checkSeeds (r.seeds scheme) 1 = .ok u ↔
    ∀ input ∈ r.inputs, input.length ≤ 32 := by
  have hcount : r.inputs.length + 1 + 1 ≤ Address.maxSeeds :=
    (Nat.add_le_add_right length_inputs_le 2).trans (by decide)
  rw [Address.checkSeeds_eq_ok_iff, seeds_eq, List.forall_mem_cons, List.length_cons]
  exact ⟨fun h => h.1.2, fun h => ⟨⟨RecipeKind.length_tag_le, h⟩, hcount⟩⟩

/-- Where no input is longer than a seed may be, a derivation looks for the highest bump whose hash
leaves the curve. -/
theorem deriveOn_eq_ok_iff : r.deriveOn (.ofPoints onCurve) d = .ok ⟨key, bump⟩ ↔
    (∀ input ∈ r.inputs, input.length ≤ 32) ∧ Sha256.hash (r.preimage d bump) = key ∧
      onCurve key = false ∧
      ∀ b, bump < b → onCurve (Sha256.hash (r.preimage d b)) = true := by
  simp only [deriveOn, Address.find_eq_ok_iff, checkSeeds_seeds, preimage,
    Address.hash_preimage_append_bump]

/-- Two derivations hash the same bytes exactly if they are the same derivation: the same recipe
with the same tag and inputs, at the same bump, for the same program. These are the bytes whose hash
a derivation answers. -/
theorem preimages_separate (d d' : Deployment) (r r' : Recipe) (bump bump' : UInt8) :
    (r.preimage d bump = r'.preimage d' bump' ↔
      r.kind d.seedScheme = r'.kind d'.seedScheme ∧ r = r' ∧ bump = bump' ∧
        r.program d = r'.program d') ∧
    ∀ onCurve key, r.deriveOn (.ofPoints onCurve) d = .ok ⟨key, bump⟩ ↔
      (∀ input ∈ r.inputs, input.length ≤ 32) ∧ Sha256.hash (r.preimage d bump) = key ∧
        onCurve key = false ∧
        ∀ b, bump < b → onCurve (Sha256.hash (r.preimage d b)) = true := by
  refine ⟨⟨parts_of_preimage_eq, ?_⟩, fun onCurve key => deriveOn_eq_ok_iff⟩
  rintro ⟨hkind, rfl, rfl, hprogram⟩
  exact preimage_congr hkind hprogram

end Recipe

end SmartWallet
