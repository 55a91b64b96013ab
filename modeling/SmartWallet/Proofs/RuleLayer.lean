import SmartWallet.Proofs.RecordGrammar
import SmartWallet.Proofs.WalletRules

/-!
# What the rules guarantee

A new wallet and any changes of it, refused ones among them, leave a wallet that is
`Wallet.Regular`: its ids ascend, its seeds differ, and its owner is the entry with id zero. This is
all that the rules need to answer as they should. `Inserts`, `Removes`, `Replaces` and `Stores` say
what each of them answers to every request, and on a regular wallet they answer exactly that.
-/

namespace SmartWallet

lemma Credential.matchesSeed_iff {c : Credential} {seed : Key} :
    c.matchesSeed seed = true ↔ ∀ key, c.ed25519Master? = some key → seed = key := by
  simp only [matchesSeed, Option.all_eq_true, beq_iff_eq, eq_comm (a := seed)]

lemma Credential.not_matchesSeed {c : Credential} {seed key : Key}
    (hkey : c.ed25519Master? = some key) (hne : seed ≠ key) : ¬c.matchesSeed seed = true :=
  fun h => hne (matchesSeed_iff.1 h key hkey)

lemma Authority.new_eq_error_iff {id : UInt8} {role : Role} {seed : Key} {c : Credential}
    {e : RecordError} : Authority.new id role seed c = .error e ↔
      ¬c.matchesSeed seed = true ∧ .invalidAuthorityData = e := by
  unfold Authority.new
  split
  · next h => simp [h]
  · next h => simp [h]

namespace Wallet

variable {w w' : Wallet} {a b : Authority} {id i : UInt8} {role : Role} {seed key : Key}
  {c : Credential} {counter : UInt32} {e : RecordError} {l before after rest : List Authority}

/-! ## Free ids -/

/-- The id is the least one without an entry. -/
structure LeastUnused (w : Wallet) (id : UInt8) : Prop where
  unused : ∀ a ∈ w.authorities, a.id ≠ id
  least : ∀ i < id, ∃ a ∈ w.authorities, a.id = i

lemma exists_of_lt_firstGap {candidate n : Nat} (hge : candidate ≤ n)
    (hlt : n < firstGap candidate l) : ∃ a ∈ l, a.id.toNat = n := by
  induction l generalizing candidate with
  | nil => exact absurd hlt (Nat.not_lt.2 hge)
  | cons b l ih =>
    unfold firstGap at hlt
    split at hlt
    · next hb =>
      by_cases hn : n = candidate
      · exact ⟨b, List.mem_cons_self .., hb.trans hn.symm⟩
      · obtain ⟨a, ha, han⟩ := ih (by omega) hlt
        exact ⟨a, List.mem_cons_of_mem _ ha, han⟩
    · exact absurd hlt (Nat.not_lt.2 hge)

lemma exists_id_of_lt_firstGap (h : i.toNat < firstGap 0 l) : ∃ a ∈ l, a.id = i := by
  obtain ⟨a, ha, hai⟩ := exists_of_lt_firstGap (Nat.zero_le _) h
  exact ⟨a, ha, UInt8.toNat_inj.1 hai⟩

lemma exists_of_nextFreeId?_eq_none (h : w.nextFreeId? = none) (i : UInt8) :
    ∃ a ∈ w.authorities, a.id = i := by
  have hlt : i.toNat < 256 := i.toNat_lt
  rw [nextFreeId?] at h
  split at h
  · cases h
  · exact exists_id_of_lt_firstGap (by omega)

lemma leastUnused_of_nextFreeId? (hasc : w.authorities.Pairwise fun a b => a.id < b.id)
    (h : w.nextFreeId? = some id) : w.LeastUnused id := by
  refine ⟨nextFreeId?_unused hasc h, fun i hi => ?_⟩
  rw [nextFreeId?] at h
  split at h
  · cases h
    have hlt := UInt8.lt_iff_toNat_lt.1 hi
    rw [UInt8.toNat_ofNat'] at hlt
    exact exists_id_of_lt_firstGap (by omega)
  · cases h

lemma LeastUnused.unique (h : w.LeastUnused id) (h' : w.LeastUnused i) : id = i := by
  by_contra hne
  rcases UInt8.lt_or_lt_of_ne hne with hlt | hlt
  · obtain ⟨a, ha, hid⟩ := h'.least id hlt
    exact h.unused a ha hid
  · obtain ⟨a, ha, hid⟩ := h.least i hlt
    exact h'.unused a ha hid

lemma nextFreeId?_eq_some_iff (hasc : w.authorities.Pairwise fun a b => a.id < b.id) :
    w.nextFreeId? = some id ↔ w.LeastUnused id := by
  refine ⟨leastUnused_of_nextFreeId? hasc, fun h => ?_⟩
  cases hfree : w.nextFreeId? with
  | none =>
    obtain ⟨a, ha, hid⟩ := exists_of_nextFreeId?_eq_none hfree id
    exact absurd hid (h.unused a ha)
  | some i => rw [(leastUnused_of_nextFreeId? hasc hfree).unique h]

lemma nextFreeId?_eq_none_iff (hasc : w.authorities.Pairwise fun a b => a.id < b.id) :
    w.nextFreeId? = none ↔ ∀ i, ∃ a ∈ w.authorities, a.id = i := by
  refine ⟨exists_of_nextFreeId?_eq_none, fun h => ?_⟩
  cases hfree : w.nextFreeId? with
  | none => rfl
  | some id =>
    obtain ⟨a, ha, hid⟩ := h id
    exact absurd hid (nextFreeId?_unused hasc hfree a ha)

/-- An entry under the free id would still be one of at most 256. -/
lemma exists_leastUnused_iff (hasc : w.authorities.Pairwise fun a b => a.id < b.id) :
    (∃ id, w.LeastUnused id) ↔ w.authorities.length < 256 := by
  constructor
  · rintro ⟨id, h⟩
    have hmore := length_le_of_ascending
      (ascending_insertById (a := ⟨id, .spender, default, 0, .ed25519 default⟩) hasc h.unused)
    rw [(insertById_perm _ _).length_eq, List.length_cons] at hmore
    exact hmore
  · exact fun hroom => ⟨_, leastUnused_of_nextFreeId? hasc (nextFreeId?_of_room hroom)⟩

/-! ## Entries in their places -/

lemma insertById_append (hbefore : ∀ b ∈ before, b.id < a.id)
    (hafter : ∀ b ∈ after, a.id < b.id) :
    insertById a (before ++ after) = before ++ a :: after := by
  induction before with
  | nil =>
    cases after with
    | nil => rfl
    | cons b after => exact if_pos (hafter b (List.mem_cons_self ..))
  | cons b before ih =>
    have hb : ¬b.id > a.id := UInt8.lt_asymm (hbefore b (List.mem_cons_self ..))
    rw [List.cons_append, insertById, if_neg hb,
      ih fun b hb => hbefore b (List.mem_cons_of_mem _ hb), List.cons_append]

/-- Where ids ascend, an id that is not used has a place. -/
lemma exists_split_of_unused (hasc : l.Pairwise fun a b => a.id < b.id)
    (hid : ∀ a ∈ l, a.id ≠ id) : ∃ before after, l = before ++ after ∧
      (∀ b ∈ before, b.id < id) ∧ ∀ b ∈ after, id < b.id := by
  induction l with
  | nil => exact ⟨[], [], rfl, nofun, nofun⟩
  | cons a l ih =>
    obtain ⟨ha, hasc⟩ := List.pairwise_cons.1 hasc
    rcases UInt8.lt_or_lt_of_ne (hid a (List.mem_cons_self ..)) with hlt | hgt
    · obtain ⟨before, after, rfl, hbefore, hafter⟩ :=
        ih hasc fun b hb => hid b (List.mem_cons_of_mem _ hb)
      exact ⟨a :: before, after, rfl, List.forall_mem_cons.2 ⟨hlt, hbefore⟩, hafter⟩
    · refine ⟨[], a :: l, rfl, nofun, List.forall_mem_cons.2 ⟨hgt, fun b hb => ?_⟩⟩
      exact UInt8.lt_trans hgt (ha b hb)

lemma updateFirst_append {p : Authority → Bool} {f : Authority → Authority}
    (hbefore : ∀ b ∈ before, ¬p b = true) (ha : p a = true) :
    updateFirst p f (before ++ a :: after) = before ++ f a :: after := by
  induction before with
  | nil => exact if_pos ha
  | cons b before ih =>
    rw [List.cons_append, updateFirst, if_neg (hbefore b (List.mem_cons_self ..)),
      ih fun b hb => hbefore b (List.mem_cons_of_mem _ hb), List.cons_append]

/-- Where ids ascend, no entry before another one has its id. -/
lemma ne_id_of_ascending (hasc : (before ++ a :: after).Pairwise fun a b => a.id < b.id) :
    ∀ b ∈ before, ¬(b.id == a.id) = true := by
  intro b hb
  have hlt := (List.pairwise_append.1 hasc).2.2 b hb a (List.mem_cons_self ..)
  simpa using UInt8.ne_of_lt hlt

lemma nodup_seeds_split : ((before ++ a :: after).map (·.seed)).Nodup ↔
    (∀ b ∈ before ++ after, b.seed ≠ a.seed) ∧ ((before ++ after).map (·.seed)).Nodup := by
  rw [List.map_append, List.map_cons, List.nodup_middle, ← List.map_append, List.nodup_cons,
    List.mem_map]
  push Not
  rfl

/-! ## When a rule refuses -/

lemma authority?_eq_none_iff : w.authority? id = none ↔ ∀ a ∈ w.authorities, a.id ≠ id := by
  simp [authority?]

lemma authorityBySeed?_eq_none_iff :
    w.authorityBySeed? seed = none ↔ ∀ a ∈ w.authorities, a.seed ≠ seed := by
  simp [authorityBySeed?]

lemma owner?_of_cons (hsplit : w.authorities = a :: rest) (hrole : a.role = .owner) :
    w.owner? = some a := by
  simp [owner?, hsplit, hrole]

lemma insert_eq_error_iff : w.insert role seed c = .error e ↔
    role = .owner ∧ .ownerAlreadyExists = e ∨
    role ≠ .owner ∧ (¬w.authorityBySeed? seed = none ∧ .duplicateAuthority = e ∨
      w.authorityBySeed? seed = none ∧ (w.nextFreeId? = none ∧ .authorityLimitReached = e ∨
        ∃ id, w.nextFreeId? = some id ∧
          ¬c.matchesSeed seed = true ∧ .invalidAuthorityData = e)) := by
  simp only [insert, bind_eq_error_iff, ensure_eq_error_iff, ensure_eq_ok, exists_const,
    orError_eq_error_iff, orError_eq_ok_iff, Authority.new_eq_error_iff, pure_ne_error, and_false,
    Option.isNone_iff_eq_none, not_not]
  simp only [exists_false, or_false]

lemma remove_eq_error_iff : w.remove id = .error e ↔
    w.authority? id = none ∧ .authorityNotFound = e ∨
      ∃ a, w.authority? id = some a ∧ a.role = .owner ∧ .cannotRemoveOwner = e := by
  simp only [remove, bind_eq_error_iff, ensure_eq_error_iff, orError_eq_error_iff,
    orError_eq_ok_iff, pure_ne_error, and_false, exists_false, or_false, not_not]

lemma replaceOwner_eq_error_iff : w.replaceOwner seed c = .error e ↔
    w.owner? = none ∧ .invalidAccountData = e ∨ ∃ a, w.owner? = some a ∧
      (¬(∀ b, w.authorityBySeed? seed = some b → b.id = a.id) ∧ .duplicateAuthority = e ∨
        (∀ b, w.authorityBySeed? seed = some b → b.id = a.id) ∧
          ¬c.matchesSeed seed = true ∧ .invalidAuthorityData = e) := by
  simp only [replaceOwner, bind_eq_error_iff, ensure_eq_error_iff, ensure_eq_ok, exists_const,
    orError_eq_error_iff, orError_eq_ok_iff, Authority.new_eq_error_iff, pure_ne_error, and_false,
    or_false, exists_false, Option.all_eq_true, beq_iff_eq]

lemma setCounter_eq_error_iff : w.setCounter id counter = .error e ↔
    w.authority? id = none ∧ .authorityNotFound = e := by
  simp only [setCounter, bind_eq_error_iff, ensure_eq_error_iff, pure_ne_error, and_false,
    exists_false, or_false, Option.not_isSome_iff_eq_none]

/-! ## What a wallet keeps -/

/-- The ids ascend, no two entries share a seed, an Ed25519 key is the seed of its entry, and there
is one owner, under id zero. -/
structure Regular (w : Wallet) : Prop where
  ascending : w.authorities.Pairwise fun a b => a.id < b.id
  seedsApart : (w.authorities.map (·.seed)).Nodup
  keyed : ∀ a ∈ w.authorities, ∀ key, a.credential.ed25519Master? = some key → a.seed = key
  oneOwner : w.authorities.countP (·.role == .owner) = 1
  ownerIsZero : ∀ a ∈ w.authorities, a.role = .owner → a.id = 0

namespace Regular

lemma eq_of_seed_eq (h : w.Regular) (ha : a ∈ w.authorities) (hb : b ∈ w.authorities)
    (hseed : a.seed = b.seed) : a = b :=
  List.inj_on_of_nodup_map h.seedsApart ha hb hseed

/-- No id is below that of the owner, so that the owner comes first. -/
lemma exists_owner (h : w.Regular) : ∃ o rest, w.authorities = o :: rest ∧ o.role = .owner ∧
    ∀ a ∈ rest, a.role ≠ .owner := by
  have hone := h.oneOwner
  obtain ⟨a, ha, hrole⟩ := List.countP_pos_iff.1 (hone ▸ Nat.one_pos)
  have hzero := h.ownerIsZero a ha (beq_iff_eq.1 hrole)
  obtain ⟨o, rest, hsplit⟩ := List.exists_cons_of_ne_nil (List.ne_nil_of_mem ha)
  have hasc := h.ascending
  rw [hsplit] at ha hasc hone
  -- whatever comes first has the least id
  obtain rfl : a = o := by
    rcases List.mem_cons.1 ha with rfl | hrest
    · rfl
    · have hlt := (List.pairwise_cons.1 hasc).1 a hrest
      rw [hzero] at hlt
      exact absurd hlt UInt8.not_lt_zero
  refine ⟨a, rest, hsplit, beq_iff_eq.1 hrole, fun b hb hrb => ?_⟩
  have hrest : rest.countP (·.role == .owner) = 0 := by simpa [hrole] using hone
  exact List.countP_eq_zero.1 hrest b hb (beq_iff_eq.2 hrb)

lemma authorityBySeed?_eq_some_iff (h : w.Regular) :
    w.authorityBySeed? seed = some a ↔ a ∈ w.authorities ∧ a.seed = seed := by
  constructor
  · intro hb
    exact ⟨List.mem_of_find?_eq_some hb, by simpa using List.find?_some hb⟩
  · rintro ⟨ha, hseed⟩
    cases hb : w.authorityBySeed? seed with
    | none => exact absurd hseed (authorityBySeed?_eq_none_iff.1 hb a ha)
    | some b =>
      have hbs : b.seed = seed := by simpa using List.find?_some hb
      rw [h.eq_of_seed_eq (List.mem_of_find?_eq_some hb) ha (hbs.trans hseed.symm)]

lemma authority?_of_split (h : w.Regular) (hsplit : w.authorities = before ++ a :: after) :
    w.authority? a.id = some a :=
  (find?_id_eq_some_iff h.ascending).2 ⟨by simp [hsplit], rfl⟩

end Regular

/-! ## What each rule answers -/

/-- The answer to a request to register an entry. The checks are made in this order. -/
inductive Inserts (w : Wallet) (role : Role) (seed : Key) (c : Credential) :
    Except RecordError (Wallet × UInt8) → Prop
  | owner (hrole : role = .owner) : Inserts w role seed c (.error .ownerAlreadyExists)
  | taken (hrole : role ≠ .owner) (hseed : ∃ a ∈ w.authorities, a.seed = seed) :
    Inserts w role seed c (.error .duplicateAuthority)
  | full (hrole : role ≠ .owner) (hseed : ∀ a ∈ w.authorities, a.seed ≠ seed)
    (hfull : w.authorities.length = 256) : Inserts w role seed c (.error .authorityLimitReached)
  | mismatched (hrole : role ≠ .owner) (hseed : ∀ a ∈ w.authorities, a.seed ≠ seed)
    (hroom : w.authorities.length ≠ 256) {key : Key} (hkey : c.ed25519Master? = some key)
    (hne : seed ≠ key) : Inserts w role seed c (.error .invalidAuthorityData)
  | added (hrole : role ≠ .owner) (hseed : ∀ a ∈ w.authorities, a.seed ≠ seed)
    (hroom : w.authorities.length ≠ 256)
    (hkeyed : ∀ key, c.ed25519Master? = some key → seed = key) {id : UInt8}
    (hid : w.LeastUnused id) {before after : List Authority}
    (hsplit : w.authorities = before ++ after) (hbefore : ∀ a ∈ before, a.id < id)
    (hafter : ∀ a ∈ after, id < a.id) :
    Inserts w role seed c
      (.ok ({ w with authorities := before ++ ⟨id, role, seed, 0, c⟩ :: after }, id))

/-- The answer to a request to remove the entry under an id. -/
inductive Removes (w : Wallet) (id : UInt8) : Except RecordError (Wallet × Authority) → Prop
  | unknown (hid : ∀ a ∈ w.authorities, a.id ≠ id) : Removes w id (.error .authorityNotFound)
  | owner {a : Authority} (ha : a ∈ w.authorities) (hid : a.id = id) (hrole : a.role = .owner) :
    Removes w id (.error .cannotRemoveOwner)
  | removed {a : Authority} {before after : List Authority}
    (hsplit : w.authorities = before ++ a :: after) (hid : a.id = id) (hrole : a.role ≠ .owner) :
    Removes w id (.ok ({ w with authorities := before ++ after }, a))

/-- The answer to a request to give the owner new key material. -/
inductive Replaces (w : Wallet) (seed : Key) (c : Credential) :
    Except RecordError (Wallet × Authority) → Prop
  | taken {a : Authority} (ha : a ∈ w.authorities) (hrole : a.role ≠ .owner)
    (hseed : a.seed = seed) : Replaces w seed c (.error .duplicateAuthority)
  | mismatched (hseed : ∀ a ∈ w.authorities, a.role ≠ .owner → a.seed ≠ seed) {key : Key}
    (hkey : c.ed25519Master? = some key) (hne : seed ≠ key) :
    Replaces w seed c (.error .invalidAuthorityData)
  | replaced (hseed : ∀ a ∈ w.authorities, a.role ≠ .owner → a.seed ≠ seed)
    (hkeyed : ∀ key, c.ed25519Master? = some key → seed = key) {o : Authority}
    {rest : List Authority} (hsplit : w.authorities = o :: rest) (hrole : o.role = .owner) :
    Replaces w seed c
      (.ok ({ w with authorities := { o with seed, counter := 0, credential := c } :: rest }, o))

/-- The answer to a request to store the counter of the entry under an id. -/
inductive Stores (w : Wallet) (id : UInt8) (counter : UInt32) : Except RecordError Wallet → Prop
  | unknown (hid : ∀ a ∈ w.authorities, a.id ≠ id) : Stores w id counter (.error .authorityNotFound)
  | stored {a : Authority} {before after : List Authority}
    (hsplit : w.authorities = before ++ a :: after) (hid : a.id = id) :
    Stores w id counter (.ok { w with authorities := before ++ { a with counter } :: after })

/-- A relation that some answer meets, and no other than this one, tells the answer. -/
lemma eq_iff_of_answers {α : Type} {P : α → Prop} {x r : α} (hsome : ∃ r, P r)
    (hone : ∀ r, P r → x = r) : x = r ↔ P r := by
  obtain ⟨r', hr'⟩ := hsome
  constructor
  · rintro rfl
    rwa [hone r' hr']
  · exact hone r

lemma exists_removes (w : Wallet) (id : UInt8) : ∃ r, w.Removes id r := by
  by_cases hid : ∃ a ∈ w.authorities, a.id = id
  · obtain ⟨a, ha, hid⟩ := hid
    by_cases hrole : a.role = .owner
    · exact ⟨_, .owner ha hid hrole⟩
    · obtain ⟨before, after, hsplit⟩ := List.append_of_mem ha
      exact ⟨_, .removed hsplit hid hrole⟩
  · push Not at hid
    exact ⟨_, .unknown hid⟩

lemma exists_stores (w : Wallet) (id : UInt8) (counter : UInt32) :
    ∃ r, w.Stores id counter r := by
  by_cases hid : ∃ a ∈ w.authorities, a.id = id
  · obtain ⟨a, ha, hid⟩ := hid
    obtain ⟨before, after, hsplit⟩ := List.append_of_mem ha
    exact ⟨_, .stored hsplit hid⟩
  · push Not at hid
    exact ⟨_, .unknown hid⟩

namespace Regular

lemma exists_leastUnused (h : w.Regular) (hroom : w.authorities.length ≠ 256) :
    ∃ id, w.LeastUnused id :=
  (exists_leastUnused_iff h.ascending).2
    (lt_of_le_of_ne (length_le_of_ascending h.ascending) hroom)

lemma nextFreeId?_of_full (h : w.Regular) (hfull : w.authorities.length = 256) :
    w.nextFreeId? = none := by
  cases hfree : w.nextFreeId? with
  | none => rfl
  | some id =>
    have hid := leastUnused_of_nextFreeId? h.ascending hfree
    exact absurd hfull ((exists_leastUnused_iff h.ascending).1 ⟨id, hid⟩).ne

lemma insert_eq (h : w.Regular) {r : Except RecordError (Wallet × UInt8)}
    (hr : w.Inserts role seed c r) : w.insert role seed c = r := by
  cases hr with
  | owner hrole => exact insert_eq_error_iff.2 (.inl ⟨hrole, rfl⟩)
  | taken hrole hseed =>
    obtain ⟨a, ha, hs⟩ := hseed
    have hfound : ¬w.authorityBySeed? seed = none :=
      fun hnone => authorityBySeed?_eq_none_iff.1 hnone a ha hs
    exact insert_eq_error_iff.2 (.inr ⟨hrole, .inl ⟨hfound, rfl⟩⟩)
  | full hrole hseed hfull =>
    have hnone := authorityBySeed?_eq_none_iff.2 hseed
    have hfree := h.nextFreeId?_of_full hfull
    exact insert_eq_error_iff.2 (.inr ⟨hrole, .inr ⟨hnone, .inl ⟨hfree, rfl⟩⟩⟩)
  | mismatched hrole hseed hroom hkey hne =>
    have hnone := authorityBySeed?_eq_none_iff.2 hseed
    obtain ⟨id, hid⟩ := h.exists_leastUnused hroom
    have hfree := (nextFreeId?_eq_some_iff h.ascending).2 hid
    exact insert_eq_error_iff.2
      (.inr ⟨hrole, .inr ⟨hnone, .inr ⟨id, hfree, Credential.not_matchesSeed hkey hne, rfl⟩⟩⟩)
  | added hrole hseed _ hkeyed hid hsplit hbefore hafter =>
    refine insert_eq_ok_iff.2 ⟨hrole, authorityBySeed?_eq_none_iff.2 hseed,
      (nextFreeId?_eq_some_iff h.ascending).2 hid, Credential.matchesSeed_iff.2 hkeyed, ?_⟩
    rw [hsplit, insertById_append hbefore hafter]

lemma exists_inserts (h : w.Regular) (role : Role) (seed : Key) (c : Credential) :
    ∃ r, w.Inserts role seed c r := by
  by_cases hrole : role = .owner
  · exact ⟨_, .owner hrole⟩
  by_cases hseed : ∃ a ∈ w.authorities, a.seed = seed
  · exact ⟨_, .taken hrole hseed⟩
  push Not at hseed
  by_cases hfull : w.authorities.length = 256
  · exact ⟨_, .full hrole hseed hfull⟩
  by_cases hkeyed : ∀ key, c.ed25519Master? = some key → seed = key
  · obtain ⟨id, hid⟩ := h.exists_leastUnused hfull
    obtain ⟨before, after, hsplit, hbefore, hafter⟩ := exists_split_of_unused h.ascending hid.unused
    exact ⟨_, .added hrole hseed hfull hkeyed hid hsplit hbefore hafter⟩
  · push Not at hkeyed
    obtain ⟨key, hkey, hne⟩ := hkeyed
    exact ⟨_, .mismatched hrole hseed hfull hkey hne⟩

theorem insert_eq_iff (h : w.Regular) {r : Except RecordError (Wallet × UInt8)} :
    w.insert role seed c = r ↔ w.Inserts role seed c r :=
  eq_iff_of_answers (h.exists_inserts role seed c) fun _ => h.insert_eq

lemma remove_eq (h : w.Regular) {r : Except RecordError (Wallet × Authority)}
    (hr : w.Removes id r) : w.remove id = r := by
  cases hr with
  | unknown hid => exact remove_eq_error_iff.2 (.inl ⟨authority?_eq_none_iff.2 hid, rfl⟩)
  | owner ha hid hrole =>
    have hsome := (find?_id_eq_some_iff h.ascending).2 ⟨ha, hid⟩
    exact remove_eq_error_iff.2 (.inr ⟨_, hsome, hrole, rfl⟩)
  | removed hsplit hid hrole =>
    subst hid
    refine remove_eq_ok_iff.2 ⟨h.authority?_of_split hsplit, hrole, ?_⟩
    have hbefore := ne_id_of_ascending (hsplit ▸ h.ascending)
    rw [hsplit, List.eraseP_append_right _ hbefore, List.eraseP_cons_of_pos (by simp)]

theorem remove_eq_iff (h : w.Regular) {r : Except RecordError (Wallet × Authority)} :
    w.remove id = r ↔ w.Removes id r :=
  eq_iff_of_answers (exists_removes w id) fun _ => h.remove_eq

/-- A seed that no other entry has is that of the owner, or new. -/
lemma id_of_authorityBySeed? (h : w.Regular) (ha : a ∈ w.authorities) (hrole : a.role = .owner)
    (hseed : ∀ b ∈ w.authorities, b.role ≠ .owner → b.seed ≠ seed) :
    ∀ b, w.authorityBySeed? seed = some b → b.id = a.id := by
  intro b hb
  obtain ⟨hmem, hbs⟩ := h.authorityBySeed?_eq_some_iff.1 hb
  have hrb : b.role = .owner := not_not.1 fun hne => hseed b hmem hne hbs
  rw [h.ownerIsZero b hmem hrb, h.ownerIsZero a ha hrole]

lemma replaceOwner_eq (h : w.Regular) {r : Except RecordError (Wallet × Authority)}
    (hr : w.Replaces seed c r) : w.replaceOwner seed c = r := by
  obtain ⟨o, rest, hsplit, hrole, -⟩ := h.exists_owner
  have ho : o ∈ w.authorities := by rw [hsplit]; exact List.mem_cons_self ..
  have howner := owner?_of_cons hsplit hrole
  cases hr with
  | @taken a ha hother hseed =>
    have hfound : ¬∀ b, w.authorityBySeed? seed = some b → b.id = o.id := by
      intro hall
      have hid := hall a (h.authorityBySeed?_eq_some_iff.2 ⟨ha, hseed⟩)
      exact hother ((eq_of_id_eq h.ascending ha ho hid) ▸ hrole)
    exact replaceOwner_eq_error_iff.2 (.inr ⟨o, howner, .inl ⟨hfound, rfl⟩⟩)
  | mismatched hseed hkey hne =>
    exact replaceOwner_eq_error_iff.2 (.inr ⟨o, howner,
      .inr ⟨h.id_of_authorityBySeed? ho hrole hseed, Credential.not_matchesSeed hkey hne, rfl⟩⟩)
  | replaced hseed hkeyed hsplit' hrole' =>
    obtain ⟨rfl, rfl⟩ := List.cons_eq_cons.1 (hsplit.symm.trans hsplit')
    refine replaceOwner_eq_ok_iff.2 ⟨howner, h.id_of_authorityBySeed? ho hrole hseed,
      Credential.matchesSeed_iff.2 hkeyed, ?_⟩
    rw [hsplit, updateFirst, if_pos (beq_iff_eq.2 hrole), hrole]

lemma exists_replaces (h : w.Regular) (seed : Key) (c : Credential) :
    ∃ r, w.Replaces seed c r := by
  by_cases hseed : ∀ a ∈ w.authorities, a.role ≠ .owner → a.seed ≠ seed
  · by_cases hkeyed : ∀ key, c.ed25519Master? = some key → seed = key
    · obtain ⟨o, rest, hsplit, hrole, -⟩ := h.exists_owner
      exact ⟨_, .replaced hseed hkeyed hsplit hrole⟩
    · push Not at hkeyed
      obtain ⟨key, hkey, hne⟩ := hkeyed
      exact ⟨_, .mismatched hseed hkey hne⟩
  · push Not at hseed
    obtain ⟨a, ha, hrole, hs⟩ := hseed
    exact ⟨_, .taken ha hrole hs⟩

theorem replaceOwner_eq_iff (h : w.Regular) {r : Except RecordError (Wallet × Authority)} :
    w.replaceOwner seed c = r ↔ w.Replaces seed c r :=
  eq_iff_of_answers (h.exists_replaces seed c) fun _ => h.replaceOwner_eq

lemma setCounter_eq (h : w.Regular) {r : Except RecordError Wallet}
    (hr : w.Stores id counter r) : w.setCounter id counter = r := by
  cases hr with
  | unknown hid => exact setCounter_eq_error_iff.2 ⟨authority?_eq_none_iff.2 hid, rfl⟩
  | @stored a before after hsplit hid =>
    subst hid
    have hbefore := ne_id_of_ascending (hsplit ▸ h.ascending)
    refine setCounter_eq_ok_iff.2 ⟨by rw [h.authority?_of_split hsplit]; rfl, ?_⟩
    rw [hsplit, updateFirst_append hbefore (beq_self_eq_true a.id)]

theorem setCounter_eq_iff (h : w.Regular) {r : Except RecordError Wallet} :
    w.setCounter id counter = r ↔ w.Stores id counter r :=
  eq_iff_of_answers (exists_stores w id counter) fun _ => h.setCounter_eq

/-! ## What a change keeps -/

lemma inserted (h : w.Regular) (hi : w.Inserts role seed c (.ok (w', id))) : w'.Regular := by
  cases hi with
  | @added hrole hseed _ hkeyed id hid before after hsplit hbefore hafter =>
    have hasc := ascending_insertById (a := ⟨id, role, seed, 0, c⟩) h.ascending hid.unused
    obtain ⟨-, hapart, hold, hone, hzero⟩ := h
    rw [hsplit, insertById_append hbefore hafter] at hasc
    rw [hsplit] at hseed hapart hold hone hzero
    rw [List.forall_mem_append] at hold hzero
    refine ⟨hasc, nodup_seeds_split.2 ⟨hseed, hapart⟩,
      List.forall_mem_append.2 ⟨hold.1, List.forall_mem_cons.2 ⟨hkeyed, hold.2⟩⟩, ?_,
      List.forall_mem_append.2 ⟨hzero.1, List.forall_mem_cons.2 ⟨fun h => absurd h hrole, hzero.2⟩⟩⟩
    simpa [List.countP_append, List.countP_cons, hrole] using hone

lemma removed (h : w.Regular) (hr : w.Removes id (.ok (w', a))) : w'.Regular := by
  cases hr with
  | @removed _ before after hsplit hid hrole =>
    have hsub : (before ++ after).Sublist w.authorities := by
      rw [hsplit]
      exact (List.sublist_cons_self a after).append_left before
    refine ⟨h.ascending.sublist hsub, h.seedsApart.sublist (hsub.map _),
      fun b hb => h.keyed b (hsub.subset hb), ?_, fun b hb => h.ownerIsZero b (hsub.subset hb)⟩
    simpa [hsplit, hrole] using h.oneOwner

/-- An entry may be rewritten under its id and role, if no other one has its new seed. -/
lemma rewritten (h : w.Regular) (hsplit : w.authorities = before ++ a :: after)
    (hid : b.id = a.id) (hrole : b.role = a.role)
    (hkeyed : ∀ key, b.credential.ed25519Master? = some key → b.seed = key)
    (hseed : ∀ d ∈ before ++ after, d.seed ≠ b.seed) :
    ({ w with authorities := before ++ b :: after } : Wallet).Regular := by
  obtain ⟨hasc, hapart, hold, hone, hzero⟩ := h
  rw [hsplit] at hasc hapart hold hone hzero
  rw [List.forall_mem_append, List.forall_mem_cons] at hold hzero
  refine ⟨?_, nodup_seeds_split.2 ⟨hseed, (nodup_seeds_split.1 hapart).2⟩, ?_, ?_, ?_⟩
  · -- the ids are the old ones
    have hids : (before ++ b :: after).map (·.id) = (before ++ a :: after).map (·.id) := by
      rw [List.map_append, List.map_cons, hid, List.map_append, List.map_cons]
    have hasc := List.pairwise_map.2 hasc
    rw [← hids] at hasc
    exact List.pairwise_map.1 hasc
  · exact List.forall_mem_append.2 ⟨hold.1, List.forall_mem_cons.2 ⟨hkeyed, hold.2.2⟩⟩
  · simpa only [List.countP_append, List.countP_cons, hrole] using hone
  · refine List.forall_mem_append.2 ⟨hzero.1, List.forall_mem_cons.2 ⟨fun hrb => ?_, hzero.2.2⟩⟩
    rw [hid, hzero.2.1 (hrole ▸ hrb)]

lemma replaced (h : w.Regular) (hr : w.Replaces seed c (.ok (w', a))) : w'.Regular := by
  cases hr with
  | @replaced hseed hkeyed _ rest hsplit hrole =>
    have hrest : ∀ b ∈ rest, b.role ≠ .owner := by
      obtain ⟨o, others, hsplit', -, hothers⟩ := h.exists_owner
      rwa [(List.cons_eq_cons.1 (hsplit.symm.trans hsplit')).2]
    have hwhole : w.authorities = [] ++ a :: rest := hsplit
    refine h.rewritten hwhole rfl rfl hkeyed fun b hb => ?_
    exact hseed b (by rw [hsplit]; exact List.mem_cons_of_mem _ hb) (hrest b hb)

lemma stored (h : w.Regular) (hs : w.Stores id counter (.ok w')) : w'.Regular := by
  cases hs with
  | @stored a before after hsplit hid =>
    have ha : a ∈ w.authorities := by simp [hsplit]
    have hapart := h.seedsApart
    rw [hsplit] at hapart
    exact h.rewritten hsplit rfl rfl (h.keyed a ha) (nodup_seeds_split.1 hapart).1

end Regular

/-! ## Every wallet there is -/

lemma regular_of_new {walletId : Key} {bump vaultBump : UInt8}
    (h : Wallet.new walletId bump vaultBump seed c = .ok w) : w.Regular := by
  obtain ⟨hmatch, rfl⟩ := new_eq_ok_iff.1 h
  exact ⟨List.pairwise_singleton .., List.nodup_singleton _,
    List.forall_mem_singleton.2 (Credential.matchesSeed_iff.1 hmatch), rfl,
    List.forall_mem_singleton.2 fun _ => rfl⟩

/-- A change of a wallet, as a rule is asked for it. -/
inductive Change
  | insert (role : Role) (seed : Key) (credential : Credential)
  | remove (id : UInt8)
  | replaceOwner (seed : Key) (credential : Credential)
  | setCounter (id : UInt8) (counter : UInt32)

def change (w : Wallet) : Change → Except RecordError Wallet
  | .insert role seed credential => (w.insert role seed credential).map Prod.fst
  | .remove id => (w.remove id).map Prod.fst
  | .replaceOwner seed credential => (w.replaceOwner seed credential).map Prod.fst
  | .setCounter id counter => w.setCounter id counter

/-- The wallet after a change is tried. One that is refused leaves it as it was. -/
def attempt (w : Wallet) (d : Change) : Wallet :=
  match w.change d with
  | .ok w' => w'
  | .error _ => w

/-- The wallet after some changes are tried. -/
def run (w : Wallet) (changes : List Change) : Wallet := changes.foldl attempt w

lemma Regular.change {d : Change} (h : w.Regular) (hd : w.change d = .ok w') : w'.Regular := by
  cases d with
  | insert role seed credential =>
    obtain ⟨⟨w', id⟩, hi, rfl⟩ := map_eq_ok_iff.1 hd
    exact h.inserted (h.insert_eq_iff.1 hi)
  | remove id =>
    obtain ⟨⟨w', a⟩, hr, rfl⟩ := map_eq_ok_iff.1 hd
    exact h.removed (h.remove_eq_iff.1 hr)
  | replaceOwner seed credential =>
    obtain ⟨⟨w', a⟩, hr, rfl⟩ := map_eq_ok_iff.1 hd
    exact h.replaced (h.replaceOwner_eq_iff.1 hr)
  | setCounter id counter => exact h.stored (h.setCounter_eq_iff.1 hd)

lemma Regular.attempt (h : w.Regular) (d : Change) : (w.attempt d).Regular := by
  unfold Wallet.attempt
  split
  · next w' hd => exact h.change hd
  · exact h

theorem Regular.run (h : w.Regular) (changes : List Change) : (w.run changes).Regular := by
  induction changes generalizing w with
  | nil => exact h
  | cons d changes ih => exact ih (h.attempt d)

/-- Whatever was done to a new wallet, it is regular, and each rule answers as it should. -/
theorem rule_layer {walletId seed : Key} {bump vaultBump : UInt8} {c : Credential}
    {w₀ w : Wallet} {changes : List Change}
    (hnew : Wallet.new walletId bump vaultBump seed c = .ok w₀) (hw : w₀.run changes = w) :
    w.Regular ∧
    (w.nextFreeId? = none ↔ ∀ id, ∃ a ∈ w.authorities, a.id = id) ∧
    (∀ id, w.nextFreeId? = some id ↔ w.LeastUnused id) ∧
    (∀ role seed c r, w.insert role seed c = r ↔ w.Inserts role seed c r) ∧
    (∀ id r, w.remove id = r ↔ w.Removes id r) ∧
    (∀ seed c r, w.replaceOwner seed c = r ↔ w.Replaces seed c r) ∧
    (∀ id counter r, w.setCounter id counter = r ↔ w.Stores id counter r) ∧
    ∀ d e, w.change d = .error e → w.run [d] = w := by
  have h : w.Regular := hw ▸ (regular_of_new hnew).run changes
  refine ⟨h, nextFreeId?_eq_none_iff h.ascending, fun _ => nextFreeId?_eq_some_iff h.ascending,
    fun _ _ _ _ => h.insert_eq_iff, fun _ _ => h.remove_eq_iff,
    fun _ _ _ => h.replaceOwner_eq_iff, fun _ _ _ => h.setCounter_eq_iff, fun d e hd => ?_⟩
  simp only [Wallet.run, List.foldl_cons, List.foldl_nil, Wallet.attempt, hd]

end Wallet

namespace Sample

/-- The key that repeats one byte. -/
def keyOf (n : UInt8) : Key := .replicate 32 n

def soleOwner : Wallet := ⟨255, 254, keyOf 9, [⟨0, .owner, keyOf 1, 0, .ed25519 (keyOf 1)⟩]⟩

/-- Two entries come, the first of them goes, and the owner changes; the other requests are
refused. -/
def history : List Wallet.Change := [
  .insert .spender (keyOf 2) (.ed25519 (keyOf 2)),
  .insert .owner (keyOf 3) (.ed25519 (keyOf 3)),
  .insert .admin (keyOf 3) (.ed25519 (keyOf 3)),
  .insert .spender (keyOf 3) (.ed25519 (keyOf 4)),
  .insert .spender (keyOf 4) (.ed25519 (keyOf 5)),
  .remove 0,
  .remove 1,
  .replaceOwner (keyOf 3) (.ed25519 (keyOf 3)),
  .replaceOwner (keyOf 6) (.ed25519 (keyOf 6)),
  .setCounter 2 7,
  .setCounter 1 8]

/-- What the history leaves: id 1 is free again. -/
def survivors : Wallet where
  bump := 255
  vaultBump := 254
  walletId := keyOf 9
  authorities := [
    ⟨0, .owner, keyOf 6, 0, .ed25519 (keyOf 6)⟩, ⟨2, .admin, keyOf 3, 7, .ed25519 (keyOf 3)⟩]

theorem rules_after_history :
    Wallet.new (keyOf 9) 255 254 (keyOf 1) (.ed25519 (keyOf 1)) = .ok soleOwner ∧
      soleOwner.run history = survivors ∧ survivors.Regular ∧ survivors.LeastUnused 1 ∧
      survivors.Removes 0 (.error .cannotRemoveOwner) ∧
      survivors.insert .spender (keyOf 2) (.ed25519 (keyOf 2)) =
        .ok ({ survivors with authorities := [⟨0, .owner, keyOf 6, 0, .ed25519 (keyOf 6)⟩,
          ⟨1, .spender, keyOf 2, 0, .ed25519 (keyOf 2)⟩,
          ⟨2, .admin, keyOf 3, 7, .ed25519 (keyOf 3)⟩] }, 1) := by
  have hnew : Wallet.new (keyOf 9) 255 254 (keyOf 1) (.ed25519 (keyOf 1)) = .ok soleOwner := rfl
  have hrun : soleOwner.run history = survivors := by decide +kernel
  obtain ⟨hregular, -, hfree, hinsert, hremove, -⟩ := Wallet.rule_layer hnew hrun
  have hid : survivors.LeastUnused 1 := (hfree 1).1 (by decide +kernel)
  have hsplit : survivors.authorities =
      survivors.authorities.take 1 ++ survivors.authorities.drop 1 := rfl
  refine ⟨hnew, hrun, hregular, hid, (hremove 0 _).1 (by decide +kernel), (hinsert _ _ _ _).2 ?_⟩
  exact .added (by decide) (by decide +kernel) (by decide) (by rintro key ⟨⟩; rfl) hid hsplit
    (by decide +kernel) (by decide +kernel)

end Sample

end SmartWallet
